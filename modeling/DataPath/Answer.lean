import DataPath.Arbiter.Basic
import DataPath.Channel
import DataPath.Modem.Basic

/-!
# What calls come to

A call ends with an answer.  The calls to a switch, to the arbiter and to the modem
have different kinds of answers; here they are gathered in one type, together with what
a call comes to when nobody is there to answer it.
-/

namespace DataPath

/-- What a call comes to. -/
inductive Answer where
  /-- Nothing is answered. -/
  | nothing
  | outcome (outcome : Outcome)
  | flag (value : Bool)
  | snapshot (snapshot : Option Snapshot)
  /-- The number of a subscription. -/
  | subscription (id : Nat)
  | status (status : Arbiter.Status)
  /-- It was done. -/
  | done
  /-- It could not be done. -/
  | fault (fault : ServiceFault)
  /-- There is no such switch. -/
  | noSwitch
  deriving DecidableEq, Repr

/-- The answer to a request with this number, given the reply that came, if any. -/
def Expect.read (expect : Expect) (id : Nat) (reply : Option Reply) : Answer :=
  match expect with
  | .outcome => .outcome (outcomeFrom id reply)
  | .flag => .flag (flagFrom id reply)
  | .snapshot => .snapshot (snapshotFrom id reply)

/-- The same for a caller that blocks; only outcomes and questions are offered to it. -/
def Expect.readBlocking (expect : Expect) (received : Received) : Answer :=
  match expect with
  | .outcome => .outcome received.outcome
  | .flag => .flag received.flag
  | .snapshot => .snapshot (received.bind fun r => snapshotFrom r.1 (some r.2))

end DataPath
