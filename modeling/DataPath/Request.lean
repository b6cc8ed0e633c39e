import DataPath.Fault
import DataPath.Snapshot

/-!
# Requests and replies

What a switch can be asked, and what it answers.  Every request carries a number,
and the reply repeats it.  A connect that was decided by the arbiter carries a
*grant*: the arbiter's word that the tenant may leave idle.
-/

namespace DataPath

/-- The arbiter's permission to leave idle; no two have the same serial number. -/
structure Grant where
  serial : Nat
  deriving DecidableEq, Repr

/-- What a switch can be asked. -/
inductive Request where
  /-- Bring up a class. -/
  | connect (dataClass : DataClass)
  /-- Bring up a class, by the arbiter's decision. -/
  | acquire (dataClass : DataClass) (grant : Grant)
  /-- Let go of a class. -/
  | disconnect (dataClass : DataClass)
  /-- Ask the modem again for every class that is not connected. -/
  | retryConnect
  /-- Let go of everything. -/
  | cleanupAll
  /-- Is the switch idle? -/
  | isIdle
  /-- Is the switch idle or on its way to idle? -/
  | isIdleOrReleasing
  /-- What is the observable state? -/
  | snapshot
  deriving DecidableEq, Repr

/-- What a reply says. -/
inductive ReplyBody where
  | outcome (outcome : Outcome)
  | flag (value : Bool)
  | snapshot (snapshot : Snapshot)
  deriving DecidableEq, Repr

/-- An answer, with the number of the request it answers. -/
structure Reply where
  id : Nat
  body : ReplyBody
  deriving DecidableEq, Repr

end DataPath
