import DataPath.Answer
import DataPath.Arbiter.Step

/-!
# The desk of the arbiter

Around the arbiter stand its clients, who send commands, and the switches of the
tenants, to which it sends requests.  What it takes in and what it does to the outside
is written down here; a list of actions is in the order in which they are done.

A request to a switch may serve two purposes.  A client may wait for the answer, and
the arbiter itself may have to know it: it *tracks* the connects that carry a grant,
and its own requests to clean up.

The type `κ` is that of the handles by which clients are answered.
-/

namespace DataPath.Arbiter

/-- Why the arbiter itself has to know the answer to a request. -/
inductive Tracked where
  /-- The request carries this grant. -/
  | grant (grant : Grant)
  /-- The request is to let go of everything. -/
  | cleanup
  deriving DecidableEq, Repr

/-- What a client wants. -/
inductive Command (κ : Type) where
  | activate (tenant : Tenant) (dataClass : DataClass) (client : κ)
  | deactivate (tenant : Tenant) (dataClass : DataClass) (client : κ)
  | status (client : κ)
  | setDefaultTenant (tenant : Option Tenant) (client : κ)
  /-- The arbiter is to stop. -/
  | shutdown
  deriving DecidableEq, Repr

/-- What the arbiter does to what is around it. -/
inductive Action (κ : Type) where
  /-- Send a request to the switch of a tenant. -/
  | send (tenant : Tenant) (request : Request) (tracked : Option Tracked) (client : Option κ)
  /-- Publish an event. -/
  | publish (event : Event)
  /-- Answer a client. -/
  | answer (client : κ) (answer : Answer)
  deriving DecidableEq, Repr

/-- The client behind a command, if somebody waits for it. -/
def Command.client? {κ : Type} : Command κ → Option κ
  | .activate _ _ client | .deactivate _ _ client | .status client
  | .setDefaultTenant _ client => some client
  | .shutdown => none

/-- What a client is answered when the arbiter is not there. -/
def Command.refused {κ : Type} : Command κ → Answer
  | .activate .. | .deactivate .. => .outcome (.failed .noReply)
  | .status _ | .setDefaultTenant .. => .fault .arbiterClosed
  | .shutdown => .nothing

variable {κ : Type}

/-- What an effect of the arbiter amounts to. -/
def perform : Effect → Action κ
  | .connect t c grant => .send t (.acquire c grant) (some (.grant grant)) none
  | .cleanupAll t => .send t .cleanupAll (some .cleanup) none
  | .event event => .publish event

/-- Carry out what the arbiter wants done, after some other actions. -/
def conclude (a : Arbiter) (actions : List (Action κ)) : Arbiter × List (Action κ) :=
  let (effects, a) := a.drain
  (a, actions ++ effects.map perform)

/-- The request that forwards an activation. -/
def forwarded (c : DataClass) : Option Grant → Request
  | some grant => .acquire c grant
  | none => .connect c

/-- What becomes of a verdict: the client is answered, or the request is sent on. -/
def execute (t : Tenant) (request : Option Grant → Request) (client : κ) : Verdict → Action κ
  | .reply outcome => .answer client (.outcome outcome)
  | .forward grant => .send t (request grant) (grant.map .grant) (some client)

/-- Serve a command.  The command to stop is not for the arbiter to serve. -/
def serve (a : Arbiter) : Command κ → Arbiter × List (Action κ)
  | .activate t c client =>
    let (a, verdict) := a.activate t c
    a.conclude [execute t (forwarded c) client verdict]
  | .deactivate t c client =>
    let (a, verdict) := a.deactivate t c
    a.conclude [execute t (fun _ => .disconnect c) client verdict]
  | .status client => a.conclude [.answer client (.status a.status)]
  | .setDefaultTenant t client => match a.setDefaultTenant t with
    | .ok a => a.conclude [.answer client .done]
    | .error reason => a.conclude [.answer client (.fault (.invalidConfig reason.message))]
  | .shutdown => (a, [])

/-- Take one notice of a switch. -/
def takeNotice (a : Arbiter) (notice : Notice) : Arbiter × List (Action κ) :=
  (a.hear notice).conclude []

/-- Take the answer of the switch of a tenant to a request that is tracked. -/
def takeAnswer (a : Arbiter) (t : Tenant) (tracked : Tracked) (outcome : Outcome) :
    Arbiter × List (Action κ) :=
  match tracked with
  | .grant grant => (a.grantAnswered grant).conclude []
  | .cleanup => (a.cleanupAnswered t outcome).conclude []

end DataPath.Arbiter
