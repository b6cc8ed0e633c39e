import DataPath.Arbiter.Config
import DataPath.Event
import DataPath.Notice
import DataPath.Request

/-!
# The arbiter

The `Arbiter` decides which tenant may use the shared data path.  It never talks to
the modem: it sends connects to the switches of tenants and asks the owner to clean up
when somebody else wants in.  Ownership moves only when the owner's switch has
confirmed idle.

Every connect the arbiter sends carries a grant, which stays *outstanding* until the
switch has answered.  An owner that is idle with grants outstanding may be about to
leave idle again, so ownership does not move before all of them are answered.

At most one other tenant waits.  A newer activation of a third tenant takes its place.

The arbiter knows the switches only by the notices they send.  For each slot it keeps
the observable state last seen, and whether the radio went off and has not
come back on.
-/

namespace DataPath

/-- What the arbiter wants done. -/
inductive Arbiter.Effect where
  /-- Connect a class on the switch of a tenant; nobody waits for the answer. -/
  | connect (tenant : Tenant) (dataClass : DataClass) (grant : Grant)
  /-- Ask the switch of a tenant to let go of everything. -/
  | cleanupAll (tenant : Tenant)
  /-- Publish an event. -/
  | event (event : Event)
  deriving DecidableEq, Repr

/-- What becomes of a call to activate or deactivate a class. -/
inductive Arbiter.Verdict where
  /-- The caller is answered at once. -/
  | reply (outcome : Outcome)
  /-- The request goes to the switch of the tenant, with a grant if it is a connect, and
  the answer of the switch is the caller's answer. -/
  | forward (grant : Option Grant)
  deriving DecidableEq, Repr

/-- The activation that waits for the owner to become idle. -/
structure Arbiter.Pending where
  tenant : Tenant
  classes : ClassSet
  deriving DecidableEq, Repr

/-- What the arbiter knows of one slot. -/
structure Arbiter.Watch where
  /-- The last observable state of the switch. -/
  lastSeen : Snapshot
  /-- Whether the radio went off and has not come back on. -/
  recovering : Bool := false
  deriving DecidableEq, Repr

/-- The state of the arbiter as observers see it. -/
structure Arbiter.Status where
  /-- The tenant that holds the data path. -/
  owner : Option Tenant
  /-- The tenant that waits for it. -/
  pendingOwner : Option Tenant
  /-- The classes the waiting tenant will get. -/
  pendingClasses : ClassSet
  /-- The classes the owner will connect again after its release. -/
  reacquire : ClassSet
  /-- How many grants are not answered yet. -/
  grantsOutstanding : Nat
  /-- The last known state of every switch. -/
  tenants : List Snapshot
  deriving DecidableEq, Repr

/-- The owner of the data path, who waits for it, and what is known of the switches. -/
structure Arbiter where
  config : ArbiterConfig
  /-- The tenant that holds the data path. -/
  owner : Option Tenant := none
  /-- The activation that waits for the owner to become idle. -/
  pending : Option Arbiter.Pending := none
  /-- The classes the owner asked for while it was releasing. -/
  reacquire : ClassSet := ∅
  /-- Whether the owner was asked to clean up and has not become idle since. -/
  cleanupRequested : Bool := false
  /-- The grants that are not answered yet. -/
  outstanding : List Grant := []
  /-- The serial number of the last grant. -/
  lastGrant : Nat := 0
  /-- What is known of each slot. -/
  watches : List Arbiter.Watch
  /-- The effects not yet carried out, oldest first. -/
  outbox : List Arbiter.Effect := []
  deriving DecidableEq, Repr

namespace Arbiter

/-- An arbiter that has just started: nobody owns the data path and every switch is
taken to be idle. -/
def start (config : ArbiterConfig) : Arbiter where
  config := config
  watches := config.tenants.map fun t => ⟨Snapshot.idle t, false⟩

/-- What is known of a tenant, if it is one of the configured ones. -/
def watch? (a : Arbiter) (t : Tenant) : Option Watch := a.watches[t.slot]?

/-- Whether a tenant is one of the configured ones. -/
def knows (a : Arbiter) (t : Tenant) : Bool := t.slot < a.watches.length

/-- The last known state of the switch of a tenant. -/
def lastSeen? (a : Arbiter) (t : Tenant) : Option Snapshot := (a.watch? t).map Watch.lastSeen

/-- The last known phase of the switch of a tenant. -/
def phaseOf? (a : Arbiter) (t : Tenant) : Option Phase := (a.lastSeen? t).map Snapshot.phase

/-- The tenant that waits for the data path. -/
def pendingOwner (a : Arbiter) : Option Tenant := a.pending.map Pending.tenant

/-- The state as observers see it. -/
def status (a : Arbiter) : Status where
  owner := a.owner
  pendingOwner := a.pendingOwner
  pendingClasses := (a.pending.map Pending.classes).getD ∅
  reacquire := a.reacquire
  grantsOutstanding := a.outstanding.length
  tenants := a.watches.map Watch.lastSeen

/-- The arbiter with one more effect to be carried out. -/
def emit (a : Arbiter) (e : Effect) : Arbiter := { a with outbox := a.outbox ++ [e] }

/-- The arbiter with one more event to be published. -/
def publish (a : Arbiter) (e : Event) : Arbiter := a.emit (.event e)

/-- The effects to carry out now, and the arbiter without them. -/
def drain (a : Arbiter) : List Effect × Arbiter := (a.outbox, { a with outbox := [] })

/-- The next grant, and the arbiter that waits for its answer. -/
def issueGrant (a : Arbiter) : Grant × Arbiter :=
  let grant : Grant := ⟨a.lastGrant + 1⟩
  (grant, { a with lastGrant := a.lastGrant + 1, outstanding := a.outstanding ++ [grant] })

/-- Connect a class on the switch of a tenant, under a new grant. -/
def sendConnect (a : Arbiter) (t : Tenant) (c : DataClass) : Arbiter :=
  let (grant, a) := a.issueGrant
  a.emit (.connect t c grant)

/-- Ask the switch of a tenant to let go of everything, unless that was asked already. -/
def requestCleanup (a : Arbiter) (t : Tenant) : Arbiter :=
  if a.cleanupRequested then a else { a with cleanupRequested := true }.emit (.cleanupAll t)

/-- Give the data path to a tenant or to nobody.  A new owner starts with a clean
slate. -/
def setOwner (a : Arbiter) (owner : Option Tenant) : Arbiter :=
  if a.owner = owner then a
  else
    { a with owner := owner, cleanupRequested := false, reacquire := ∅ }.publish
      (.ownerChanged a.owner owner)

/-- Refuse an activation. -/
def reject (a : Arbiter) (t : Tenant) (c : DataClass) (reason : Refusal) : Arbiter × Verdict :=
  (a.publish (.activationRejected t c reason), .reply (.failed reason))

/-- Correct what is known of a tenant. -/
def amend (a : Arbiter) (t : Tenant) (f : Watch → Watch) : Arbiter :=
  { a with watches := a.watches.modify t.slot f }

end Arbiter

namespace Arbiter.Status

/-- The JSON form of a status. -/
def toJson (s : Status) : Json :=
  .record [("current_owner", Json.orNull Tenant.toJson s.owner),
    ("pending_owner", Json.orNull Tenant.toJson s.pendingOwner),
    ("pending_classes", s.pendingClasses.toJson), ("reacquire", s.reacquire.toJson),
    ("grants_outstanding", .nat s.grantsOutstanding),
    ("tenants", .list (s.tenants.map Snapshot.toJson))]

end Arbiter.Status

end DataPath
