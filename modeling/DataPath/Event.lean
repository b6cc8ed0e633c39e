import DataPath.Fault
import DataPath.Phase
import DataPath.Radio

/-!
# Events

Events tell observers what happened.  No decision is ever taken on them.
-/

namespace DataPath

open Text

/-- Something that happened to a tenant or to the ownership of the data path. -/
inductive Event where
  /-- The switch of a tenant changed phase. -/
  | phaseChanged (tenant : Tenant) (source target : Phase)
  /-- The modem reports that a class carries data. -/
  | classConnected (tenant : Tenant) (dataClass : DataClass)
  /-- A modem command for an earlier request failed. -/
  | requestFailed (tenant : Tenant) (dataClass : Option DataClass) (reason : Refusal)
  /-- A connect that was parked during a release is tried again. -/
  | deferredReplayed (tenant : Tenant) (dataClass : DataClass)
  /-- The radio of a tenant changed state. -/
  | radioChanged (tenant : Tenant) (source target : Radio)
  /-- The ownership of the data path moved. -/
  | ownerChanged (source target : Option Tenant)
  /-- A waiting activation was displaced by one of another tenant. -/
  | pendingReplaced (previous tenant : Tenant)
  /-- The arbiter refused an activation. -/
  | activationRejected (tenant : Tenant) (dataClass : DataClass) (reason : Refusal)
  /-- The default tenant was activated because its radio came back. -/
  | autoActivation (tenant : Tenant) (dataClass : DataClass)
  deriving DecidableEq, Repr

namespace Event

/-- Whether the event is about the ownership of the data path. -/
def isOwnership : Event → Bool
  | .ownerChanged .. | .pendingReplaced .. | .autoActivation .. => true
  | _ => false

/-- Whether the event reports a failure. -/
def isFailure : Event → Bool
  | .requestFailed .. | .activationRejected .. => true
  | _ => false

/-- The tenant an event is about; for a change of owner, the new owner. -/
def tenant? : Event → Option Tenant
  | .phaseChanged tenant .. | .classConnected tenant .. | .requestFailed tenant ..
  | .deferredReplayed tenant .. | .radioChanged tenant .. | .pendingReplaced _ tenant
  | .activationRejected tenant .. | .autoActivation tenant .. => some tenant
  | .ownerChanged _ target => target

/-- The dumped form. -/
def dump : Event → String
  | .phaseChanged tenant source target =>
    dumpRecord "TenantStateChanged"
      [("tenant", tenant.dump), ("from", source.label), ("to", target.label)]
  | .classConnected tenant c =>
    dumpRecord "ClassConnected" [("tenant", tenant.dump), ("class", c.dump)]
  | .requestFailed tenant c reason =>
    dumpRecord "RequestFailed"
      [("tenant", tenant.dump), ("class", dumpOption DataClass.dump c), ("reason", reason.dump)]
  | .deferredReplayed tenant c =>
    dumpRecord "DeferredReplayed" [("tenant", tenant.dump), ("class", c.dump)]
  | .radioChanged tenant source target =>
    dumpRecord "RadioStateChanged"
      [("tenant", tenant.dump), ("from", source.dump), ("to", target.dump)]
  | .ownerChanged source target =>
    dumpRecord "OwnerChanged"
      [("from", dumpOption Tenant.dump source), ("to", dumpOption Tenant.dump target)]
  | .pendingReplaced previous tenant =>
    dumpRecord "PendingReplaced" [("previous", previous.dump), ("tenant", tenant.dump)]
  | .activationRejected tenant c reason =>
    dumpRecord "ActivationRejected"
      [("tenant", tenant.dump), ("class", c.dump), ("reason", reason.dump)]
  | .autoActivation tenant c =>
    dumpRecord "AutoActivation" [("tenant", tenant.dump), ("class", c.dump)]

end Event

end DataPath
