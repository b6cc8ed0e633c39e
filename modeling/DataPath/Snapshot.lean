import DataPath.ClassSet
import DataPath.Phase
import DataPath.Radio
import DataPath.Tenant

/-!
# Snapshots

A snapshot is what an observer may know about the switch of one tenant at one
moment.
-/

namespace DataPath

/-- The observable state of the switch of one tenant. -/
structure Snapshot where
  tenant : Tenant
  phase : Phase
  /-- The requested classes. -/
  classes : ClassSet
  /-- The requested classes that the modem reports connected. -/
  connected : ClassSet
  /-- How many connects are parked until the switch is idle. -/
  deferred : Nat
  radio : Radio
  deriving DecidableEq, Repr

namespace Snapshot

/-- The snapshot of a switch that has just started. -/
def idle (tenant : Tenant) : Snapshot where
  tenant := tenant
  phase := .idle
  classes := ∅
  connected := ∅
  deferred := 0
  radio := .on

/-- Whether a class other than the default one is connected. -/
def holdsNonDefault (s : Snapshot) : Bool := s.connected.hasNonDefault

end Snapshot

end DataPath
