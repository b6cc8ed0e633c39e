/-!
# Phases of a switch

The switch of a tenant goes round a cycle.  *Idle* holds nothing; *acquiring* has
classes requested and none connected; *active* carries at least one class;
*releasing* waits for the modem to confirm that everything was let go.
-/

namespace DataPath

/-- Phase of one tenant's use of the data path. -/
inductive Phase where
  | idle
  | acquiring
  | active
  | releasing
  deriving DecidableEq, Repr

namespace Phase

instance : Inhabited Phase := ⟨.idle⟩

/-- Every phase. -/
def all : List Phase := [.idle, .acquiring, .active, .releasing]

/-- Whether the tenant occupies the data path in any way. -/
def isOccupying (p : Phase) : Bool := p ≠ .idle

/-- Whether the tenant may add and drop classes: it is acquiring or active. -/
def isLive (p : Phase) : Bool := p = .acquiring ∨ p = .active

/-- The name shown to a reader. -/
def name : Phase → String
  | .idle => "idle"
  | .acquiring => "acquiring"
  | .active => "active"
  | .releasing => "releasing"

/-- The name used in data and in dumps. -/
def label : Phase → String
  | .idle => "Idle"
  | .acquiring => "Acquiring"
  | .active => "Active"
  | .releasing => "Releasing"

/-- The phase with exactly this name in data. -/
def ofLabel? (label : String) : Option Phase := all.find? fun p => p.label = label

end Phase

end DataPath
