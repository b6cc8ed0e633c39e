import DataPath.Snapshot

/-!
# Notices

Notices go to the subscribers of one switch, in order and without loss.  The
arbiter relies on them.  A subscriber takes every notice, or only those that tell
that the switch became idle.
-/

namespace DataPath

/-- A message to the subscribers of one switch. -/
inductive Notice where
  /-- The switch became idle and is about to try these parked connects again. -/
  | enteredIdle (tenant : Tenant) (replaying : List DataClass)
  /-- The observable state changed. -/
  | updated (snapshot : Snapshot)
  /-- The radio changed state. -/
  | radioChanged (tenant : Tenant) (source target : Radio)
  deriving DecidableEq, Repr

/-- The notices a subscriber takes. -/
inductive NoticeFilter where
  | idleOnly
  | all
  deriving DecidableEq, Repr

/-- Whether a subscriber with this filter takes the notice. -/
def Notice.passes : Notice → NoticeFilter → Bool
  | _, .all => true
  | .enteredIdle .., .idleOnly => true
  | _, .idleOnly => false

/-- The tenant a notice is about. -/
def Notice.tenant : Notice → Tenant
  | .enteredIdle tenant _ => tenant
  | .updated snapshot => snapshot.tenant
  | .radioChanged tenant _ _ => tenant

end DataPath
