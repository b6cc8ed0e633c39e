import DataPath.Arbiter.Basic

/-!
# What the arbiter does

Callers ask to `activate` and `deactivate` classes and to change the default tenant.
Switches answer grants (`grantAnswered`) and requests to clean up
(`cleanupAnswered`), and send notices (`hear`).  Whatever changes what is known of
the owner ends in `settle`, which decides what that means for the ownership.
-/

namespace DataPath.Arbiter

/-- Connect again what the owner asked for while it was releasing. -/
def connectAgain (a : Arbiter) (owner : Tenant) : Arbiter :=
  a.reacquire.toList.foldl (fun a c => a.sendConnect owner c) { a with reacquire := ∅ }

/-- The owner is idle: hand the data path to whoever waits for it.  One whose radio has
gone off meanwhile is refused, class by class. -/
def handOver (a : Arbiter) : Arbiter :=
  match a.pending with
  | none => a.setOwner none
  | some p =>
    let a := { a with pending := none }
    if (a.lastSeen? p.tenant).all fun m => m.radio.isOff then
      p.classes.toList.foldl
        (fun a c => a.publish (.activationRejected p.tenant c (.radioOff p.tenant)))
        (a.setOwner none)
    else
      p.classes.toList.foldl (fun a c => a.sendConnect p.tenant c) (a.setOwner (some p.tenant))

/-- Decide what the state of the owner means for the ownership.  An idle owner with no
grant outstanding connects again what it asked for meanwhile, or else the data path is
handed over.  A live owner is asked to clean up when somebody waits.  A releasing
owner will be idle soon. -/
def settle (a : Arbiter) : Arbiter :=
  match a.owner with
  | none => a
  | some owner =>
    match a.phaseOf? owner with
    | none | some .releasing => a
    | some .idle =>
      if ¬a.outstanding.isEmpty then a
      else if a.pending.isNone ∧ ¬a.reacquire.isEmpty then a.connectAgain owner
      else { a with reacquire := ∅ }.handOver
    | some .acquiring | some .active =>
      if a.pending.isSome then a.requestCleanup owner
      else if ¬a.reacquire.isEmpty ∧ ¬a.cleanupRequested then a.connectAgain owner
      else a

/-- The first other tenant known to carry a class other than the default one. -/
def rival? (a : Arbiter) (t : Tenant) : Option Tenant :=
  ((a.watches.map Watch.lastSeen).find? fun m => m.tenant ≠ t && m.holdsNonDefault).map
    Snapshot.tenant

/-- Why an activation is refused, if it is: the tenant is unknown, its radio is off, or
the class is not the default one and another tenant carries such a class. -/
def refusal? (a : Arbiter) (t : Tenant) (c : DataClass) : Option Refusal :=
  match a.lastSeen? t with
  | none => some (.unknownTenant t)
  | some m =>
    if m.radio.isOff then some (.radioOff t)
    else if c.isDefault then none
    else (a.rival? t).map (.conflict c)

/-- An activation goes to the switch, with a new grant. -/
def forwardConnect (a : Arbiter) : Arbiter × Verdict :=
  let (grant, a) := a.issueGrant
  (a, .forward (some grant))

/-- The owner activates a class.  While it is releasing or has been asked to, the class
has to wait for the end of the release, and nobody else waits any more. -/
def activateOwner (a : Arbiter) (t : Tenant) (c : DataClass) : Arbiter × Verdict :=
  if a.cleanupRequested ∨ a.phaseOf? t = some .releasing ∨ a.pending.isSome then
    let queued := { a with reacquire := a.reacquire.insert c, pending := none }
    let told := match a.pending with
      | some p => queued.publish (.pendingReplaced p.tenant t)
      | none => queued
    (told.settle, .reply .started)
  else a.forwardConnect

/-- A tenant waits for the data path with a class, besides those it already waits
with; another that waited is displaced. -/
def await (a : Arbiter) (t : Tenant) (c : DataClass) : Arbiter :=
  match a.pending with
  | none => { a with pending := some ⟨t, ClassSet.empty.insert c⟩ }
  | some p =>
    if p.tenant = t then { a with pending := some ⟨t, p.classes.insert c⟩ }
    else
      { a with pending := some ⟨t, ClassSet.empty.insert c⟩ }.publish
        (.pendingReplaced p.tenant t)

/-- Decide what becomes of the activation of a class on a tenant. -/
def activate (a : Arbiter) (t : Tenant) (c : DataClass) : Arbiter × Verdict :=
  match a.refusal? t c with
  | some reason => a.reject t c reason
  | none =>
    match a.owner with
    | none => (a.setOwner (some t)).forwardConnect
    | some owner =>
      if owner = t then a.activateOwner t c
      else ({ a.await t c with reacquire := ∅ }.requestCleanup owner, .reply .started)

/-- A tenant no longer waits with a class; without classes nobody waits. -/
def withdraw (a : Arbiter) (t : Tenant) (c : DataClass) : Arbiter :=
  match a.pending with
  | some p =>
    if p.tenant = t ∧ c ∈ p.classes then
      let rest := p.classes.erase c
      { a with pending := if rest.isEmpty then none else some ⟨t, rest⟩ }
    else a
  | none => a

/-- Decide what becomes of the deactivation of a class on a tenant. -/
def deactivate (a : Arbiter) (t : Tenant) (c : DataClass) : Arbiter × Verdict :=
  if ¬a.knows t then (a, .reply (.failed (.unknownTenant t)))
  else
    let a := a.withdraw t c
    (if a.owner = some t then { a with reacquire := a.reacquire.erase c } else a, .forward none)

/-- Change the tenant preferred for the default class. -/
def setDefaultTenant (a : Arbiter) (tenant : Option Tenant) : Except Refusal Arbiter :=
  match tenant with
  | some t =>
    if a.knows t then .ok { a with config := { a.config with defaultTenant := tenant } }
    else .error (.unknownTenant t)
  | none => .ok { a with config := { a.config with defaultTenant := tenant } }

/-- A switch has answered a connect that carried a grant.  It does not matter what it
answered, or whether the answer was lost; only the first answer counts. -/
def grantAnswered (a : Arbiter) (grant : Grant) : Arbiter :=
  if grant ∈ a.outstanding then
    { a with outstanding := a.outstanding.erase grant }.settle
  else a

/-- A switch has answered the request to clean up.  When there was nothing to let go, no
notice of idle will follow. -/
def cleanupAnswered (a : Arbiter) (t : Tenant) (outcome : Outcome) : Arbiter :=
  if a.owner = some t ∧ outcome = .alreadyInactive then
    { a with cleanupRequested := false }.settle
  else a

/-- The observable state of a switch changed. -/
def hearUpdated (a : Arbiter) (s : Snapshot) : Arbiter :=
  a.amend s.tenant fun w => { w with lastSeen := s }

/-- Give the data path to the default tenant, whose radio has come back. -/
def autoActivate (a : Arbiter) (t : Tenant) : Arbiter :=
  ((a.setOwner (some t)).publish (.autoActivation t a.config.defaultClass)).sendConnect t
    a.config.defaultClass

/-- The radio of a tenant changed.  One that comes back on activates the default
tenant, if the data path is free and the configuration says so. -/
def hearRadio (a : Arbiter) (t : Tenant) (radio : Radio) : Arbiter :=
  match a.watch? t with
  | none => a
  | some w =>
    let seen := a.amend t fun w => { w with lastSeen := { w.lastSeen with radio := radio } }
    if radio.isOff then seen.amend t fun w => { w with recovering := true }
    else if radio = .on ∧ w.recovering then
      let back := seen.amend t fun w => { w with recovering := false }
      if a.config.autoRecoverDefault ∧ a.owner.isNone ∧ a.config.defaultTenant = some t then
        back.autoActivate t
      else back
    else seen

/-- The switch of a tenant became idle. -/
def hearIdle (a : Arbiter) (t : Tenant) : Arbiter :=
  let seen := a.amend t fun w =>
    { w with lastSeen :=
      { w.lastSeen with phase := .idle, classes := ∅, connected := ∅, deferred := 0 } }
  if a.owner = some t then { seen with cleanupRequested := false }.settle else seen

/-- Take one notice of a switch. -/
def hear (a : Arbiter) : Notice → Arbiter
  | .updated s => a.hearUpdated s
  | .radioChanged t _ radio => a.hearRadio t radio
  | .enteredIdle t _ => a.hearIdle t

end DataPath.Arbiter
