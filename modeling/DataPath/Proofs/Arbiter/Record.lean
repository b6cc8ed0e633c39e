import DataPath.Proofs.Arbiter.Run

/-!
# The records of the arbiter

Here nothing is assumed of a run of the arbiter: the configuration may be one that no
service starts with, notices may tell of any tenant and any phase, and answers may name any
grant.  Still the records make sense at any time (`Records`), and every slot the arbiter
looks up without asking is there.

The second part is said with a second account of the operations, in which a slot that is
looked up without asking may be missing, and then there is no result (`after?`).  The arbiter
looks up the slot of the owner when it settles and when the owner activates a class, and the
slot of a radio whose tenant is configured.  By `after?_eq` there is always a result, and it is
the one of `after`.
-/

namespace DataPath.Arbiter

variable {a a' : Arbiter}

/-! ## Operations that look up slots -/

/-- Settling, if the slot of the owner is there. -/
def settle? (a : Arbiter) : Option Arbiter :=
  match a.owner with
  | none => some a
  | some owner => do
    match ← a.phaseOf? owner with
    | .releasing => return a
    | .idle =>
      if ¬a.outstanding.isEmpty then return a
      else if a.pending.isNone ∧ ¬a.reacquire.isEmpty then return a.connectAgain owner
      else return { a with reacquire := ∅ }.handOver
    | .acquiring | .active =>
      if a.pending.isSome then return a.requestCleanup owner
      else if ¬a.reacquire.isEmpty ∧ ¬a.cleanupRequested then return a.connectAgain owner
      else return a

/-- The owner activates a class, if its slot is there. -/
def activateOwner? (a : Arbiter) (t : Tenant) (c : DataClass) : Option (Arbiter × Verdict) := do
  let phase ← a.phaseOf? t
  if a.cleanupRequested ∨ phase = .releasing ∨ a.pending.isSome then
    let queued := { a with reacquire := a.reacquire.insert c, pending := none }
    let told := match a.pending with
      | some p => queued.publish (.pendingReplaced p.tenant t)
      | none => queued
    return (← told.settle?, .reply .started)
  else return a.forwardConnect

/-- An activation, if the slots it looks up are there. -/
def activate? (a : Arbiter) (t : Tenant) (c : DataClass) : Option (Arbiter × Verdict) :=
  match a.refusal? t c with
  | some reason => some (a.reject t c reason)
  | none =>
    match a.owner with
    | none => some (a.setOwner (some t)).forwardConnect
    | some owner =>
      if owner = t then a.activateOwner? t c
      else some ({ a.await t c with reacquire := ∅ }.requestCleanup owner, .reply .started)

/-- The answer to a grant, if the slots it looks up are there. -/
def grantAnswered? (a : Arbiter) (grant : Grant) : Option Arbiter :=
  if grant ∈ a.outstanding then
    { a with outstanding := a.outstanding.erase grant }.settle?
  else some a

/-- The answer to a request to clean up, if the slots it looks up are there. -/
def cleanupAnswered? (a : Arbiter) (t : Tenant) (outcome : Outcome) : Option Arbiter :=
  if a.owner = some t ∧ outcome = .alreadyInactive then
    { a with cleanupRequested := false }.settle?
  else some a

/-- The radio of a configured tenant changes, if its slot is there. -/
def hearRadio? (a : Arbiter) (t : Tenant) (radio : Radio) : Option Arbiter :=
  if ¬a.knows t then some a
  else do
    let w ← a.watch? t
    let seen := a.amend t fun w => { w with lastSeen := { w.lastSeen with radio := radio } }
    if radio.isOff then return seen.amend t fun w => { w with recovering := true }
    else if radio = .on ∧ w.recovering then
      let back := seen.amend t fun w => { w with recovering := false }
      if a.config.autoRecoverDefault ∧ a.owner.isNone ∧ a.config.defaultTenant = some t then
        return back.autoActivate t
      else return back
    else return seen

/-- A switch became idle, if the slots that are looked up are there. -/
def hearIdle? (a : Arbiter) (t : Tenant) : Option Arbiter :=
  let seen := a.amend t fun w =>
    { w with lastSeen :=
      { w.lastSeen with phase := .idle, classes := ∅, connected := ∅, deferred := 0 } }
  if a.owner = some t then { seen with cleanupRequested := false }.settle? else some seen

/-- The arbiter after an operation, if all the slots it looks up are there. -/
def after? (a : Arbiter) : Operation → Option Arbiter
  | .activate t c => (a.activate? t c).map Prod.fst
  | .grantAnswered g => a.grantAnswered? g
  | .cleanupAnswered t outcome => a.cleanupAnswered? t outcome
  | .hear (.radioChanged t _ radio) => a.hearRadio? t radio
  | .hear (.enteredIdle t _) => a.hearIdle? t
  | .hear (.updated s) => some (a.hearUpdated s)
  | .deactivate t c => some (a.deactivate t c).1
  | .setDefaultTenant t => some ((a.setDefaultTenant t).toOption.getD a)
  | .drain => some a.drain.2

/-- The arbiter after a list of operations, if all the slots they look up are there. -/
def run? (config : ArbiterConfig) (ops : List Operation) : Option Arbiter :=
  ops.foldlM after? (start config)

/-! ## The slots are there -/

theorem settle?_eq (h : a.Orderly) : a.settle? = some a.settle := by
  unfold settle? settle
  cases howner : a.owner with
  | none => rfl
  | some o =>
    obtain ⟨p, hp⟩ := exists_phaseOf (h.known o howner)
    simp only [hp, Option.bind_eq_bind, Option.bind_some, Option.pure_def]
    cases p with
    | releasing => rfl
    | idle => simp only [apply_ite some]
    | acquiring => simp only [apply_ite some]
    | active => simp only [apply_ite some]

theorem activateOwner?_eq (h : a.Orderly) {t : Tenant} (c : DataClass) (howner : a.owner = some t) :
    a.activateOwner? t c = some (a.activateOwner t c) := by
  obtain ⟨p, hp⟩ := exists_phaseOf (h.known t howner)
  have hqueued := h.queued howner (a.reacquire.insert c)
  unfold activateOwner? activateOwner
  simp only [hp, Option.bind_eq_bind, Option.bind_some, Option.some.injEq, Option.pure_def]
  split
  · cases a.pending with
    | none => rw [settle?_eq (hqueued a.outbox), Option.bind_some]
    | some p =>
      have hsettled := settle?_eq (hqueued (a.outbox ++ [.event (.pendingReplaced p.tenant t)]))
      simp only [publish, emit]
      rw [hsettled, Option.bind_some]
  · rfl

theorem activate?_eq (h : a.Orderly) (t : Tenant) (c : DataClass) :
    a.activate? t c = some (a.activate t c) := by
  unfold activate? activate
  cases a.refusal? t c with
  | some reason => rfl
  | none =>
    cases howner : a.owner with
    | none => rfl
    | some o =>
      simp only
      split
      · next heq => exact activateOwner?_eq h c (heq ▸ howner)
      · rfl

theorem grantAnswered?_eq (h : a.Orderly) (g : Grant) :
    a.grantAnswered? g = some (a.grantAnswered g) := by
  unfold grantAnswered? grantAnswered
  split
  · exact settle?_eq (h.without g)
  · rfl

theorem cleanupAnswered?_eq (h : a.Orderly) (t : Tenant) (outcome : Outcome) :
    a.cleanupAnswered? t outcome = some (a.cleanupAnswered t outcome) := by
  unfold cleanupAnswered? cleanupAnswered
  split
  · exact settle?_eq h.unasked
  · rfl

theorem hearRadio?_eq (a : Arbiter) (t : Tenant) (radio : Radio) :
    a.hearRadio? t radio = some (a.hearRadio t radio) := by
  unfold hearRadio? hearRadio
  cases hw : a.watch? t with
  | none =>
    have hunknown : ¬a.knows t := by simpa [knows, watch?] using hw
    rw [if_pos hunknown]
  | some w =>
    have hknown : ¬¬a.knows t :=
      not_not_intro (knows_of_lastSeen (congrArg (Option.map Watch.lastSeen) hw))
    simp only [if_neg hknown, Option.bind_eq_bind, Option.bind_some, Option.pure_def,
      apply_ite some]

theorem hearIdle?_eq (h : a.Orderly) (t : Tenant) : a.hearIdle? t = some (a.hearIdle t) := by
  unfold hearIdle? hearIdle
  simp only
  split
  · exact settle?_eq (h.amend t _).unasked
  · rfl

/-- The slots that an operation looks up are there, if the records are orderly. -/
theorem after?_eq (h : a.Orderly) (op : Operation) : a.after? op = some (a.after op) := by
  cases op with
  | activate t c => exact congrArg (Option.map Prod.fst) (activate?_eq h t c)
  | deactivate t c => rfl
  | setDefaultTenant t => rfl
  | grantAnswered g => exact grantAnswered?_eq h g
  | cleanupAnswered t outcome => exact cleanupAnswered?_eq h t outcome
  | hear n =>
    cases n with
    | updated s => rfl
    | radioChanged t source radio => exact hearRadio?_eq a t radio
    | enteredIdle t replaying => exact hearIdle?_eq h t
  | drain => rfl

theorem run?_eq (config : ArbiterConfig) (ops : List Operation) :
    run? config ops = some (run config ops) := by
  induction ops using List.reverseRecOn with
  | nil => rfl
  | append_singleton ops op ih =>
    have hlast : run? config (ops ++ [op]) = (run? config ops).bind fun a => a.after? op := by
      simp [run?]
    rw [hlast, ih, Option.bind_some, after?_eq (orderly_run config ops), run_append]

/-! ## What the records say -/

/-- The records of an arbiter make sense for its configuration. -/
structure Records (config : ArbiterConfig) (a : Arbiter) : Prop where
  /-- The owner has a slot. -/
  owner : ∀ o, a.owner = some o → o.slot < config.tenantCount
  /-- Who waits has a slot too. -/
  waiting : ∀ p, a.pending = some p → p.tenant.slot < config.tenantCount
  /-- Who waits does so with a class and for another tenant, who asks for nothing then. -/
  pending : ∀ p, a.pending = some p →
    (∃ o, a.owner = some o ∧ p.tenant ≠ o) ∧ (∃ c, c ∈ p.classes) ∧ a.reacquire = ∅
  /-- Nothing is under way when nobody owns the data path. -/
  free : a.owner = none →
    a.pending = none ∧ a.reacquire = ∅ ∧ a.cleanupRequested = false ∧ a.outstanding = []
  /-- Outstanding grants were issued. -/
  serials : ∀ g ∈ a.outstanding, 1 ≤ g.serial ∧ g.serial ≤ a.lastGrant
  /-- There is a watch for each slot. -/
  slots : a.watches.length = config.tenantCount
  /-- The watch of a slot is of its tenant. -/
  watch : ∀ (i : Nat) (w : Watch), a.watches[i]? = some w → w.lastSeen.tenant = ⟨i⟩

/-- Every watch is of the tenant of its slot. -/
def Placed (watches : List Watch) : Prop :=
  ∀ (i : Nat) (w : Watch), watches[i]? = some w → w.lastSeen.tenant = ⟨i⟩

/-- A notice corrects the watch of its own tenant. -/
theorem tenant_correct {w : Watch} {n : Notice} (h : w.lastSeen.tenant = n.tenant) :
    (w.correct n).lastSeen.tenant = n.tenant := by
  cases n with
  | updated s => rfl
  | radioChanged t source radio => exact h
  | enteredIdle t replaying => exact h

/-- An operation that is absorbed leaves every watch where it is. -/
theorem placed_absorb (h : Placed a.watches) (op : Operation) :
    Placed (a.absorb op).watches ∧ (a.absorb op).watches.length = a.watches.length := by
  cases op with
  | hear n =>
    refine ⟨fun i w hw => ?_, List.length_modify ..⟩
    have hw' : (a.watches.modify n.tenant.slot fun w => w.correct n)[i]? = some w := hw
    rw [List.getElem?_modify, Option.map_eq_map, Option.map_eq_some_iff] at hw'
    obtain ⟨v, hv, heq⟩ := hw'
    subst heq
    split
    · next hslot =>
      have htenant : v.lastSeen.tenant = n.tenant := by rw [h i v hv, ← hslot]
      rw [tenant_correct htenant, ← hslot]
    · exact h i v hv
  | activate t c => exact ⟨h, rfl⟩
  | deactivate t c => exact ⟨h, rfl⟩
  | setDefaultTenant t => exact ⟨h, rfl⟩
  | grantAnswered g => exact ⟨h, rfl⟩
  | cleanupAnswered t outcome => exact ⟨h, rfl⟩
  | drain => exact ⟨h, rfl⟩

theorem placed_start (config : ArbiterConfig) :
    Placed (start config).watches ∧ (start config).watches.length = config.tenantCount := by
  refine ⟨fun i w hw => ?_, by simp [start, ArbiterConfig.tenants, Tenant.firsts]⟩
  simp only [start, ArbiterConfig.tenants, Tenant.firsts, List.map_map, List.getElem?_map,
    Option.map_eq_some_iff, Function.comp_apply] at hw
  obtain ⟨j, hj, rfl⟩ := hw
  obtain ⟨hlt, heq⟩ := List.getElem?_eq_some_iff.1 hj
  rw [List.getElem_range] at heq
  rw [heq]
  rfl

theorem placed_run (config : ArbiterConfig) (ops : List Operation) :
    Placed (run config ops).watches ∧ (run config ops).watches.length = config.tenantCount := by
  induction ops using List.reverseRecOn with
  | nil => exact placed_start config
  | append_singleton ops op ih =>
    obtain ⟨hplaced, hlen⟩ := placed_absorb ih.1 op
    rw [run_append, (acts (orderly_run config ops) op).watches]
    exact ⟨hplaced, hlen.trans ih.2⟩

/-- Absorbing an operation makes no grant outstanding. -/
theorem outstanding_absorb_subset (a : Arbiter) (op : Operation) :
    (a.absorb op).outstanding ⊆ a.outstanding := by
  cases op with
  | grantAnswered g => exact List.erase_subset
  | activate t c => exact List.Subset.refl _
  | deactivate t c => exact List.Subset.refl _
  | setDefaultTenant t => exact List.Subset.refl _
  | cleanupAnswered t outcome => exact List.Subset.refl _
  | hear n => exact List.Subset.refl _
  | drain => exact List.Subset.refl _

/-- Grants are numbered from one. -/
theorem serial_pos_run (config : ArbiterConfig) (ops : List Operation) :
    ∀ g ∈ (run config ops).outstanding, 1 ≤ g.serial := by
  induction ops using List.reverseRecOn with
  | nil => exact nofun
  | append_singleton ops op ih =>
    intro g hg
    have hacts := acts (orderly_run config ops) op
    rw [run_append, hacts.outstanding, List.mem_append] at hg
    rcases hg with hg | hg
    · exact ih g (outstanding_absorb_subset _ op hg)
    · exact Nat.succ_le_of_lt (Nat.lt_of_le_of_lt (Nat.zero_le _) (hacts.fresh g hg))

/-- After every run of operations the records make sense, and no operation of the run looked
up a slot that is not there. -/
theorem records_of_run (config : ArbiterConfig) (ops : List Operation) :
    run? config ops = some (run config ops) ∧ Records config (run config ops) := by
  have horderly := orderly_run config ops
  obtain ⟨hplaced, hlen⟩ := placed_run config ops
  have hslot : ∀ t, (run config ops).knows t = true → t.slot < config.tenantCount := by
    intro t ht
    unfold knows at ht
    rw [hlen] at ht
    exact of_decide_eq_true ht
  refine ⟨run?_eq config ops, fun o ho => hslot o (horderly.known o ho),
    fun p hp => hslot p.tenant (horderly.pending p hp).1, fun p hp => ?_, horderly.free,
    fun g hg => ⟨serial_pos_run config ops g hg, horderly.issued g hg⟩, hlen, hplaced⟩
  obtain ⟨-, hne, hsome, hnone⟩ := horderly.pending p hp
  refine ⟨?_, hsome, hnone⟩
  cases ho : (run config ops).owner with
  | none =>
    rw [(horderly.free ho).1] at hp
    cases hp
  | some o =>
    refine ⟨o, rfl, fun heq => hne ?_⟩
    rw [ho, heq]

end DataPath.Arbiter
