import DataPath.Proofs.Arbiter.Discipline

/-!
# Notices that do not matter for the ownership

Switches send notices more often than the arbiter needs them: late ones, the same one twice,
notices of tenants that own nothing or that are not configured at all.  Only two kinds may move
anything besides what is known of the tenant: that the owner became idle, and that a radio is on
again while nobody owns the data path.  Any other notice is of a *bystander* (`OfBystander`), and
the arbiter takes it in and does nothing more (`hear_eq_absorb`).

As nothing else changes, the next notice finds the same owner, so that a list of notices of
bystanders may have any length (`unmoved_of_bystanders`).  `unmoved_of_run` says when notices are
of bystanders: all of them are about others than the owner, or there is no owner and none of them
tells of a radio.
-/

namespace DataPath

/-- Whether a notice tells of the radio of its tenant. -/
def Notice.tellsOfRadio : Notice → Bool
  | .radioChanged .. => true
  | .updated _ | .enteredIdle .. => false

namespace Arbiter

variable {a : Arbiter} {n : Notice} {ns : List Notice} {t : Tenant}

/-- A notice that is not about the owner and, if nobody owns the data path, not about a radio. -/
def OfBystander (owner : Option Tenant) (n : Notice) : Prop :=
  owner ≠ some n.tenant ∧ (owner = none → n.tellsOfRadio = false)

/-! ## One notice -/

/-- A notice of a bystander is taken in, and that is all. -/
theorem hear_eq_absorb (h : OfBystander a.owner n) : a.hear n = a.absorb (.hear n) := by
  obtain ⟨hother, hradio⟩ := h
  cases n with
  | updated s => rfl
  | radioChanged t source radio =>
    -- A radio that is on again could move the ownership only if it were free.
    have howned : a.owner.isNone = false := by
      by_contra hfree
      have hnone : a.owner = none := by simpa using hfree
      cases hradio hnone
    have hstays : a.bringsBack t radio = false := by
      unfold bringsBack
      simp [howned]
    show a.hearRadio t radio = _
    rw [a.hearRadio_eq t source radio, hstays]
    rfl
  | enteredIdle t replaying =>
    show a.hearIdle t = _
    unfold hearIdle
    exact if_neg hother

/-- A notice of a bystander emits nothing. -/
theorem emitted_of_bystander (h : OfBystander a.owner n) : a.emitted (.hear n) = [] := by
  refine emitted_eq ?_
  rw [List.append_nil]
  exact congrArg outbox (hear_eq_absorb h)

/-! ## Any number of notices -/

/-- What is known of a slot after those of some notices that are about its tenant. -/
def Watch.correctAll (w : Watch) (t : Tenant) (ns : List Notice) : Watch :=
  (ns.filter fun n => n.tenant = t).foldl Watch.correct w

theorem Watch.correctAll_cons (w : Watch) (t : Tenant) (n : Notice) (ns : List Notice) :
    w.correctAll t (n :: ns) = (if n.tenant = t then w.correct n else w).correctAll t ns := by
  by_cases hsame : n.tenant = t
  · simp [correctAll, hsame]
  · simp [correctAll, hsame]

/-- Without a notice about the tenant nothing is corrected. -/
theorem Watch.correctAll_of_forall_ne (w : Watch) (h : ∀ n ∈ ns, n.tenant ≠ t) :
    w.correctAll t ns = w := by
  have hnone : ns.filter (fun n => n.tenant = t) = [] := by
    rw [List.filter_eq_nil_iff]
    exact fun n hn => by simpa using h n hn
  rw [correctAll, hnone, List.foldl_nil]

/-- An arbiter takes in a list of notices, and nothing else about it changes. -/
structure Unmoved (a : Arbiter) (ns : List Notice) : Prop where
  /-- Nothing is emitted. -/
  effects : a.effectsOf (ns.map .hear) = []
  /-- Besides what is known of the slots, every record is the same: the owner, who waits, what is
  asked for again, whether a cleanup was requested, the grants, the configuration and what there
  was to carry out. -/
  records : (ns.map Operation.hear).foldl after a =
    { a with watches := ((ns.map Operation.hear).foldl after a).watches }
  /-- What is known of a tenant is corrected by the notices about it, in their order. -/
  corrected : ∀ t, ((ns.map Operation.hear).foldl after a).watch? t =
    (a.watch? t).map fun w => w.correctAll t ns
  /-- What is known of tenants that no notice is about stays. -/
  others : ∀ t, (∀ n ∈ ns, n.tenant ≠ t) →
    ((ns.map Operation.hear).foldl after a).watch? t = a.watch? t

/-- Notices of bystanders are taken in one after the other, and nothing else changes. -/
theorem unmoved_of_bystanders (h : ∀ n ∈ ns, OfBystander a.owner n) : a.Unmoved ns := by
  induction ns generalizing a with
  | nil =>
    refine ⟨rfl, rfl, fun t => ?_, fun t _ => rfl⟩
    show a.watch? t = (a.watch? t).map id
    rw [Option.map_id_fun, id_eq]
  | cons n ns ih =>
    obtain ⟨hfirst, hrest⟩ := List.forall_mem_cons.1 h
    have hafter : a.after (.hear n) = a.absorb (.hear n) := hear_eq_absorb hfirst
    have hunmoved : (a.absorb (.hear n)).Unmoved ns := by
      refine ih fun m hm => ?_
      rw [absorb_owner]
      exact hrest m hm
    have hcorrected : ∀ t, (((n :: ns).map Operation.hear).foldl after a).watch? t =
        (a.watch? t).map fun w => w.correctAll t (n :: ns) := by
      intro t
      rw [List.map_cons, List.foldl_cons, hafter, hunmoved.corrected t, watch?_absorb_hear,
        Option.map_map]
      refine congrArg (Option.map · _) (funext fun w => ?_)
      exact (w.correctAll_cons t n ns).symm
    constructor
    · rw [List.map_cons, effectsOf, emitted_of_bystander hfirst, List.nil_append, hafter]
      exact hunmoved.effects
    · rw [List.map_cons, List.foldl_cons, hafter]
      exact hunmoved.records
    · exact hcorrected
    · intro t hother
      rw [hcorrected t]
      have hsame : (fun w : Watch => w.correctAll t (n :: ns)) = id :=
        funext fun w => w.correctAll_of_forall_ne hother
      rw [hsame, Option.map_id_fun, id_eq]

/-- After every run, notices about others than the owner move nothing, and without an owner no
notices move anything unless they tell of a radio. -/
theorem unmoved_of_run (config : ArbiterConfig) (ops : List Operation) (ns : List Notice) :
    (∀ o, (run config ops).owner = some o → (∀ n ∈ ns, n.tenant ≠ o) →
      (run config ops).Unmoved ns) ∧
    ((run config ops).owner = none → (∀ n ∈ ns, n.tellsOfRadio = false) →
      (run config ops).Unmoved ns) := by
  constructor
  · intro o howner hothers
    refine unmoved_of_bystanders fun n hn => ?_
    rw [howner]
    refine ⟨fun heq => ?_, fun hnone => by cases hnone⟩
    exact hothers n hn (Option.some.inj heq).symm
  · intro hfree hsilent
    refine unmoved_of_bystanders fun n hn => ?_
    rw [hfree]
    exact ⟨nofun, fun _ => hsilent n hn⟩

/-- Slot 0 owns the data path, and nothing that the other slot and an unknown one send moves it;
while nobody does, late and repeated notices of slot 0 move nothing either, although its radio
went off before. -/
theorem unmoved_by_strays :
    ((run {} [.activate ⟨0⟩ .default]).owner = some ⟨0⟩ ∧
      (run {} [.activate ⟨0⟩ .default]).Unmoved [.radioChanged ⟨1⟩ .on .off,
        .radioChanged ⟨1⟩ .off .on, .updated { Snapshot.idle ⟨1⟩ with phase := .active },
        .enteredIdle ⟨1⟩ [.mms], .enteredIdle ⟨1⟩ [.mms], .enteredIdle ⟨7⟩ []]) ∧
    ((run {} [.hear (.radioChanged ⟨0⟩ .on .off)]).owner = none ∧
      (run {} [.hear (.radioChanged ⟨0⟩ .on .off)]).Unmoved [.enteredIdle ⟨0⟩ [],
        .enteredIdle ⟨0⟩ [], .updated (Snapshot.idle ⟨0⟩)]) :=
  ⟨⟨by decide, (unmoved_of_run {} _ _).1 ⟨0⟩ (by decide) (by decide)⟩,
    by decide, (unmoved_of_run {} _ _).2 (by decide) (by decide)⟩

end Arbiter

end DataPath
