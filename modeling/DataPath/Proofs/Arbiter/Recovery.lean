import DataPath.Proofs.Arbiter.Discipline

/-!
# The radio of the default tenant comes back

When a radio that was off is on again and nobody owns the data path, the arbiter may activate the
default class on the default tenant.  Whether the radio was off is in the records twice: in what
was last seen of the switch, and in the mark that a recovery is under way.  Both are written when
the switch tells that the radio changed, but a snapshot writes the first only.

The mark is a fact about the run: the radio was reported to go off and was not reported on since
(`recovering_iff`).  `recovery_of_run` says what hearing that the radio is on comes to with it, and
what without it.  The tenant is brought back exactly if the mark is there.  A radio that was last
seen off without the mark has been seen so in a snapshot, and then the recovery is missed:
`missed_after_snapshot` is such a run, which any arbiter makes that subscribes to a switch whose
radio is off already.
-/

namespace DataPath.Arbiter

variable {a : Arbiter} {config : ArbiterConfig} {ops : List Operation} {op : Operation}
  {t : Tenant} {w : Watch}

/-! ## What was reported of a radio -/

/-- The radio of a tenant was reported to go off, and was not reported on since. -/
def ReportedOff (t : Tenant) (ops : List Operation) : Prop :=
  ∃ earlier source later, ops = earlier ++ .hear (.radioChanged t source .off) :: later ∧
    ∀ source', .hear (.radioChanged t source' .on) ∉ later

theorem not_reportedOff_nil : ¬ReportedOff t [] := by
  rintro ⟨earlier, source, later, heq, -⟩
  simp at heq

/-- The last operation reports the radio off, or it was reported so before and the last operation
does not report it on. -/
theorem reportedOff_append_iff :
    ReportedOff t (ops ++ [op]) ↔
      (∃ source, op = .hear (.radioChanged t source .off)) ∨
        ReportedOff t ops ∧ ∀ source, op ≠ .hear (.radioChanged t source .on) := by
  constructor
  · rintro ⟨earlier, source, later, heq, hsince⟩
    rcases append_singleton_eq_iff.1 heq with ⟨-, -, rfl⟩ | ⟨l, rfl, hbefore⟩
    · exact .inl ⟨source, rfl⟩
    · refine .inr ⟨⟨earlier, source, l, hbefore, fun source' hmem => ?_⟩, fun source' hon => ?_⟩
      · exact hsince source' (List.mem_append_left _ hmem)
      · exact hsince source' (List.mem_append_right _ (hon ▸ List.mem_singleton_self _))
  · rintro (⟨source, rfl⟩ | ⟨⟨earlier, source, l, hbefore, hsince⟩, hnot⟩)
    · exact ⟨ops, source, [], rfl, fun _ => List.not_mem_nil⟩
    · refine ⟨earlier, source, l ++ [op], append_singleton_eq_iff.2 (.inr ⟨l, rfl, hbefore⟩),
        fun source' hmem => ?_⟩
      rcases List.mem_append.1 hmem with hmem | hmem
      · exact hsince source' hmem
      · exact hnot source' (List.mem_singleton.1 hmem).symm

/-- An operation that does not tell of the radio of a tenant makes no difference. -/
theorem reportedOff_append_of_ne
    (h : ∀ source radio, op ≠ .hear (.radioChanged t source radio)) :
    ReportedOff t (ops ++ [op]) ↔ ReportedOff t ops := by
  rw [reportedOff_append_iff]
  constructor
  · rintro (⟨source, rfl⟩ | ⟨hoff, -⟩)
    · exact absurd rfl (h source .off)
    · exact hoff
  · intro hoff
    exact .inr ⟨hoff, fun source => h source .on⟩

/-! ## What is known of a radio -/

/-- What is known of a tenant changes only as an operation is absorbed. -/
theorem watch?_run_append (config : ArbiterConfig) (ops : List Operation) (op : Operation)
    (t : Tenant) : (run config (ops ++ [op])).watch? t = ((run config ops).absorb op).watch? t := by
  unfold watch?
  rw [run_append, (acts (orderly_run config ops) op).watches]

/-- The radio of a tenant in a watch, and the mark, after an operation. -/
inductive Tuned (t : Tenant) (v w : Watch) : Operation → Prop where
  /-- The switch told of the radio. -/
  | told (source radio : Radio) (hseen : w.lastSeen.radio = radio)
      (hmark : w.recovering = (radio.isOff || (v.recovering && radio ≠ .on))) :
      Tuned t v w (.hear (.radioChanged t source radio))
  /-- The switch sent a snapshot. -/
  | pictured (s : Snapshot) (htenant : s.tenant = t) (hseen : w.lastSeen.radio = s.radio)
      (hmark : w.recovering = v.recovering) : Tuned t v w (.hear (.updated s))
  /-- Nothing was told of the radio. -/
  | silent (op : Operation) (hop : ∀ source radio, op ≠ .hear (.radioChanged t source radio))
      (hseen : w.lastSeen.radio = v.lastSeen.radio) (hmark : w.recovering = v.recovering) :
      Tuned t v w op

theorem tuned_absorb (op : Operation) (hw : (a.absorb op).watch? t = some w) :
    ∃ v, a.watch? t = some v ∧ Tuned t v w op := by
  cases op with
  | hear n =>
    rw [watch?_absorb_hear] at hw
    obtain ⟨v, hv, rfl⟩ := Option.map_eq_some_iff.1 hw
    refine ⟨v, hv, ?_⟩
    by_cases hsame : n.tenant = t
    · rw [if_pos hsame]
      cases n with
      | updated s => exact .pictured s hsame rfl rfl
      | radioChanged u source radio =>
        obtain rfl : u = t := hsame
        exact .told source radio rfl rfl
      | enteredIdle u replaying => exact .silent _ nofun rfl rfl
    · rw [if_neg hsame]
      refine .silent _ (fun source radio heq => hsame ?_) rfl rfl
      cases heq
      rfl
  | activate u c => exact ⟨w, hw, .silent _ nofun rfl rfl⟩
  | deactivate u c => exact ⟨w, hw, .silent _ nofun rfl rfl⟩
  | setDefaultTenant u => exact ⟨w, hw, .silent _ nofun rfl rfl⟩
  | grantAnswered g => exact ⟨w, hw, .silent _ nofun rfl rfl⟩
  | cleanupAnswered u outcome => exact ⟨w, hw, .silent _ nofun rfl rfl⟩
  | drain => exact ⟨w, hw, .silent _ nofun rfl rfl⟩

theorem watch?_start (hw : (start config).watch? t = some w) :
    w.recovering = false ∧ w.lastSeen.radio = .on := by
  have hw' : (config.tenants.map fun u => (⟨Snapshot.idle u, false⟩ : Watch))[t.slot]? = some w := hw
  rw [List.getElem?_map] at hw'
  obtain ⟨u, -, rfl⟩ := Option.map_eq_some_iff.1 hw'
  exact ⟨rfl, rfl⟩

/-- A recovery is under way exactly if the radio was reported off and not on since. -/
theorem recovering_iff (hw : (run config ops).watch? t = some w) :
    w.recovering = true ↔ ReportedOff t ops := by
  induction ops using List.reverseRecOn generalizing w with
  | nil =>
    have hnot : w.recovering = false := (watch?_start hw).1
    rw [hnot, Bool.false_eq_true, false_iff]
    exact not_reportedOff_nil
  | append_singleton ops op ih =>
    rw [watch?_run_append] at hw
    obtain ⟨v, hv, htuned⟩ := tuned_absorb op hw
    cases htuned with
    | told source radio hseen hmark =>
      rw [hmark, reportedOff_append_iff, ← ih hv]
      cases radio <;> simp [Radio.isOff]
    | pictured s htenant hseen hmark =>
      have hsilent : ∀ source radio, Operation.hear (.updated s) ≠
          .hear (.radioChanged t source radio) := by
        intro source radio heq
        cases heq
      rw [hmark, reportedOff_append_of_ne hsilent]
      exact ih hv
    | silent op hop hseen hmark =>
      rw [hmark, reportedOff_append_of_ne hop]
      exact ih hv

/-- A radio that was last seen off was reported off, or is off in a snapshot that was sent. -/
theorem reportedOff_or_pictured (hw : (run config ops).watch? t = some w)
    (hoff : w.lastSeen.radio = .off) :
    ReportedOff t ops ∨ ∃ s, .hear (.updated s) ∈ ops ∧ s.tenant = t ∧ s.radio = .off := by
  induction ops using List.reverseRecOn generalizing w with
  | nil =>
    rw [(watch?_start hw).2] at hoff
    cases hoff
  | append_singleton ops op ih =>
    rw [watch?_run_append] at hw
    obtain ⟨v, hv, htuned⟩ := tuned_absorb op hw
    cases htuned with
    | told source radio hseen hmark =>
      rw [hseen] at hoff
      subst hoff
      exact .inl (reportedOff_append_iff.2 (.inl ⟨source, rfl⟩))
    | pictured s htenant hseen hmark =>
      refine .inr ⟨s, by simp, htenant, ?_⟩
      rw [← hseen, hoff]
    | silent op hop hseen hmark =>
      rw [reportedOff_append_of_ne hop]
      rw [hseen] at hoff
      refine (ih hv hoff).imp_right ?_
      rintro ⟨s, hs, hrest⟩
      exact ⟨s, List.mem_append_left _ hs, hrest⟩

/-! ## Hearing that the radio is on -/

/-- A tenant is to be brought back when its radio is: nobody owns the data path, and it is the
default tenant of an arbiter that does such a thing. -/
structure Preferred (a : Arbiter) (t : Tenant) : Prop where
  auto : a.config.autoRecoverDefault = true
  free : a.owner = none
  default : a.config.defaultTenant = some t
  known : a.knows t = true

/-- A tenant gets the data path in an operation, and the default class is connected once. -/
structure BroughtBack (config : ArbiterConfig) (ops : List Operation) (op : Operation)
    (t : Tenant) (g : Grant) : Prop where
  owner : ((run config ops).after op).owner = some t
  /-- The change of owner and the activation are published, and one connect is sent. -/
  effects : (run config ops).emitted op = [.event (.ownerChanged none (some t)),
    .event (.autoActivation t (run config ops).config.defaultClass),
    .connect t (run config ops).config.defaultClass g]
  /-- The grant was not handed out before. -/
  fresh : ∀ later, ¬Handed config ops g later
  outstanding : g ∈ ((run config ops).after op).outstanding

theorem bringsBack_iff (h : a.Preferred t) :
    a.bringsBack t .on = true ↔ ∃ w, a.watch? t = some w ∧ w.recovering = true := by
  obtain ⟨hauto, hfree, hdefault, -⟩ := h
  unfold bringsBack
  rw [hauto, hfree, hdefault, decide_eq_true_eq]
  simp [Option.any_eq_true]

theorem broughtBack_of_bringsBack {source : Radio} (hfree : (run config ops).owner = none)
    (h : (run config ops).bringsBack t .on = true) :
    ∃ g, BroughtBack config ops (.hear (.radioChanged t source .on)) t g := by
  have hne : ((run config ops).absorb (.hear (.radioChanged t source .on))).owner ≠ some t := by
    rw [absorb_owner, hfree]
    nofun
  have hafter : (run config ops).after (.hear (.radioChanged t source .on)) =
      ((run config ops).absorb (.hear (.radioChanged t source .on))).autoActivate t := by
    show (run config ops).hearRadio t .on = _
    rw [(run config ops).hearRadio_eq t source .on, if_pos h]
  rw [autoActivate_eq _ hne, absorb_owner, hfree] at hafter
  have heffects := emitted_eq (congrArg outbox hafter)
  refine ⟨⟨(run config ops).lastGrant + 1⟩, congrArg owner hafter, heffects, ?_, ?_⟩
  · have hnew : ⟨(run config ops).lastGrant + 1⟩ ∈
        (run config ops).handedOut (.hear (.radioChanged t source .on)) := by
      rw [handedOut, heffects]
      exact List.mem_singleton_self _
    exact fun later => not_handed_of_handedOut hnew
  · rw [hafter]
    exact List.mem_append_right _ (List.mem_singleton_self _)

/-- After every run, a preferred tenant whose radio is on again gets the data path exactly if the
radio was reported to go off since it was last reported on.  Otherwise the arbiter only notes that
it is on; so a recovery that is missed is that of a radio which was seen off in a snapshot. -/
theorem recovery_of_run (config : ArbiterConfig) (ops : List Operation) (t : Tenant)
    (source : Radio) (h : (run config ops).Preferred t) :
    (ReportedOff t ops → ∃ g, BroughtBack config ops (.hear (.radioChanged t source .on)) t g) ∧
    (¬ReportedOff t ops →
      (run config ops).after (.hear (.radioChanged t source .on)) =
          (run config ops).absorb (.hear (.radioChanged t source .on)) ∧
        (run config ops).emitted (.hear (.radioChanged t source .on)) = []) ∧
    (((run config ops).lastSeen? t).map Snapshot.radio = some .off → ¬ReportedOff t ops →
      ∃ s, .hear (.updated s) ∈ ops ∧ s.tenant = t ∧ s.radio = .off) := by
  refine ⟨fun hoff => ?_, fun hnot => ?_, fun hseen hnot => ?_⟩
  · obtain ⟨w, hw⟩ := exists_watch h.known
    have hback := (bringsBack_iff h).2 ⟨w, hw, (recovering_iff hw).2 hoff⟩
    exact broughtBack_of_bringsBack h.free hback
  · have hback : (run config ops).bringsBack t .on = false := by
      by_contra hback
      obtain ⟨w, hw, hmark⟩ := (bringsBack_iff h).1 (by simpa using hback)
      exact hnot ((recovering_iff hw).1 hmark)
    have hafter : (run config ops).after (.hear (.radioChanged t source .on)) =
        (run config ops).absorb (.hear (.radioChanged t source .on)) := by
      show (run config ops).hearRadio t .on = _
      rw [(run config ops).hearRadio_eq t source .on, hback]
      rfl
    refine ⟨hafter, emitted_eq ?_⟩
    rw [hafter, List.append_nil]
  · obtain ⟨m, hm, hradio⟩ := Option.map_eq_some_iff.1 hseen
    obtain ⟨w, hw, rfl⟩ := Option.map_eq_some_iff.1 hm
    exact (reportedOff_or_pictured hw hradio).resolve_left hnot

/-- The radio of the default tenant goes off and comes back. -/
theorem recovery_of_change :
    let ops : List Operation := [.hear (.radioChanged ⟨0⟩ .on .off)]
    (run {} ops).Preferred ⟨0⟩ ∧
      ∃ g, BroughtBack {} ops (.hear (.radioChanged ⟨0⟩ .off .on)) ⟨0⟩ g := by
  have hpreferred : (run {} [.hear (.radioChanged ⟨0⟩ .on .off)]).Preferred ⟨0⟩ :=
    ⟨by decide, by decide, by decide, by decide⟩
  have hoff : ReportedOff ⟨0⟩ [.hear (.radioChanged ⟨0⟩ .on .off)] :=
    ⟨[], .on, [], rfl, fun _ => List.not_mem_nil⟩
  exact ⟨hpreferred, (recovery_of_run {} _ ⟨0⟩ .off hpreferred).1 hoff⟩

/-- The same radio, seen off in a snapshot instead: it is on again, and nothing happens. -/
theorem missed_after_snapshot :
    let a := run {} [.hear (.updated { Snapshot.idle ⟨0⟩ with radio := .off })]
    (a.config.autoRecoverDefault = true ∧ a.owner = none ∧ a.config.defaultTenant = some ⟨0⟩ ∧
        a.knows ⟨0⟩ = true ∧ (a.lastSeen? ⟨0⟩).map Snapshot.radio = some .off) ∧
      (a.after (.hear (.radioChanged ⟨0⟩ .off .on))).owner = none ∧
      a.emitted (.hear (.radioChanged ⟨0⟩ .off .on)) = [] := by
  decide

end DataPath.Arbiter
