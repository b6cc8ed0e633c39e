import DataPath.Proofs.Switch.Refusal

/-!
# What a switch tells its subscribers

Three kinds of notices leave a switch, and they overlap.  The end of a release is told on its own
account, and so is a change of the radio; and whenever the observable state has changed in the end,
the new one is told as a whole.  So whoever has heard everything knows the state from the last
notice alone (`Reports`).

This is shown for whatever a switch takes in (`tells_handle`, `tells_hear`).  Rules that tell nothing
of their own are *mute*, and then only the change is told.  The other two, the end of a release and
a change of the radio, always change the observable state.

Effects are carried out in rounds, and what a refused command makes the switch tell belongs to the
next round (`tellings`).  When everything is carried out, all the notices together still report the
state (`reports_tellings`).
-/

namespace DataPath.Switch

variable {ρ : Type} {s s' s₁ s₂ s₃ : Switch ρ} {accepts : Nat → Bool}

/-! ## Reports -/

/-- Notices of a tenant that report how its observable state has changed: if there are any, then
the last of them tells the new state, and without any it is the old one. -/
structure Reports (before : Snapshot) (ns : List Notice) (after : Snapshot) : Prop where
  tenant : after.tenant = before.tenant
  about : ∀ n ∈ ns, n.tenant = before.tenant
  last : ns = [] ∧ after = before ∨ ns.getLast? = some (.updated after)

theorem Reports.refl (m : Snapshot) : Reports m [] m := ⟨rfl, nofun, .inl ⟨rfl, rfl⟩⟩

/-- Reports that follow one another are one report. -/
theorem Reports.trans {m₁ m₂ m₃ : Snapshot} {ns ns' : List Notice} (h : Reports m₁ ns m₂)
    (h' : Reports m₂ ns' m₃) : Reports m₁ (ns ++ ns') m₃ where
  tenant := h'.tenant.trans h.tenant
  about n hn := by
    rcases List.mem_append.1 hn with hn | hn
    · exact h.about n hn
    · exact (h'.about n hn).trans h.tenant
  last := by
    rcases h'.last with ⟨rfl, rfl⟩ | hlast
    · simpa using h.last
    · exact .inr (by rw [List.getLast?_append, hlast, Option.some_or])

/-- The notices that an operation adds to the outbox report what it has changed. -/
def Tells (s s' : Switch ρ) : Prop :=
  ∃ new, s'.outbox = s.outbox ++ new ∧ Reports s.snapshot (notices new) s'.snapshot

theorem Tells.refl (s : Switch ρ) : Tells s s := ⟨[], by simp, Reports.refl _⟩

theorem Tells.trans (h : Tells s₁ s₂) (h' : Tells s₂ s₃) : Tells s₁ s₃ := by
  obtain ⟨new, hout, hreports⟩ := h
  obtain ⟨new', hout', hreports'⟩ := h'
  exact ⟨new ++ new', by rw [hout', hout, List.append_assoc], by simpa using hreports.trans hreports'⟩

/-! ## Mute operations -/

/-- An operation that adds no notice to the outbox. -/
structure Mute (s s' : Switch ρ) : Prop where
  tenant : s'.tenant = s.tenant
  outbox : ∃ new, s'.outbox = s.outbox ++ new ∧ notices new = []

theorem Mute.of_eq (htenant : s'.tenant = s.tenant) (hout : s'.outbox = s.outbox) : Mute s s' :=
  ⟨htenant, [], by simpa using hout, rfl⟩

theorem Mute.refl (s : Switch ρ) : Mute s s := Mute.of_eq rfl rfl

theorem Mute.trans (h : Mute s₁ s₂) (h' : Mute s₂ s₃) : Mute s₁ s₃ := by
  obtain ⟨new, hout, hnone⟩ := h.outbox
  obtain ⟨new', hout', hnone'⟩ := h'.outbox
  exact ⟨h'.tenant.trans h.tenant, new ++ new', by rw [hout', hout, List.append_assoc],
    by simp [hnone, hnone']⟩

theorem Adds.mute {new : List (Effect ρ)} (h : Adds s s' new) (hnone : notices new = []) :
    Mute s s' := ⟨h.tenant, new, h.outbox, hnone⟩

theorem mute_emit (s : Switch ρ) {e : Effect ρ} (he : e.notice? = none) : Mute s (s.emit e) :=
  ⟨rfl, [e], rfl, by simp [he]⟩

theorem mute_answer (s : Switch ρ) (handle : Option ρ) (id : Nat) (body : ReplyBody) :
    Mute s (s.answer handle id body) := (adds_answer s handle id body).mute (by simp)

theorem mute_settle (s : Switch ρ) : Mute s s.settle := by
  obtain ⟨new, hadds, hquiet, -⟩ := s.adds_settle
  exact hadds.mute hquiet.1

theorem mute_connect (s : Switch ρ) (id : Nat) (c : DataClass) (handle : Option ρ)
    (grant : Option Grant) : Mute s (s.connect id c handle grant) := by
  have htrack : Mute s (s.track c) := (adds_track s c).mute rfl
  rcases s.connect_rules id c handle grant with ⟨o, h⟩ | ⟨-, h⟩ | ⟨-, -, h⟩ | ⟨-, -, -, h⟩ | ⟨-, -, h⟩
  · rw [h]
    exact mute_answer s _ _ _
  · rw [h]
    exact Mute.of_eq rfl rfl
  · rw [h]
    exact mute_emit s rfl
  · rw [h]
    exact (htrack.trans ((adds_enter _ _).mute (by simp))).trans (mute_answer _ _ _ _)
  · rw [h]
    exact htrack.trans (mute_answer _ _ _ _)

theorem mute_foldl_replay (s : Switch ρ) (ps : List (Parked ρ)) : Mute s (ps.foldl replay s) := by
  induction ps generalizing s with
  | nil => exact Mute.refl s
  | cons p ps ih => exact ((mute_emit s rfl).trans (mute_connect _ _ _ _ _)).trans (ih _)

/-- Requests are mute. -/
theorem mute_serve (s : Switch ρ) (id : Nat) (request : Request) (handle : Option ρ) :
    Mute s (s.serve id request handle) := by
  cases request with
  | connect c => exact mute_connect s id c handle none
  | acquire c grant => exact mute_connect s id c handle (some grant)
  | disconnect c =>
    obtain ⟨new, hadds, hquiet, -⟩ := s.disconnect_spec c
    exact (hadds.mute hquiet.1).trans (mute_answer _ _ _ _)
  | retryConnect =>
    obtain ⟨new, hadds, hquiet, -⟩ := s.retryConnect_spec
    exact (hadds.mute hquiet.1).trans (mute_answer _ _ _ _)
  | cleanupAll =>
    obtain ⟨new, hadds, hquiet, -⟩ := s.cleanupAll_spec
    exact (hadds.mute hquiet.1).trans (mute_answer _ _ _ _)
  | isIdle | isIdleOrReleasing | snapshot => exact mute_answer s _ _ _

/-! ## Telling of a change -/

@[simp] theorem snapshot_publishChange (s : Switch ρ) (before : Snapshot) :
    (s.publishChange before).snapshot = s.snapshot := by
  rw [publishChange_eq]
  rfl

/-- After a mute operation only the change is told. -/
theorem Mute.tells (h : Mute s s') : Tells s (s'.publishChange s.snapshot) := by
  obtain ⟨new, hout, hnone⟩ := h.outbox
  refine ⟨new ++ changeNotice s.snapshot s'.snapshot, by rw [publishChange_eq, hout]; simp, ?_⟩
  rw [notices_append, hnone, List.nil_append, snapshot_publishChange]
  unfold changeNotice
  split
  · next hsame =>
    rw [hsame]
    exact Reports.refl _
  · refine ⟨h.tenant, fun n hn => ?_, .inr rfl⟩
    have heq : n = .updated s'.snapshot := by simpa [Effect.notice?] using hn
    rw [heq]
    exact h.tenant

/-- An operation that changes the observable state may tell something before the new state. -/
theorem tells_of_change (new : List (Effect ρ)) (hout : s'.outbox = s.outbox ++ new)
    (htenant : s'.tenant = s.tenant) (habout : ∀ n ∈ notices new, n.tenant = s.tenant)
    (hchange : s'.snapshot ≠ s.snapshot) : Tells s (s'.publishChange s.snapshot) := by
  refine ⟨new ++ [.notice (.updated s'.snapshot)], ?_, ?_⟩
  · rw [publishChange_eq, changeNotice, if_neg hchange, hout, List.append_assoc]
  · rw [snapshot_publishChange]
    refine ⟨htenant, fun n hn => ?_, .inr (by simp [Effect.notice?])⟩
    simp only [notices_append, notices_cons, notices_nil, Effect.notice?, Option.toList_some,
      List.append_nil, List.mem_append, List.mem_singleton] at hn
    rcases hn with hn | rfl
    · exact habout n hn
    · exact htenant

/-- A request reports what it changes. -/
theorem tells_handle (s : Switch ρ) (id : Nat) (request : Request) (handle : Option ρ) :
    Tells s (s.handle id request handle) := (mute_serve s id request handle).tells

/-- The end of a release tells that the switch was idle, and what it is now. -/
theorem tells_completeRelease (h : s₁.phase = .releasing) (hsnapshot : s₁.snapshot = s.snapshot)
    (hout : s₁.outbox = s.outbox) : Tells s (s₁.completeRelease.publishChange s.snapshot) := by
  have htenant : s₁.tenant = s.tenant := congrArg Snapshot.tenant hsnapshot
  have hphase : s.phase = .releasing := (congrArg Snapshot.phase hsnapshot).symm.trans h
  let idle := { s₁ with releaseToken := none, classes := ∅, connected := ∅, parked := [] }.enter .idle
  let told := idle.emit (.notice (.enteredIdle s₁.tenant (s₁.parked.map Parked.dataClass)))
  have htold : told.tenant = s₁.tenant ∧ told.phase = .idle ∧ told.outbox = s₁.outbox ++
      (phaseEvent s₁.tenant s₁.phase .idle ++
        [.notice (.enteredIdle s₁.tenant (s₁.parked.map Parked.dataClass))]) := by
    simp only [told, idle, enter_eq, emit, List.append_assoc, and_self]
  obtain ⟨htold, hidle, houtbox⟩ := htold
  obtain ⟨new, hreplayed, hnone⟩ := (mute_foldl_replay told s₁.parked).outbox
  have hphases : s₁.completeRelease.phase ≠ .releasing :=
    (foldl_replay_of_ne_releasing (s := told) (by rw [hidle]; decide) s₁.parked).1
  refine tells_of_change _ (hreplayed.trans (by rw [houtbox, hout, List.append_assoc])) ?_ ?_ ?_
  · exact ((mute_foldl_replay told s₁.parked).tenant.trans htold).trans htenant
  · simp [hnone, Effect.notice?, Notice.tenant, htenant]
  · intro heq
    exact hphases ((congrArg Snapshot.phase heq).trans hphase)

/-- The end of a command reports what it changes. -/
theorem tells_finish (s : Switch ρ) (token : Nat) (command : Command) (fault : Option ModemFault) :
    Tells s (((s.without token).finish token command fault).publishChange s.snapshot) := by
  have hwithout : Mute s (s.without token) := Mute.of_eq rfl rfl
  unfold finish
  split
  · exact hwithout.tells
  · exact hwithout.tells
  · next c f =>
    have hfailed := hwithout.trans ((adds_failed (s.without token) c f).mute rfl)
    simp only
    split
    · exact (hfailed.trans (mute_settle _)).tells
    · exact hfailed.tells
  · exact (hwithout.trans (mute_emit _ rfl)).tells
  · split
    · next hreleased => exact tells_completeRelease hreleased.1 rfl rfl
    · exact hwithout.tells

/-- A report on the radio is passed on if it is news. -/
theorem tells_radioReported (s : Switch ρ) (radio : Radio) :
    Tells s ((s.radioReported radio).publishChange s.snapshot) := by
  unfold radioReported
  split
  · exact (Mute.refl s).tells
  · next hnews =>
    have hadds := adds_radio s radio
    simp only
    split
    · have hreleases := hadds.trans (adds_beginRelease _)
      refine tells_of_change _ hreleases.outbox hreleases.tenant ?_ ?_
      · simp [Effect.notice?, Notice.tenant]
      · intro heq
        rw [beginRelease_eq] at heq
        exact hnews (congrArg Snapshot.radio heq)
    · refine tells_of_change _ hadds.outbox hadds.tenant ?_ ?_
      · simp [Effect.notice?, Notice.tenant]
      · exact fun heq => hnews (congrArg Snapshot.radio heq)

/-- A signal reports what it changes. -/
theorem tells_hear (s : Switch ρ) (signal : Signal) : Tells s (s.hear signal) := by
  cases signal with
  | completed token fault =>
    unfold hear
    simp only
    split
    · exact Tells.refl s
    · next command _ => exact tells_finish s token command fault
  | radio state => exact tells_radioReported s state
  | classConnected c =>
    refine Mute.tells ?_
    unfold classConnected
    split
    · split
      · exact (adds_enter s _).mute (by simp)
      · exact ((adds_connected s c).mute rfl).trans ((adds_enter _ _).mute (by simp))
    · exact Mute.refl s

/-! ## Carrying out effects -/

/-- The notices of all effects of a switch that are carried out for so many rounds, in the order in
which they were added to the outbox. -/
def tellingsFor (accepts : Nat → Bool) : Nat → Switch ρ → List Notice
  | 0, _ => []
  | rounds + 1, s =>
    if s.outbox.isEmpty then [] else notices s.outbox ++ (s.round accepts).tellingsFor accepts rounds

/-- The notices of all effects of a switch, those of refused commands included, in the order in
which they were added to the outbox. -/
def tellings (accepts : Nat → Bool) (s : Switch ρ) : List Notice := s.tellingsFor accepts maxRounds

theorem isEmpty_drain (s : Switch ρ) : s.drain.1.isEmpty = s.outbox.isEmpty := by
  unfold drain
  cases s.outbox with
  | nil => rfl
  | cons e es => cases he : e.isAnswer <;> simp [he]

/-- Carrying out effects keeps the order of the notices. -/
theorem notices_carryOutFor (accepts : Nat → Bool) (rounds : Nat) (s : Switch ρ) :
    notices (s.carryOutFor accepts rounds).2 = s.tellingsFor accepts rounds := by
  induction rounds generalizing s with
  | zero => rfl
  | succ rounds ih =>
    unfold carryOutFor tellingsFor
    simp only [isEmpty_drain]
    split
    · rfl
    · rw [notices_append, notices_drain]
      exact congrArg _ (ih _)

/-- A round reports what it changes. -/
theorem tells_round (accepts : Nat → Bool) (s : Switch ρ) :
    Reports s.snapshot (notices (s.round accepts).outbox) (s.round accepts).snapshot := by
  have htells : Tells { s with outbox := [] } (s.round accepts) :=
    round_induction (P := fun x => Tells { s with outbox := [] } x) (Tells.refl _)
      fun x hx _ _ => hx.trans (tells_hear x _)
  obtain ⟨new, hout, hreports⟩ := htells
  rw [hout]
  exact hreports

/-- What was told before, what is told in some rounds and what is still to be told make one
report. -/
theorem reports_carryOutFor (accepts : Nat → Bool) (rounds : Nat) {before : Snapshot}
    (h : Reports before (notices s.outbox) s.snapshot) :
    Reports before
      (s.tellingsFor accepts rounds ++ notices (s.carryOutFor accepts rounds).1.outbox)
      (s.carryOutFor accepts rounds).1.snapshot := by
  induction rounds generalizing s before with
  | zero => exact h
  | succ rounds ih =>
    unfold carryOutFor tellingsFor
    simp only [isEmpty_drain]
    split
    · next hempty =>
      rw [List.isEmpty_iff] at hempty
      rw [hempty] at h
      exact h
    · rw [List.append_assoc]
      exact h.trans (ih (tells_round accepts s))

/-- When everything is carried out, what was told reports the state. -/
theorem reports_tellings (h : s.Sound) (hissued : s.Issued) {before : Snapshot}
    (hreports : Reports before (notices s.outbox) s.snapshot) :
    Reports before (s.tellings accepts) (s.carryOut accepts).1.snapshot := by
  have hall := reports_carryOutFor accepts maxRounds hreports
  have hdone : (s.carryOutFor accepts maxRounds).1.outbox = [] := outbox_carryOut h hissued accepts
  rw [hdone, notices_nil, List.append_nil] at hall
  exact hall

end DataPath.Switch
