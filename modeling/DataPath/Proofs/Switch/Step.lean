import DataPath.Proofs.Switch.Sound

/-!
# What an arbitrated switch does with its input

Here is said once what a request (`handle_cases`) and a signal (`hear_cases`) can do to an
arbitrated switch whose outbox is empty, as far as its surroundings are concerned.

A request with a class may be parked, by a releasing switch, or become a question for the
arbiter, by an idle one; otherwise it is answered at once.  A signal answers nobody, unless
it is the end of a release: then everything parked is asked for, or refused.

The phase walks on a short leash.  Only the end of a release leads to idle, and only a
request that carries a grant leads away from it.

The commands that are submitted join the commands in flight (`Adds`), and the notices tell of
every change of phase.
-/

namespace DataPath

/-- The class that a request wants to have brought up. -/
def Request.wanted? : Request → Option DataClass
  | .connect c | .acquire c _ => some c
  | _ => none

/-- Whether a request carries a grant. -/
def Request.isAcquire : Request → Bool
  | .acquire .. => true
  | _ => false

/-- A phase that may come after another without the end of a release in between. -/
def Phase.Follows (p q : Phase) : Prop := (q = .idle → p = .idle) ∧ (p = .releasing → q = .releasing)

theorem Phase.Follows.refl (p : Phase) : p.Follows p := ⟨id, id⟩

theorem Phase.follows_of_isLive {p q : Phase} (hp : p.isLive = true) (hq : q ≠ .idle) :
    p.Follows q :=
  ⟨fun h => absurd h hq, fun h => absurd h (Phase.isLive_iff.1 hp).2⟩

namespace Switch

variable {ρ : Type} {s : Switch ρ}

/-! ## Single rules -/

/-- What becomes of a connect. -/
theorem connect_rules (s : Switch ρ) (id : Nat) (c : DataClass) (handle : Option ρ)
    (grant : Option Grant) :
    (∃ o, s.connect id c handle grant = s.answer handle id (.outcome o)) ∨
    (s.phase = .releasing ∧
      s.connect id c handle grant = { s with parked := s.parked ++ [⟨id, c, handle⟩] }) ∨
    (s.phase = .idle ∧ grant = none ∧
      s.connect id c handle grant = s.emit (.askOwnership id c handle)) ∨
    (s.phase = .idle ∧ (s.arbitrated = true → grant ≠ none) ∧ s.radio.isOff = false ∧
      s.connect id c handle grant =
        ((s.track c).enter .acquiring).answer handle id (.outcome .started)) ∨
    (s.phase.isLive = true ∧ c ∉ s.classes ∧
      s.connect id c handle grant = (s.track c).answer handle id (.outcome .started)) := by
  unfold connect
  split
  · exact .inl ⟨_, rfl⟩
  · next hradio =>
    have hradio' : s.radio.isOff = false := by simpa using hradio
    split
    · next hp => exact .inr (.inl ⟨hp, rfl⟩)
    · next hp =>
      split
      · next hg => exact .inr (.inr (.inl ⟨hp, by simpa using hg.2, rfl⟩))
      · next hg =>
        refine .inr (.inr (.inr (.inl ⟨hp, ?_, hradio', rfl⟩)))
        rintro harb rfl
        exact hg ⟨harb, rfl⟩
    all_goals
      next hp =>
        have hlive : s.phase.isLive = true := by rw [hp]; rfl
        split
        · exact .inl ⟨_, rfl⟩
        · split
          · exact .inl ⟨_, rfl⟩
          · next hc => exact .inr (.inr (.inr (.inr ⟨hlive, hc, rfl⟩)))

/-- An arbitrated switch does not leave idle without a grant. -/
theorem connect_cases (harb : s.arbitrated = true) (id : Nat) (c : DataClass) (handle : Option ρ)
    (grant : Option Grant) :
    (∃ o, s.connect id c handle grant = s.answer handle id (.outcome o)) ∨
    (s.phase = .releasing ∧
      s.connect id c handle grant = { s with parked := s.parked ++ [⟨id, c, handle⟩] }) ∨
    (s.phase = .idle ∧ grant = none ∧
      s.connect id c handle grant = s.emit (.askOwnership id c handle)) ∨
    (s.phase = .idle ∧ grant ≠ none ∧ s.radio.isOff = false ∧
      s.connect id c handle grant =
        ((s.track c).enter .acquiring).answer handle id (.outcome .started)) ∨
    (s.phase.isLive = true ∧ c ∉ s.classes ∧
      s.connect id c handle grant = (s.track c).answer handle id (.outcome .started)) := by
  simpa only [harb, true_imp_iff] using s.connect_rules id c handle grant

/-- A settled switch wants something still, or it is releasing. -/
theorem settle_cases (s : Switch ρ) :
    (s.classes.isEmpty = true ∧ s.settle = s.beginRelease) ∨
    (s.connected.isEmpty = true ∧ s.settle = s.enter .acquiring) ∨
    (s.connected.isEmpty ≠ true ∧ s.settle = s) := by
  unfold settle
  split
  · next h => exact .inl ⟨h, rfl⟩
  · split
    · next h => exact .inr (.inl ⟨h, rfl⟩)
    · next h => exact .inr (.inr ⟨h, rfl⟩)

/-! ## What all operations have in common -/

/-- Operations add effects to the outbox, and the commands among them to the commands in
flight; and they leave alone whose switch it is, and how it is ruled. -/
structure Adds (s s' : Switch ρ) (new : List (Effect ρ)) : Prop where
  tenant : s'.tenant = s.tenant
  arbitrated : s'.arbitrated = s.arbitrated
  outbox : s'.outbox = s.outbox ++ new
  inflight : s'.inflight = s.inflight ++ submissions new

theorem Adds.refl (s : Switch ρ) : Adds s s [] := ⟨rfl, rfl, by simp, by simp⟩

theorem Adds.trans {s₁ s₂ s₃ : Switch ρ} {es fs : List (Effect ρ)} (h : Adds s₁ s₂ es)
    (h' : Adds s₂ s₃ fs) : Adds s₁ s₃ (es ++ fs) where
  tenant := h'.tenant.trans h.tenant
  arbitrated := h'.arbitrated.trans h.arbitrated
  outbox := by rw [h'.outbox, h.outbox, List.append_assoc]
  inflight := by rw [h'.inflight, h.inflight, submissions_append, List.append_assoc]

theorem adds_emit (s : Switch ρ) {e : Effect ρ} (he : e.submission? = none) :
    Adds s (s.emit e) [e] := ⟨rfl, rfl, rfl, by simp [emit, he]⟩

theorem adds_answer (s : Switch ρ) (handle : Option ρ) (id : Nat) (body : ReplyBody) :
    Adds s (s.answer handle id body) (replyTo handle id body) := by
  rw [answer_eq]
  exact ⟨rfl, rfl, rfl, by simp⟩

theorem adds_enter (s : Switch ρ) (p : Phase) :
    Adds s (s.enter p) (phaseEvent s.tenant s.phase p) := by
  rw [enter_eq]
  exact ⟨rfl, rfl, rfl, by simp⟩

theorem adds_submit (s : Switch ρ) (c : Command) : Adds s (s.submit c) [.submit s.nextToken c] :=
  ⟨rfl, rfl, rfl, by simp [submit, emit, Effect.submission?]⟩

theorem adds_track (s : Switch ρ) (c : DataClass) :
    Adds s (s.track c) [.submit s.nextToken (.enable c)] :=
  ⟨rfl, rfl, rfl, by simp [track, submit, emit, Effect.submission?]⟩

/-- A class is let go of. -/
theorem adds_disable (s : Switch ρ) (c : DataClass) :
    Adds s ((s.untrack c).submit (.disable c)) [.submit s.nextToken (.disable c)] :=
  ⟨rfl, rfl, rfl, rfl⟩

/-- A class is forgotten, as it could not be brought up. -/
theorem adds_failed (s : Switch ρ) (c : DataClass) (f : ModemFault) :
    Adds s ((s.untrack c).emit (.event (.requestFailed s.tenant (some c) (.transport f))))
      [.event (.requestFailed s.tenant (some c) (.transport f))] :=
  ⟨rfl, rfl, rfl, by simp [emit, untrack, Effect.submission?]⟩

/-- A class counts as connected. -/
theorem adds_connected (s : Switch ρ) (c : DataClass) :
    Adds s ({ s with connected := s.connected.insert c }.emit (.event (.classConnected s.tenant c)))
      [.event (.classConnected s.tenant c)] :=
  ⟨rfl, rfl, rfl, by simp [emit, Effect.submission?]⟩

/-- The radio is in another state. -/
theorem adds_radio (s : Switch ρ) (radio : Radio) :
    Adds s
      (({ s with radio := radio }.emit (.notice (.radioChanged s.tenant s.radio radio))).emit
        (.event (.radioChanged s.tenant s.radio radio)))
      [.notice (.radioChanged s.tenant s.radio radio),
        .event (.radioChanged s.tenant s.radio radio)] :=
  ⟨rfl, rfl, by simp [emit], by simp [emit, Effect.submission?]⟩

theorem adds_beginRelease (s : Switch ρ) :
    Adds s s.beginRelease
      ([.submit s.nextToken .forceIdle] ++ phaseEvent s.tenant s.phase .releasing) := by
  rw [beginRelease_eq]
  exact ⟨rfl, rfl, by simp, by simp [Effect.submission?]⟩

theorem adds_publishChange (s : Switch ρ) (before : Snapshot) :
    Adds s (s.publishChange before) (changeNotice before s.snapshot) := by
  rw [publishChange_eq]
  exact ⟨rfl, rfl, rfl, by simp⟩

theorem adds_foldl_submit (s : Switch ρ) (cs : List Command) :
    Adds s (cs.foldl submit s) ((numbered s.nextToken cs).map fun e => .submit e.1 e.2) := by
  rw [foldl_submit_eq]
  exact ⟨rfl, rfl, rfl, by simp⟩

/-- Operations that say nothing to anybody: no notice and no answer. -/
def Quiet (new : List (Effect ρ)) : Prop := notices new = [] ∧ answers new = []

theorem adds_settle (s : Switch ρ) :
    ∃ new, Adds s s.settle new ∧ Quiet new ∧ (submissions new).length ≤ 1 := by
  rcases s.settle_cases with ⟨-, h⟩ | ⟨-, h⟩ | ⟨-, h⟩
  · rw [h]
    exact ⟨_, adds_beginRelease s, by simp [Quiet, Effect.notice?, Effect.isAnswer],
      by simp [Effect.submission?]⟩
  · rw [h]
    exact ⟨_, adds_enter s _, by simp [Quiet], by simp⟩
  · rw [h]
    exact ⟨_, Adds.refl s, by simp [Quiet], by simp⟩

theorem Quiet.append {es fs : List (Effect ρ)} (h : Quiet es) (h' : Quiet fs) : Quiet (es ++ fs) := by
  simp [Quiet, h.1, h.2, h'.1, h'.2]

/-! ## Requests -/

theorem disconnect_spec (s : Switch ρ) (c : DataClass) :
    ∃ new, Adds s (s.disconnect c).1 new ∧ Quiet new ∧ (submissions new).length ≤ 10 ∧
      (s.disconnect c).1.parked = s.parked ∧ s.phase.Follows (s.disconnect c).1.phase ∧
      (s.phase = .idle → (s.disconnect c).1.phase = .idle) := by
  unfold disconnect
  split
  · next hc =>
    obtain ⟨new, hnew, hquiet, hlen⟩ := adds_settle ((s.untrack c).submit (.disable c))
    refine ⟨_, (adds_disable s c).trans hnew,
      Quiet.append (by simp [Quiet, Effect.notice?, Effect.isAnswer]) hquiet, ?_, ?_, ?_, ?_⟩
    · simp only [submissions_append, submissions_cons, submissions_nil, Effect.submission?,
        Option.toList_some, List.append_nil, List.length_append, List.length_singleton]
      omega
    · rcases settle_cases ((s.untrack c).submit (.disable c)) with ⟨-, h⟩ | ⟨-, h⟩ | ⟨-, h⟩
      · rw [h, beginRelease_eq]
        rfl
      · rw [h, enter_eq]
        rfl
      · rw [h]
        rfl
    · refine Phase.follows_of_isLive hc.1 ?_
      rcases settle_cases ((s.untrack c).submit (.disable c)) with ⟨-, h⟩ | ⟨-, h⟩ | ⟨-, h⟩
      · rw [h, beginRelease_eq]
        simp
      · rw [h, enter_eq]
        simp
      · rw [h]
        exact (Phase.isLive_iff.1 hc.1).1
    · intro hp
      exact absurd hp (Phase.isLive_iff.1 hc.1).1
  · exact ⟨[], Adds.refl s, by simp [Quiet], by simp, rfl, Phase.Follows.refl _, fun h => h⟩

theorem retryConnect_spec (s : Switch ρ) :
    ∃ new, Adds s s.retryConnect.1 new ∧ Quiet new ∧ (submissions new).length ≤ 10 ∧
      s.retryConnect.1.parked = s.parked ∧ s.retryConnect.1.phase = s.phase := by
  unfold retryConnect
  split
  · exact ⟨[], Adds.refl s, by simp [Quiet], by simp, rfl, rfl⟩
  · split
    · exact ⟨[], Adds.refl s, by simp [Quiet], by simp, rfl, rfl⟩
    · obtain ⟨ds, hds, heq⟩ := exists_foldl_retry_eq s s.waiting.toList
      simp only [heq]
      refine ⟨_, adds_foldl_submit s _, by simp [Quiet], ?_, ?_, ?_⟩
      · rw [submissions_map_submit, length_numbered, List.length_map]
        exact Nat.le_trans hds.length_le (ClassSet.length_toList_le_ten _)
      · rw [foldl_submit_eq]
      · rw [foldl_submit_eq]

/-- Starting a release, as a live switch does. -/
theorem beginRelease_spec (hp : s.phase.isLive = true) :
    ∃ new, Adds s s.beginRelease new ∧ Quiet new ∧ (submissions new).length ≤ 10 ∧
      s.beginRelease.parked = s.parked ∧ s.phase.Follows s.beginRelease.phase ∧
      (s.phase = .idle → s.beginRelease.phase = .idle) ∧ s.beginRelease.phase = .releasing := by
  refine ⟨_, adds_beginRelease s, by simp [Quiet, Effect.notice?, Effect.isAnswer],
    by simp [Effect.submission?], ?_, ?_, ?_, ?_⟩
  · rw [beginRelease_eq]
  · rw [beginRelease_eq]
    exact Phase.follows_of_isLive hp (by simp)
  · intro hi
    exact absurd hi (Phase.isLive_iff.1 hp).1
  · rw [beginRelease_eq]

theorem cleanupAll_spec (s : Switch ρ) :
    ∃ new, Adds s s.cleanupAll.1 new ∧ Quiet new ∧ (submissions new).length ≤ 10 ∧
      s.cleanupAll.1.parked = s.parked ∧ s.phase.Follows s.cleanupAll.1.phase ∧
      (s.phase = .idle → s.cleanupAll.1.phase = .idle) ∧
      (s.phase.isLive = true → s.cleanupAll.1.phase = .releasing) ∧
      (s.cleanupAll.2 = .alreadyInactive ∨ s.cleanupAll.1.phase = .releasing) := by
  unfold cleanupAll
  split
  · next hp =>
    refine ⟨_, adds_submit s _, by simp [Quiet, Effect.notice?, Effect.isAnswer],
      by simp [Effect.submission?], rfl, Phase.Follows.refl _, fun _ => hp, ?_, .inl rfl⟩
    intro hl
    exact absurd hp (Phase.isLive_iff.1 hl).1
  · next hp =>
    obtain ⟨new, h1, h2, h3, h4, h5, h6, h7⟩ := beginRelease_spec (s := s) (by rw [hp]; rfl)
    exact ⟨new, h1, h2, h3, h4, h5, h6, fun _ => h7, .inr h7⟩
  · next hp =>
    obtain ⟨new, h1, h2, h3, h4, h5, h6, h7⟩ := beginRelease_spec (s := s) (by rw [hp]; rfl)
    exact ⟨new, h1, h2, h3, h4, h5, h6, fun _ => h7, .inr h7⟩
  · next hp =>
    exact ⟨[], Adds.refl s, by simp [Quiet], by simp, rfl, Phase.Follows.refl _, fun h => h,
      fun _ => hp, .inl rfl⟩

/-- What a request with a class comes to, as far as answers are concerned. -/
inductive Handled (s : Switch ρ) (id : Nat) (request : Request) (handle : Option ρ)
    (s' : Switch ρ) (new : List (Effect ρ)) : Prop where
  /-- The request is answered. -/
  | answered (body : ReplyBody) (hans : answers new = replyTo handle id body)
      (hparked : s'.parked = s.parked) (hlen : (submissions new).length ≤ 10)
      (hidle : s.phase = .idle → request.isAcquire = false → s'.phase = .idle)
      (hclean : request = .cleanupAll →
        (s.phase.isLive = true → s'.phase = .releasing) ∧
        (body = .outcome .alreadyInactive ∨ s'.phase = .releasing))
  /-- The request is parked. -/
  | parked (c : DataClass) (hwant : request.wanted? = some c) (hphase : s.phase = .releasing)
      (hans : answers new = []) (hparked : s'.parked = s.parked ++ [⟨id, c, handle⟩])
      (hsub : submissions new = []) (hkeep : s'.phase = s.phase)
  /-- The arbiter is asked. -/
  | asked (c : DataClass) (hwant : request = .connect c) (hphase : s.phase = .idle)
      (hans : answers new = [.askOwnership id c handle]) (hparked : s'.parked = s.parked)
      (hsub : submissions new = []) (hkeep : s'.phase = s.phase)

theorem connect_spec (harb : s.arbitrated = true) {request : Request} {c : DataClass}
    {grant : Option Grant} (hreq : request.wanted? = some c)
    (hgrant : grant = none → request = .connect c)
    (hacq : grant ≠ none → request.isAcquire = true) (id : Nat) (handle : Option ρ) :
    ∃ new, Adds s (s.connect id c handle grant) new ∧ notices new = [] ∧
      s.phase.Follows (s.connect id c handle grant).phase ∧
      Handled s id request handle (s.connect id c handle grant) new := by
  have hno : request ≠ .cleanupAll := by
    rintro rfl
    cases hreq
  rcases connect_cases harb id c handle grant with ⟨o, h⟩ | ⟨hp, h⟩ | ⟨hp, hg, h⟩ |
    ⟨hp, hg, -, h⟩ | ⟨hp, -, h⟩
  · rw [h]
    refine ⟨_, adds_answer s _ _ _, by simp, ?_, ?_⟩
    · rw [answer_eq]
      exact Phase.Follows.refl _
    · refine .answered (.outcome o) (by simp) ?_ (by simp) ?_ (fun h => absurd h hno)
      · rw [answer_eq]
      · rw [answer_eq]
        exact fun h _ => h
  · rw [h]
    exact ⟨[], ⟨rfl, rfl, by simp, by simp⟩, rfl, Phase.Follows.refl _,
      .parked c hreq hp rfl rfl rfl rfl⟩
  · rw [h]
    exact ⟨_, adds_emit s rfl, rfl, Phase.Follows.refl _,
      .asked c (hgrant hg) hp rfl rfl rfl rfl⟩
  · rw [h]
    refine ⟨_, ((adds_track s c).trans (adds_enter _ _)).trans (adds_answer _ _ _ _), ?_, ?_, ?_⟩
    · simp [Effect.notice?]
    · rw [answer_eq, enter_eq]
      refine ⟨by simp, ?_⟩
      rw [hp]
      simp
    · refine .answered (.outcome .started) ?_ ?_ ?_ ?_ (fun h => absurd h hno)
      · simp [Effect.isAnswer]
      · rw [answer_eq, enter_eq]
        rfl
      · simp [Effect.submission?]
      · intro _ hn
        rw [hacq hg] at hn
        cases hn
  · rw [h]
    refine ⟨_, (adds_track s c).trans (adds_answer _ _ _ _), ?_, ?_, ?_⟩
    · simp [Effect.notice?]
    · rw [answer_eq]
      exact Phase.Follows.refl _
    · refine .answered (.outcome .started) ?_ ?_ ?_ ?_ (fun h => absurd h hno)
      · simp [Effect.isAnswer]
      · rw [answer_eq]
        rfl
      · simp [Effect.submission?]
      · intro hi
        exact absurd hi (Phase.isLive_iff.1 hp).1

/-- Operations that answer one request and are silent otherwise. -/
theorem handled_of_quiet {s₁ : Switch ρ} {es : List (Effect ρ)} (hadds : Adds s s₁ es)
    (hquiet : Quiet es) (hparked : s₁.parked = s.parked) (hlen : (submissions es).length ≤ 10)
    (hfollows : s.phase.Follows s₁.phase) (hidle : s.phase = .idle → s₁.phase = .idle)
    (request : Request) (id : Nat) (handle : Option ρ) (body : ReplyBody)
    (hclean : request = .cleanupAll →
      (s.phase.isLive = true → s₁.phase = .releasing) ∧
      (body = .outcome .alreadyInactive ∨ s₁.phase = .releasing)) :
    ∃ new, Adds s (s₁.answer handle id body) new ∧ notices new = [] ∧
      s.phase.Follows (s₁.answer handle id body).phase ∧
      Handled s id request handle (s₁.answer handle id body) new := by
  refine ⟨_, hadds.trans (adds_answer s₁ _ _ _), by simp [hquiet.1], ?_, ?_⟩
  · rw [answer_eq]
    exact hfollows
  · refine .answered body (by simp [hquiet.2]) ?_ (by simpa using hlen) ?_ ?_
    · rw [answer_eq]
      exact hparked
    · rw [answer_eq]
      exact fun h _ => hidle h
    · rw [answer_eq]
      exact hclean

theorem serve_spec (harb : s.arbitrated = true) (id : Nat) (request : Request)
    (handle : Option ρ) :
    ∃ new, Adds s (s.serve id request handle) new ∧ notices new = [] ∧
      s.phase.Follows (s.serve id request handle).phase ∧
      Handled s id request handle (s.serve id request handle) new := by
  cases request with
  | connect c => exact connect_spec harb rfl (fun _ => rfl) (fun h => absurd rfl h) id handle
  | acquire c g => exact connect_spec harb rfl (fun h => by cases h) (fun _ => rfl) id handle
  | disconnect c =>
    obtain ⟨new, hadds, hquiet, hlen, hparked, hfollows, hidle⟩ := s.disconnect_spec c
    exact handled_of_quiet hadds hquiet hparked hlen hfollows hidle _ id handle _ (by simp)
  | retryConnect =>
    obtain ⟨new, hadds, hquiet, hlen, hparked, hphase⟩ := s.retryConnect_spec
    exact handled_of_quiet hadds hquiet hparked hlen (hphase ▸ Phase.Follows.refl _)
      (fun h => hphase.trans h) _ id handle _ (by simp)
  | cleanupAll =>
    obtain ⟨new, hadds, hquiet, hlen, hparked, hfollows, hidle, hlive, hclean⟩ := s.cleanupAll_spec
    exact handled_of_quiet hadds hquiet hparked hlen hfollows hidle _ id handle _
      fun _ => ⟨hlive, hclean.imp_left (congrArg ReplyBody.outcome)⟩
  | isIdle | isIdleOrReleasing | snapshot =>
    exact handled_of_quiet (Adds.refl s) (by simp [Quiet]) rfl (by simp) (Phase.Follows.refl _)
      (fun h => h) _ id handle _ (by simp)

/-- The notices of an operation tell of a change of the observable state, if there is
one, and of nothing else. -/
def TellsChange (s s' : Switch ρ) (new : List (Effect ρ)) : Prop :=
  (notices new = [] ∧ s'.snapshot = s.snapshot) ∨ notices new = [.updated s'.snapshot]

theorem tellsChange_publishChange {s₁ : Switch ρ} {es : List (Effect ρ)} (hnot : notices es = []) :
    TellsChange s (s₁.publishChange s.snapshot) (es ++ changeNotice s.snapshot s₁.snapshot) := by
  have hsnap : (s₁.publishChange s.snapshot).snapshot = s₁.snapshot := by
    rw [publishChange_eq]
    rfl
  unfold TellsChange changeNotice
  rw [hsnap]
  split
  · next h => exact .inl ⟨by simp [hnot], h⟩
  · exact .inr (by simp [hnot, Effect.notice?])

/-- What a request does to an arbitrated switch. -/
theorem handle_cases (harb : s.arbitrated = true) (id : Nat) (request : Request)
    (handle : Option ρ) :
    ∃ new, Adds s (s.handle id request handle) new ∧
      TellsChange s (s.handle id request handle) new ∧
      s.phase.Follows (s.handle id request handle).phase ∧
      Handled s id request handle (s.handle id request handle) new := by
  obtain ⟨new, hadds, hnot, hfollows, hcase⟩ := serve_spec harb id request handle
  have hphase : (s.handle id request handle).phase = (s.serve id request handle).phase := by
    rw [Switch.handle, publishChange_eq]
  have hpark : (s.handle id request handle).parked = (s.serve id request handle).parked := by
    rw [Switch.handle, publishChange_eq]
  refine ⟨_, hadds.trans (adds_publishChange _ _), tellsChange_publishChange hnot,
    hphase ▸ hfollows, ?_⟩
  cases hcase with
  | answered body hans hparked hlen hidle hclean =>
    exact .answered body (by simpa using hans) (hpark.trans hparked) (by simpa using hlen)
      (fun hp hn => hphase.trans (hidle hp hn)) (by rw [hphase]; exact hclean)
  | parked c hwant hp hans hparked hsub hkeep =>
    exact .parked c hwant hp (by simpa using hans) (hpark.trans hparked) (by simpa using hsub)
      (hphase.trans hkeep)
  | asked c hwant hp hans hparked hsub hkeep =>
    exact .asked c hwant hp (by simpa using hans) (hpark.trans hparked) (by simpa using hsub)
      (hphase.trans hkeep)

/-! ## Signals -/

/-- The switch without the command that has ended. -/
def without (s : Switch ρ) (token : Nat) : Switch ρ :=
  { s with inflight := s.inflight.filter fun e => e.1 ≠ token }

@[simp] theorem without_tenant (s : Switch ρ) (k : Nat) : (s.without k).tenant = s.tenant := rfl

@[simp] theorem without_radio (s : Switch ρ) (k : Nat) : (s.without k).radio = s.radio := rfl

@[simp] theorem without_parked (s : Switch ρ) (k : Nat) : (s.without k).parked = s.parked := rfl

/-- The switch when the command of a signal, if it is the end of one, is no longer in
flight. -/
def ended (s : Switch ρ) : Signal → Switch ρ
  | .completed token _ => s.without token
  | _ => s

@[simp] theorem ended_tenant (s : Switch ρ) (signal : Signal) :
    (s.ended signal).tenant = s.tenant := by cases signal <;> rfl

@[simp] theorem ended_arbitrated (s : Switch ρ) (signal : Signal) :
    (s.ended signal).arbitrated = s.arbitrated := by cases signal <;> rfl

@[simp] theorem ended_outbox (s : Switch ρ) (signal : Signal) :
    (s.ended signal).outbox = s.outbox := by cases signal <;> rfl

/-- What a signal comes to, as far as the surroundings are concerned. -/
inductive Heard (s : Switch ρ) (signal : Signal) (s' : Switch ρ) (new : List (Effect ρ)) : Prop where
  /-- The release ends, and everything parked is asked for or refused. -/
  | released (token : Nat) (fault : Option ModemFault) (replaying : List DataClass)
      (hsig : signal = .completed token fault) (htoken : s.releaseToken = some token)
      (hphase : s.phase = .releasing) (hidle : s'.phase = .idle) (hparked : s'.parked = [])
      (hans : answers new = s.parked.flatMap fun p => (replayed s.tenant s.radio p).2)
      (hsub : submissions new = [])
      (hnot : notices new = [.enteredIdle s.tenant replaying, .updated s'.snapshot])
  /-- Nobody is answered. -/
  | kept (hfollows : s.phase.Follows s'.phase) (hidle : s.phase = .idle → s'.phase = .idle)
      (hparked : s'.parked = s.parked) (hans : answers new = [])
      (hsub : submissions new = [] ∨
        (submissions new).length ≤ 1 ∧ s.phase.isLive = true ∧ s'.phase = .releasing)
      (hnot : TellsChange s s' new ∨ ∃ radio, signal = .radio radio ∧
        notices new = [.radioChanged s.tenant s.radio radio, .updated s'.snapshot])

theorem without_of_lookup_eq_none {k : Nat} (h : s.inflight.lookup k = none) :
    s.without k = s := by
  have hfilter : s.inflight.filter (fun e => e.1 ≠ k) = s.inflight := ?_
  · unfold without
    rw [hfilter]
  rw [List.filter_eq_self]
  intro e he
  rw [List.lookup_eq_none_iff] at h
  have := h e he
  simp only [ne_eq, decide_not, Bool.not_eq_eq_eq_not, Bool.not_true, decide_eq_false_iff_not]
  intro heq
  simp [heq] at this

/-- The end of a release, at an arbitrated switch. -/
theorem completeRelease_eq (harb : s.arbitrated = true) (hp : s.phase = .releasing) :
    s.completeRelease =
      { s with
        releaseToken := none
        classes := ∅
        connected := ∅
        parked := []
        phase := .idle
        outbox := s.outbox ++ phaseEvent s.tenant .releasing .idle ++
          [.notice (.enteredIdle s.tenant (s.parked.map Parked.dataClass))] ++
          s.parked.flatMap fun p =>
            (replayed s.tenant s.radio p).1 :: (replayed s.tenant s.radio p).2 } := by
  unfold completeRelease
  rw [enter_eq]
  simp only [emit]
  rw [foldl_replay_eq]
  · simp [hp]
  · rfl
  · exact harb

theorem submissions_replayed (t : Tenant) (radio : Radio) (ps : List (Parked ρ)) :
    submissions (ps.flatMap fun p => (replayed t radio p).1 :: (replayed t radio p).2) = [] := by
  induction ps with
  | nil => rfl
  | cons p ps ih =>
    rw [List.flatMap_cons, submissions_append, ih]
    unfold replayed
    split <;> simp [Effect.submission?]

theorem notices_replayed (t : Tenant) (radio : Radio) (ps : List (Parked ρ)) :
    notices (ps.flatMap fun p => (replayed t radio p).1 :: (replayed t radio p).2) = [] := by
  induction ps with
  | nil => rfl
  | cons p ps ih =>
    rw [List.flatMap_cons, notices_append, ih]
    unfold replayed
    split <;> simp [Effect.notice?]

theorem answers_replayed (t : Tenant) (radio : Radio) (ps : List (Parked ρ)) :
    answers (ps.flatMap fun p => (replayed t radio p).1 :: (replayed t radio p).2) =
      ps.flatMap fun p => (replayed t radio p).2 := by
  induction ps with
  | nil => rfl
  | cons p ps ih =>
    rw [List.flatMap_cons, answers_append, ih, List.flatMap_cons]
    unfold replayed
    split <;> simp [Effect.isAnswer]

/-- A signal that says nothing to anybody, before the change is published. -/
theorem heard_of_quiet {s₀ s₁ : Switch ρ} {es : List (Effect ρ)} {signal : Signal}
    (hadds : Adds s₀ s₁ es) (hquiet : Quiet es) (hparked : s₁.parked = s.parked)
    (hfollows : s.phase.Follows s₁.phase) (hidle : s.phase = .idle → s₁.phase = .idle)
    (hsub : submissions es = [] ∨
      (submissions es).length ≤ 1 ∧ s.phase.isLive = true ∧ s₁.phase = .releasing) :
    ∃ new, Adds s₀ (s₁.publishChange s.snapshot) new ∧
      Heard s signal (s₁.publishChange s.snapshot) new := by
  have hphase : (s₁.publishChange s.snapshot).phase = s₁.phase := by rw [publishChange_eq]
  refine ⟨_, hadds.trans (adds_publishChange _ _), .kept (hphase ▸ hfollows)
    (fun h => hphase.trans (hidle h)) ?_ (by simp [hquiet.2]) ?_
    (.inl (tellsChange_publishChange hquiet.1))⟩
  · rw [publishChange_eq]
    exact hparked
  · rw [hphase]
    simpa using hsub

/-- A live switch that settles starts a release when it submits anything. -/
theorem settle_spec (s₁ : Switch ρ) (hlive : s.phase.isLive = true) (hphase : s₁.phase = s.phase) :
    ∃ es, Adds s₁ s₁.settle es ∧ Quiet es ∧ s₁.settle.parked = s₁.parked ∧
      s.phase.Follows s₁.settle.phase ∧
      (submissions es = [] ∨
        (submissions es).length ≤ 1 ∧ s.phase.isLive = true ∧ s₁.settle.phase = .releasing) := by
  rcases settle_cases s₁ with ⟨-, h⟩ | ⟨-, h⟩ | ⟨-, h⟩
  · rw [h]
    refine ⟨_, adds_beginRelease s₁, by simp [Quiet, Effect.notice?, Effect.isAnswer], ?_, ?_,
      .inr ⟨by simp [Effect.submission?], hlive, ?_⟩⟩
    · rw [beginRelease_eq]
    · rw [beginRelease_eq]
      exact Phase.follows_of_isLive hlive (by simp)
    · rw [beginRelease_eq]
  · rw [h]
    refine ⟨_, adds_enter s₁ _, by simp [Quiet], ?_, ?_, .inl (by simp)⟩
    · rw [enter_eq]
    · rw [enter_eq]
      exact Phase.follows_of_isLive hlive (by simp)
  · rw [h]
    exact ⟨[], Adds.refl _, by simp [Quiet], rfl, hphase ▸ Phase.Follows.refl _, .inl rfl⟩

/-- The release ends, at an arbitrated switch. -/
theorem completeRelease_spec (harb : s.arbitrated = true) (hp : s.phase = .releasing) :
    ∃ new, Adds s s.completeRelease new ∧ s.completeRelease.phase = .idle ∧
      s.completeRelease.parked = [] ∧
      answers new = (s.parked.flatMap fun p => (replayed s.tenant s.radio p).2) ∧
      submissions new = [] ∧
      notices new = [.enteredIdle s.tenant (s.parked.map Parked.dataClass)] := by
  rw [completeRelease_eq harb hp]
  refine ⟨phaseEvent s.tenant .releasing .idle ++
      [.notice (.enteredIdle s.tenant (s.parked.map Parked.dataClass))] ++
      s.parked.flatMap fun p =>
        (replayed s.tenant s.radio p).1 :: (replayed s.tenant s.radio p).2,
    ⟨rfl, rfl, by simp, ?_⟩, rfl, rfl, ?_, ?_, ?_⟩
  · simp [submissions_replayed, Effect.submission?]
  · simp [answers_replayed, Effect.isAnswer]
  · simp [submissions_replayed, Effect.submission?]
  · simp [notices_replayed, Effect.notice?]

/-- A class that cannot be brought up is forgotten, and a live switch settles then. -/
theorem heard_of_failed (token : Nat) (c : DataClass) (f : ModemFault) :
    ∃ new,
      Adds (s.without token)
        (((s.without token).finish token (.enable c) (some f)).publishChange s.snapshot) new ∧
      Heard s (.completed token (some f))
        (((s.without token).finish token (.enable c) (some f)).publishChange s.snapshot) new := by
  unfold finish
  simp only
  have huntrack := adds_failed (s.without token) c f
  split
  · next hlive =>
    obtain ⟨es, hadds, hquiet, hparked, hfollows, hsub⟩ := settle_spec (s := s)
      (((s.without token).untrack c).emit
        (.event (.requestFailed s.tenant (some c) (.transport f)))) hlive.2 rfl
    refine heard_of_quiet (huntrack.trans hadds)
      (Quiet.append (by simp [Quiet, Effect.notice?, Effect.isAnswer]) hquiet) hparked hfollows
      (fun hi => absurd hi (Phase.isLive_iff.1 hlive.2).1) ?_
    simpa [Effect.submission?] using hsub
  · exact heard_of_quiet huntrack (by simp [Quiet, Effect.notice?, Effect.isAnswer]) rfl
      (Phase.Follows.refl _) (fun h => h) (.inl rfl)

/-- The release ends with its command. -/
theorem heard_of_released (harb : s.arbitrated = true) (hp : s.phase = .releasing) {token : Nat}
    (htoken : s.releaseToken = some token) (fault : Option ModemFault) :
    ∃ new,
      Adds (s.without token) ((s.without token).completeRelease.publishChange s.snapshot) new ∧
      Heard s (.completed token fault)
        ((s.without token).completeRelease.publishChange s.snapshot) new := by
  obtain ⟨es, hadds, hidle, hparked, hans, hsub, hnot⟩ :=
    completeRelease_spec (s := s.without token) harb hp
  have hne : (s.without token).completeRelease.snapshot ≠ s.snapshot := by
    intro heq
    have hphase : (s.without token).completeRelease.phase = s.phase := congrArg Snapshot.phase heq
    rw [hidle, hp] at hphase
    cases hphase
  refine ⟨_, hadds.trans (adds_publishChange _ _),
    .released token fault (s.parked.map Parked.dataClass) rfl htoken hp ?_ ?_ ?_ ?_ ?_⟩
  · rw [publishChange_eq]
    exact hidle
  · rw [publishChange_eq]
    exact hparked
  · simpa using hans
  · simpa using hsub
  · rw [notices_append, hnot, publishChange_eq]
    unfold changeNotice
    rw [if_neg hne]
    rfl

/-- What the end of a command comes to. -/
theorem completed_cases (harb : s.arbitrated = true) (token : Nat) (command : Command)
    (fault : Option ModemFault) :
    ∃ new,
      Adds (s.without token)
        (((s.without token).finish token command fault).publishChange s.snapshot) new ∧
      Heard s (.completed token fault)
        (((s.without token).finish token command fault).publishChange s.snapshot) new := by
  have hnothing : ∃ new,
      Adds (s.without token) ((s.without token).publishChange s.snapshot) new ∧
      Heard s (.completed token fault) ((s.without token).publishChange s.snapshot) new :=
    heard_of_quiet (Adds.refl _) (by simp [Quiet]) rfl (Phase.Follows.refl _) (fun h => h)
      (.inl rfl)
  cases command with
  | enable c =>
    cases fault with
    | none => exact hnothing
    | some f => exact heard_of_failed token c f
  | disable c =>
    cases fault with
    | none => exact hnothing
    | some f =>
      exact heard_of_quiet (adds_emit _ rfl) (by simp [Quiet, Effect.notice?, Effect.isAnswer]) rfl
        (Phase.Follows.refl _) (fun h => h) (.inl rfl)
  | forceIdle =>
    unfold finish
    simp only
    split
    · next hrel => exact heard_of_released harb hrel.1 hrel.2 fault
    · exact hnothing

/-- What a report on the radio comes to. -/
theorem radio_cases (s : Switch ρ) (state : Radio) :
    ∃ new, Adds s ((s.radioReported state).publishChange s.snapshot) new ∧
      Heard s (.radio state) ((s.radioReported state).publishChange s.snapshot) new := by
  unfold radioReported
  split
  · exact heard_of_quiet (Adds.refl s) (by simp [Quiet]) rfl (Phase.Follows.refl _) (fun h => h)
      (.inl rfl)
  · next hradio =>
    have htold := adds_radio s state
    have hchanged : ∀ s' : Switch ρ, s'.radio = state →
        changeNotice s.snapshot s'.snapshot = [(.notice (.updated s'.snapshot) : Effect ρ)] := by
      intro s' hs'
      refine if_neg fun heq => hradio ?_
      exact hs'.symm.trans (congrArg Snapshot.radio heq)
    simp only
    split
    · next hoff =>
      refine ⟨_, (htold.trans (adds_beginRelease _)).trans (adds_publishChange _ _),
        .kept ?_ ?_ ?_ ?_ (.inr ⟨?_, hoff.2, ?_⟩) (.inr ⟨state, rfl, ?_⟩)⟩
      · rw [publishChange_eq, beginRelease_eq]
        exact Phase.follows_of_isLive hoff.2 (by simp)
      · exact fun hi => absurd hi (Phase.isLive_iff.1 hoff.2).1
      · rw [publishChange_eq, beginRelease_eq]
        rfl
      · simp [Effect.isAnswer]
      · simp [Effect.submission?]
      · rw [publishChange_eq, beginRelease_eq]
      · rw [hchanged _ (by rw [beginRelease_eq]; rfl), publishChange_eq]
        simp [Effect.notice?, snapshot]
    · refine ⟨_, htold.trans (adds_publishChange _ _),
        .kept ?_ ?_ ?_ ?_ (.inl ?_) (.inr ⟨state, rfl, ?_⟩)⟩
      · rw [publishChange_eq]
        exact Phase.Follows.refl _
      · rw [publishChange_eq]
        exact fun h => h
      · rw [publishChange_eq]
        rfl
      · simp [Effect.isAnswer]
      · simp [Effect.submission?]
      · rw [hchanged _ rfl, publishChange_eq]
        simp [Effect.notice?, snapshot]

/-- What a signal does to an arbitrated switch. -/
theorem hear_cases (harb : s.arbitrated = true) (signal : Signal) :
    ∃ new, Adds (s.ended signal) (s.hear signal) new ∧ Heard s signal (s.hear signal) new := by
  cases signal with
  | completed token fault =>
    unfold Switch.hear ended
    simp only
    split
    · next hlook =>
      rw [without_of_lookup_eq_none hlook]
      exact ⟨[], Adds.refl s, .kept (Phase.Follows.refl _) (fun h => h) rfl rfl (.inl rfl)
        (.inl (.inl ⟨rfl, rfl⟩))⟩
    · next command _ => exact completed_cases harb token command fault
  | classConnected c =>
    unfold Switch.hear ended classConnected
    simp only
    split
    · next hc =>
      have hfollows : ∀ q, q ≠ Phase.idle → s.phase.Follows q :=
        fun q hq => Phase.follows_of_isLive hc.1 hq
      have hidle : ∀ q, s.phase = .idle → q = Phase.idle :=
        fun q hi => absurd hi (Phase.isLive_iff.1 hc.1).1
      split
      · refine heard_of_quiet (adds_enter s _) (by simp [Quiet]) ?_ ?_ (hidle _) (.inl (by simp))
        · rw [enter_eq]
        · rw [enter_eq]
          exact hfollows _ (by simp)
      · refine heard_of_quiet ((adds_connected s c).trans (adds_enter _ _))
          (by simp [Quiet, Effect.notice?, Effect.isAnswer]) ?_ ?_ (hidle _)
          (.inl (by simp [Effect.submission?]))
        · rw [enter_eq]
          rfl
        · rw [enter_eq]
          exact hfollows _ (by simp)
    · exact heard_of_quiet (Adds.refl s) (by simp [Quiet]) rfl (Phase.Follows.refl _) (fun h => h)
        (.inl rfl)
  | radio state => exact s.radio_cases state

end Switch

end DataPath
