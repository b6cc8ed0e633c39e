import DataPath.Proofs.Switch.Wishes

/-!
# The classes that a switch holds

A switch *holds* a class when it is live and wants the class.  Then it lets go of the class on a
disconnect; of any other class it says that it is not active (`disconnect_outcome`).

The classes that a switch asks the modem for are those that it holds.  A rule moves both together
(`Keeps`): when the last word after it is in favour of a class, the switch holds the class, or the
word is an old one and the switch did not hold the class before either.

One rule does not keep to this.  When an attempt to bring up a class has failed, the class is
forgotten, and nobody looks whether another attempt is under way or was a success (`dropped?`).
-/

namespace DataPath

/-- The class that a command should have brought up, if it has failed. -/
def Command.lost? : Command → Option ModemFault → Option DataClass
  | .enable c, some _ => some c
  | _, _ => none

namespace Switch

variable {ρ : Type} {s s' s'' : Switch ρ} {es : List (Effect ρ)} {dropped : Option DataClass}

/-- Whether a switch is live and wants a class. -/
def Holds (s : Switch ρ) (c : DataClass) : Prop := s.phase.isLive = true ∧ c ∈ s.classes

instance (s : Switch ρ) (c : DataClass) : Decidable (s.Holds c) :=
  inferInstanceAs (Decidable (_ ∧ _))

/-- A disconnect is for classes that are held. -/
theorem disconnect_outcome (s : Switch ρ) (c : DataClass) :
    (s.disconnect c).2 = if s.Holds c then .started else .alreadyInactive := by
  unfold disconnect
  by_cases h : s.Holds c
  · rw [if_pos h]
    exact congrArg Prod.snd (if_pos h)
  · rw [if_neg h]
    exact congrArg Prod.snd (if_neg h)

/-- Effects are added, and when the last word after them is in favour of a class then the switch
holds it, or the class was wanted before, and either not held or dropped. -/
def Keeps (dropped : Option DataClass) (s s' : Switch ρ) : Prop :=
  ∃ es, Adds s s' es ∧
    ∀ c up, Command.lastWord c up ((submissions es).map Prod.snd) = true →
      s'.Holds c ∨ up = true ∧ (s.Holds c → dropped = some c)

/-- Nothing is submitted, and no class but one is let go of. -/
theorem Keeps.of_holds (hadds : Adds s s' es) (hsub : submissions es = [])
    (h : ∀ c, s.Holds c → s'.Holds c ∨ dropped = some c) : Keeps dropped s s' := by
  refine ⟨es, hadds, fun c up hup => ?_⟩
  rw [hsub] at hup
  by_cases hc : s.Holds c
  · rcases h c hc with hheld | hdropped
    · exact .inl hheld
    · exact .inr ⟨hup, fun _ => hdropped⟩
  · exact .inr ⟨hup, fun hheld => absurd hheld hc⟩

/-- Nothing is submitted, and the phase and the classes stay. -/
theorem Keeps.of_same (hadds : Adds s s' es) (hsub : submissions es = [])
    (hphase : s'.phase = s.phase) (hclasses : s'.classes = s.classes) : Keeps dropped s s' := by
  refine Keeps.of_holds hadds hsub fun c hc => .inl ?_
  rw [Holds, hphase, hclasses]
  exact hc

theorem Keeps.refl (s : Switch ρ) : Keeps dropped s s := .of_same (Adds.refl s) rfl rfl rfl

/-- The modem is told to let go of everything. -/
theorem Keeps.of_forceIdle (hadds : Adds s s' es) {k : Nat}
    (hsub : submissions es = [(k, .forceIdle)]) : Keeps dropped s s' := by
  refine ⟨es, hadds, fun c up hup => ?_⟩
  rw [hsub] at hup
  cases hup

/-- A switch that is live then asks for classes that it wants then. -/
theorem Keeps.of_enables (hadds : Adds s s' es) {ds : List DataClass}
    (hsub : (submissions es).map Prod.snd = ds.map .enable) (hlive : s'.phase.isLive = true)
    (hds : ∀ d ∈ ds, d ∈ s'.classes) (hkeep : ∀ d, s.Holds d → d ∈ s'.classes) :
    Keeps dropped s s' := by
  refine ⟨es, hadds, fun c up hup => ?_⟩
  rw [hsub, Command.lastWord_map_enable] at hup
  by_cases hc : s.Holds c
  · exact .inl ⟨hlive, hkeep c hc⟩
  · rcases hup with hold | hmem
    · exact .inr ⟨hold, fun hheld => absurd hheld hc⟩
    · exact .inl ⟨hlive, hds c hmem⟩

theorem Keeps.trans (h : Keeps dropped s s') (h' : Keeps none s' s'') : Keeps dropped s s'' := by
  obtain ⟨es, hadds, hword⟩ := h
  obtain ⟨fs, hadds', hword'⟩ := h'
  refine ⟨es ++ fs, hadds.trans hadds', fun c up hup => ?_⟩
  rw [submissions_append, List.map_append, Command.lastWord_append] at hup
  rcases hword' c _ hup with hheld | ⟨hup', hnot⟩
  · exact .inl hheld
  · rcases hword c up hup' with hheld | hold
    · cases hnot hheld
    · exact .inr hold

/-! ## Small operations -/

theorem keeps_answer (s : Switch ρ) (handle : Option ρ) (id : Nat) (body : ReplyBody) :
    Keeps none s (s.answer handle id body) := by
  refine .of_same (adds_answer s handle id body) (by simp) ?_ ?_ <;> rw [answer_eq]

theorem keeps_publishChange (s : Switch ρ) (before : Snapshot) :
    Keeps none s (s.publishChange before) := by
  refine .of_same (adds_publishChange s before) (by simp) ?_ ?_ <;> rw [publishChange_eq]

theorem keeps_emit (s : Switch ρ) {e : Effect ρ} (he : e.submission? = none) :
    Keeps none s (s.emit e) :=
  .of_same (adds_emit s he) (by simp [he]) rfl rfl

theorem keeps_enter {p : Phase} (hp : p.isLive = true) (s : Switch ρ) :
    Keeps none s (s.enter p) := by
  refine .of_holds (adds_enter s p) (by simp) fun c hc => .inl ?_
  rw [enter_eq]
  exact ⟨hp, hc.2⟩

theorem keeps_beginRelease (s : Switch ρ) : Keeps none s s.beginRelease :=
  .of_forceIdle (k := s.nextToken) (adds_beginRelease s) (by simp [Effect.submission?])

theorem keeps_settle (s : Switch ρ) : Keeps none s s.settle := by
  rcases s.settle_cases with ⟨-, h⟩ | ⟨-, h⟩ | ⟨-, h⟩
  · rw [h]
    exact keeps_beginRelease s
  · rw [h]
    exact keeps_enter rfl s
  · rw [h]
    exact Keeps.refl s

/-! ## Requests -/

theorem keeps_connect (s : Switch ρ) (id : Nat) (c : DataClass) (handle : Option ρ)
    (grant : Option Grant) : Keeps none s (s.connect id c handle grant) := by
  have hsub : (submissions [(.submit s.nextToken (.enable c) : Effect ρ)]).map Prod.snd =
      [c].map .enable := rfl
  have hmem : ∀ d ∈ [c], d ∈ s.classes.insert c := by simp
  have hkeep : ∀ d, s.Holds d → d ∈ s.classes.insert c :=
    fun d hd => ClassSet.mem_insert.2 (.inr hd.2)
  rcases s.connect_rules id c handle grant with ⟨o, h⟩ | ⟨-, h⟩ | ⟨-, -, h⟩ | ⟨-, -, -, h⟩ |
    ⟨hlive, -, h⟩
  · rw [h]
    exact keeps_answer s handle id _
  · have hpark : Adds s { s with parked := s.parked ++ [⟨id, c, handle⟩] } [] :=
      ⟨rfl, rfl, by simp, by simp⟩
    rw [h]
    exact .of_same hpark rfl rfl rfl
  · rw [h]
    exact keeps_emit s rfl
  · have htrack : Keeps none s ((s.track c).enter .acquiring) := by
      have hadds := (adds_track s c).trans (adds_enter (s.track c) .acquiring)
      rw [enter_eq] at hadds ⊢
      exact .of_enables hadds (by simpa using hsub) rfl hmem hkeep
    rw [h]
    exact htrack.trans (keeps_answer _ handle id _)
  · rw [h]
    exact Keeps.trans (.of_enables (adds_track s c) hsub hlive hmem hkeep) (keeps_answer _ handle id _)

theorem keeps_disconnect (s : Switch ρ) (c : DataClass) : Keeps none s (s.disconnect c).1 := by
  unfold disconnect
  split
  · have hsub : Keeps none s ((s.untrack c).submit (.disable c)) := by
      refine ⟨_, adds_disable s c, fun d up hup => ?_⟩
      have hup' : up = true ∧ d ≠ c := by
        simpa [Effect.submission?, Command.word, @eq_comm _ c d] using hup
      obtain ⟨hold, hne⟩ := hup'
      by_cases hd : s.Holds d
      · exact .inl ⟨hd.1, ClassSet.mem_erase.2 ⟨hne, hd.2⟩⟩
      · exact .inr ⟨hold, fun hheld => absurd hheld hd⟩
    exact hsub.trans (keeps_settle _)
  · exact Keeps.refl s

theorem keeps_retryConnect (s : Switch ρ) : Keeps none s s.retryConnect.1 := by
  unfold retryConnect
  split
  · exact Keeps.refl s
  · next hlive =>
    split
    · exact Keeps.refl s
    · obtain ⟨ds, hds, heq⟩ := exists_foldl_retry_eq s s.waiting.toList
      simp only [heq]
      have hphase : ((ds.map .enable).foldl submit s).phase = s.phase := by rw [foldl_submit_eq]
      have hclasses : ((ds.map .enable).foldl submit s).classes = s.classes := by
        rw [foldl_submit_eq]
      have hsub : (submissions ((numbered s.nextToken (ds.map .enable)).map
          fun e => (.submit e.1 e.2 : Effect ρ))).map Prod.snd = ds.map .enable := by
        rw [submissions_map_submit, map_snd_numbered]
      refine .of_enables (adds_foldl_submit s (ds.map .enable)) hsub ?_ ?_ ?_
      · rw [hphase]
        simpa using hlive
      · rw [hclasses]
        intro d hd
        exact (ClassSet.mem_diff.1 (ClassSet.mem_toList.1 (hds.subset hd))).1
      · rw [hclasses]
        exact fun d hd => hd.2

theorem keeps_cleanupAll (s : Switch ρ) : Keeps none s s.cleanupAll.1 := by
  unfold cleanupAll
  split
  · exact .of_forceIdle (adds_submit s .forceIdle) rfl
  · exact keeps_beginRelease s
  · exact keeps_beginRelease s
  · exact Keeps.refl s

/-- What every request does to the classes that are held. -/
theorem keeps_handle (s : Switch ρ) (id : Nat) (request : Request) (handle : Option ρ) :
    Keeps none s (s.handle id request handle) := by
  refine Keeps.trans ?_ (keeps_publishChange _ _)
  cases request with
  | connect c => exact s.keeps_connect id c handle none
  | acquire c g => exact s.keeps_connect id c handle (some g)
  | disconnect c => exact (s.keeps_disconnect c).trans (keeps_answer _ handle id _)
  | retryConnect => exact s.keeps_retryConnect.trans (keeps_answer _ handle id _)
  | cleanupAll => exact s.keeps_cleanupAll.trans (keeps_answer _ handle id _)
  | isIdle | isIdleOrReleasing | snapshot => exact keeps_answer s handle id _

/-! ## Signals -/

/-- The class that a switch forgets because a signal says that it could not be brought up. -/
def dropped? (s : Switch ρ) : Signal → Option DataClass
  | .completed token fault => (s.inflight.lookup token).bind fun command => command.lost? fault
  | _ => none

/-- Nothing is held during a release, and after it what is asked for is what is tried again. -/
theorem keeps_completeRelease (hp : s.phase = .releasing) : Keeps none s s.completeRelease := by
  have hreplays : ∀ (ps : List (Parked ρ)) (s : Switch ρ), Keeps none s (ps.foldl replay s) := by
    intro ps s
    induction ps generalizing s with
    | nil => exact Keeps.refl s
    | cons p ps ih => exact ((keeps_emit s rfl).trans (keeps_connect _ _ _ _ _)).trans (ih _)
  have hidle : Keeps none s
      ({ s with releaseToken := none, classes := ∅, connected := ∅, parked := [] }.enter .idle) := by
    have hadds : Adds s
        ({ s with releaseToken := none, classes := ∅, connected := ∅, parked := [] }.enter .idle)
        (phaseEvent s.tenant s.phase .idle) := by
      rw [enter_eq]
      exact ⟨rfl, rfl, rfl, by simp⟩
    refine .of_holds hadds (by simp) fun c hc => ?_
    exact absurd hp (Phase.isLive_iff.1 hc.1).2
  exact (hidle.trans (keeps_emit _ rfl)).trans (hreplays _ _)

theorem keeps_finish (s : Switch ρ) (token : Nat) (command : Command) (fault : Option ModemFault) :
    Keeps (command.lost? fault) s (s.finish token command fault) := by
  cases command with
  | enable c =>
    cases fault with
    | none => exact Keeps.refl s
    | some f =>
      have hfailed : Keeps (some c) s
          ((s.untrack c).emit (.event (.requestFailed s.tenant (some c) (.transport f)))) := by
        refine .of_holds (adds_failed s c f) rfl fun d hd => ?_
        by_cases hdc : d = c
        · exact .inr (by rw [hdc])
        · exact .inl ⟨hd.1, ClassSet.mem_erase.2 ⟨hdc, hd.2⟩⟩
      unfold finish
      simp only
      split
      · exact hfailed.trans (keeps_settle _)
      · exact hfailed
  | disable c =>
    cases fault with
    | none => exact Keeps.refl s
    | some f => exact keeps_emit s rfl
  | forceIdle =>
    unfold finish
    simp only
    split
    · next h => exact keeps_completeRelease h.1
    · exact Keeps.refl s

theorem keeps_classConnected (s : Switch ρ) (c : DataClass) : Keeps none s (s.classConnected c) := by
  unfold Switch.classConnected
  split
  · split
    · exact keeps_enter rfl s
    · exact Keeps.trans (.of_same (adds_connected s c) rfl rfl rfl) (keeps_enter rfl _)
  · exact Keeps.refl s

theorem keeps_radioReported (s : Switch ρ) (radio : Radio) : Keeps none s (s.radioReported radio) := by
  unfold Switch.radioReported
  split
  · exact Keeps.refl s
  · simp only
    split
    · exact Keeps.trans (.of_same (adds_radio s radio) rfl rfl rfl) (keeps_beginRelease _)
    · exact .of_same (adds_radio s radio) rfl rfl rfl

/-- What every signal does to the classes that are held. -/
theorem keeps_hear (s : Switch ρ) (signal : Signal) :
    Keeps (s.dropped? signal) (s.ended signal) (s.hear signal) := by
  cases signal with
  | completed token fault =>
    unfold Switch.hear ended
    simp only
    split
    · next hlook =>
      rw [without_of_lookup_eq_none hlook]
      exact Keeps.refl s
    · next command hlook =>
      refine Keeps.trans ?_ (keeps_publishChange _ _)
      have hdropped : s.dropped? (.completed token fault) = command.lost? fault := by
        rw [dropped?, hlook]
        rfl
      rw [hdropped]
      exact keeps_finish (s.without token) token command fault
  | classConnected c => exact (s.keeps_classConnected c).trans (keeps_publishChange _ _)
  | radio state => exact (s.keeps_radioReported state).trans (keeps_publishChange _ _)

end Switch

end DataPath
