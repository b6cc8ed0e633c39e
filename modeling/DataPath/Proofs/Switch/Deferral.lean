import DataPath.Proofs.Switch.Diagram

/-!
# To be parked is to come later

A connect that comes during a release is parked, and tried again when the release is over.  The
switch might as well have been asked after the release: it ends up the same, and does and answers
the same.  What differs is what observers are told, since a parked connect counts in the snapshot
and is announced when it is tried again.

No operation reads the outbox, and observers do not matter here.  So two switches are compared by
their `gist`, in which of the outbox only the deeds are left: the commands, the replies and the
questions.  On gists there is one operation for both ways in which a connect may come (`join`); the
end of the release is where the two orders meet, because the gist of the switch that has just become
idle does not depend on who is parked (`gist_atIdle`).

The radio must not be off, since then a connect is refused and not parked.  An arbitrated switch
tries a connect again without the grant that it came with, so there only connects without a grant
can come late.
-/

namespace DataPath.Switch

variable {ρ : Type} {s : Switch ρ} {input : Input ρ} {arbitrated : Bool}

/-! ## Gists -/

/-- Whether an effect does something, or answers somebody, and does not only tell of it. -/
def Effect.isDeed (e : Effect ρ) : Bool := e.submission?.isSome || e.isAnswer

/-- The commands, replies and questions among effects. -/
def deeds (es : List (Effect ρ)) : List (Effect ρ) := es.filter Effect.isDeed

@[simp] theorem deeds_append (es fs : List (Effect ρ)) : deeds (es ++ fs) = deeds es ++ deeds fs :=
  List.filter_append ..

@[simp] theorem deeds_deeds (es : List (Effect ρ)) : deeds (deeds es) = deeds es := by
  simp [deeds]

/-- Every command is a deed, and so is every answer. -/
theorem submissions_deeds (es : List (Effect ρ)) : submissions (deeds es) = submissions es := by
  induction es with
  | nil => rfl
  | cons e es ih =>
    cases e with
    | submit token command => exact congrArg ((token, command) :: ·) ih
    | notice | event | reply | askOwnership => exact ih

theorem answers_deeds (es : List (Effect ρ)) : answers (deeds es) = answers es := by
  unfold answers deeds
  rw [List.filter_filter]
  refine List.filter_congr fun e _ => ?_
  cases e <;> rfl

/-- A switch with nothing but deeds in its outbox. -/
def gist (s : Switch ρ) : Switch ρ := { s with outbox := deeds s.outbox }

/-- What only tells of something is not in the gist. -/
theorem gist_of_outbox {es : List (Effect ρ)} (hnone : deeds es = []) :
    gist { s with outbox := s.outbox ++ es } = s.gist := by
  simp [gist, hnone]

theorem gist_publishChange (s : Switch ρ) (before : Snapshot) :
    (s.publishChange before).gist = s.gist := by
  rw [publishChange_eq]
  refine gist_of_outbox ?_
  unfold changeNotice
  split <;> rfl

/-- A connect does not read the outbox. -/
theorem gist_connect (s : Switch ρ) (id : Nat) (c : DataClass) (handle : Option ρ)
    (grant : Option Grant) :
    (s.gist.connect id c handle grant).gist = (s.connect id c handle grant).gist := by
  unfold connect gist
  dsimp only
  split
  · simp [answer_eq]
  · split
    · simp
    · split
      · simp [emit]
      · simp [answer_eq, enter_eq, track, submit, emit]
    all_goals
      split
      · simp [answer_eq]
      · split
        · simp [answer_eq]
        · simp [answer_eq, track, submit, emit]

/-! ## Connects -/

/-- A connect comes, at once or at last. -/
def join (s : Switch ρ) (p : Parked ρ) : Switch ρ :=
  (s.connect p.id p.dataClass p.handle none).gist

/-- To try parked connects again is to let them come. -/
theorem gist_foldl_replay (s : Switch ρ) (ps : List (Parked ρ)) :
    (ps.foldl replay s).gist = ps.foldl join s.gist := by
  induction ps generalizing s with
  | nil => rfl
  | cons p ps ih =>
    have hevent : (s.emit (.event (.deferredReplayed s.tenant p.dataClass))).gist = s.gist :=
      gist_of_outbox rfl
    rw [List.foldl_cons, ih, List.foldl_cons, replay, ← gist_connect, hevent]
    rfl

/-- An input that may come during a release or after it: a connect, and if no grant is needed it
may carry one all the same. -/
def Input.Deferrable (arbitrated : Bool) : Input ρ → Prop
  | .request _ (.connect _) _ => True
  | .request _ (.acquire ..) _ => arbitrated = false
  | .request .. | .signal _ | .drain => False

/-- A standalone switch does not look at grants. -/
theorem connect_of_standalone (h : s.arbitrated = false) (id : Nat) (c : DataClass)
    (handle : Option ρ) (grant : Option Grant) :
    s.connect id c handle grant = s.connect id c handle none := by
  simp [connect, h]

theorem Input.Deferrable.ne_drain (h : input.Deferrable arbitrated) : input ≠ .drain := by
  rintro rfl
  exact h

theorem Input.Deferrable.exists_connect (h : input.Deferrable arbitrated) :
    ∃ p, input.connect? = some p ∧
      ∀ s : Switch ρ, s.arbitrated = arbitrated → (s.after input).gist = s.gist.join p := by
  have hjoin : ∀ (s : Switch ρ) (p : Parked ρ) (before : Snapshot),
      ((s.connect p.id p.dataClass p.handle none).publishChange before).gist = s.gist.join p :=
    fun s p before => (gist_publishChange _ before).trans (gist_connect s ..).symm
  cases input with
  | request id wish handle =>
    cases wish with
    | connect c => exact ⟨⟨id, c, handle⟩, rfl, fun s _ => hjoin s ⟨id, c, handle⟩ s.snapshot⟩
    | acquire c grant =>
      have hstandalone : arbitrated = false := h
      refine ⟨⟨id, c, handle⟩, rfl, fun s harb => ?_⟩
      have hgrant := connect_of_standalone (harb.trans hstandalone) id c handle (some grant)
      change ((s.connect id c handle (some grant)).publishChange s.snapshot).gist = _
      rw [hgrant]
      exact hjoin s ⟨id, c, handle⟩ s.snapshot
    | disconnect | retryConnect | cleanupAll | isIdle | isIdleOrReleasing | snapshot => cases h
  | signal | drain => cases h

/-- Connects that come directly. -/
theorem gist_foldl_after (h : s.Sound) (harb : s.arbitrated = arbitrated) {late : List (Input ρ)}
    (hlate : ∀ input ∈ late, input.Deferrable arbitrated) :
    (late.foldl after s).gist = (arrivals late).foldl join s.gist := by
  induction late generalizing s with
  | nil => rfl
  | cons input late ih =>
    obtain ⟨hfirst, hrest⟩ := List.forall_mem_cons.1 hlate
    obtain ⟨p, hp, hjoin⟩ := hfirst.exists_connect
    obtain ⟨es, hpassage⟩ := exists_passage h.tokens input
    have harrivals : arrivals (input :: late) = p :: arrivals late := List.filterMap_cons_some hp
    rw [List.foldl_cons, ih (h.after input) (hpassage.arbitrated.trans harb) hrest, hjoin s harb,
      harrivals, List.foldl_cons]

/-- Connects that come during a release. -/
theorem foldl_join_of_releasing (hp : s.phase = .releasing) (hradio : s.radio.isOff = false)
    (ps : List (Parked ρ)) :
    ps.foldl join s.gist = { s.gist with parked := s.parked ++ ps } := by
  induction ps using List.reverseRecOn with
  | nil => simp [gist]
  | append_singleton ps p ih =>
    rw [List.foldl_append, ih]
    simp [join, connect, gist, hradio, hp]

/-! ## The end of a release -/

/-- At the moment at which the release is over, the gist does not depend on who is parked. -/
theorem gist_atIdle (s : Switch ρ) (k : Nat) :
    (s.without k).atIdle.gist =
      { s.gist.without k with
        releaseToken := none
        classes := ∅
        connected := ∅
        parked := []
        phase := .idle } := by
  have hentrance : deeds (s.without k).atIdle.outbox = deeds s.outbox :=
    (deeds_append ..).trans (List.append_nil _)
  unfold gist
  rw [hentrance]
  rfl

/-- At the end of a release those who are parked come. -/
theorem gist_after_completed (h : s.Sound) {k : Nat} (hk : s.releaseToken = some k)
    (fault : Option ModemFault) :
    (s.after (.signal (.completed k fault))).gist =
      s.parked.foldl join (s.without k).atIdle.gist := by
  rw [after, hear_of_ends h.tokens hk, gist_publishChange, gist_foldl_replay]

section

variable {k : Nat} {late : List (Input ρ)} (h : s.Sound) (harb : s.arbitrated = arbitrated)
  (hk : s.releaseToken = some k) (hlate : ∀ input ∈ late, input.Deferrable arbitrated)

include h harb hk hlate

/-- Those who come during the release stand behind the others in the queue, and that is all. -/
theorem gist_foldl_late (hradio : s.radio.isOff = false) :
    (late.foldl after s).gist = { s.gist with parked := s.parked ++ arrivals late } :=
  (gist_foldl_after h harb hlate).trans
    (foldl_join_of_releasing (h.tokens.releaseToken_eq hk) hradio _)

theorem releaseToken_foldl_late (hradio : s.radio.isOff = false) :
    (late.foldl after s).releaseToken = some k :=
  (congrArg (fun x : Switch ρ => x.releaseToken) (gist_foldl_late h harb hk hlate hradio)).trans hk

theorem gist_late_first (hradio : s.radio.isOff = false) (fault : Option ModemFault) :
    ((late ++ [Input.signal (.completed k fault)]).foldl after s).gist =
      (s.parked ++ arrivals late).foldl join (s.without k).atIdle.gist := by
  have hgist := gist_foldl_late h harb hk hlate hradio
  have htoken := releaseToken_foldl_late h harb hk hlate hradio
  have hparked : (late.foldl after s).parked = s.parked ++ arrivals late :=
    congrArg (fun x : Switch ρ => x.parked) hgist
  rw [List.foldl_append, List.foldl_cons, List.foldl_nil,
    gist_after_completed (h.foldl_after late) htoken, hparked, gist_atIdle, gist_atIdle, hgist]
  rfl

/-- Those who come after it find the switch as the others have left it. -/
theorem gist_late_last (fault : Option ModemFault) :
    ((Input.signal (.completed k fault) :: late).foldl after s).gist =
      (s.parked ++ arrivals late).foldl join (s.without k).atIdle.gist := by
  obtain ⟨es, hpassage⟩ := exists_passage h.tokens (.signal (.completed k fault))
  rw [List.foldl_cons, gist_foldl_after (h.after _) (hpassage.arbitrated.trans harb) hlate,
    gist_after_completed h hk, List.foldl_append]

end

/-! ## Either order -/

/-- Two lists of inputs that come to the same. -/
structure Alike (s : Switch ρ) (these those : List (Input ρ)) : Prop where
  /-- The switch is the same, but for what has not been fetched. -/
  state : { these.foldl after s with outbox := [] } = { those.foldl after s with outbox := [] }
  /-- It submits the same commands, with the same tokens. -/
  submissions : submissions (s.log these) = submissions (s.log those)
  /-- It gives the same replies and asks the same questions. -/
  answers : answers (s.log these) = answers (s.log those)

theorem Alike.of_gist {these those : List (Input ρ)}
    (h : (these.foldl after s).gist = (those.foldl after s).gist)
    (hthese : ∀ input ∈ these, input ≠ .drain) (hthose : ∀ input ∈ those, input ≠ .drain) :
    s.Alike these those := by
  have hdeeds : deeds (s.log these) = deeds (s.log those) := by
    have hout : deeds (these.foldl after s).outbox = deeds (those.foldl after s).outbox :=
      congrArg (fun x : Switch ρ => x.outbox) h
    rw [outbox_foldl_after hthese, outbox_foldl_after hthose, deeds_append, deeds_append] at hout
    exact List.append_cancel_left hout
  refine ⟨congrArg (fun x : Switch ρ => { x with outbox := [] }) h, ?_, ?_⟩
  · rw [← submissions_deeds, hdeeds, submissions_deeds]
  · rw [← answers_deeds, hdeeds, answers_deeds]

/-- Whether connects come during a release, and are parked, or after it makes no difference to the
switch, to the modem or to those who are answered. -/
theorem deferral_of_run (tenant : Tenant) (arbitrated : Bool) (inputs late : List (Input ρ))
    {k : Nat} (hk : (run tenant arbitrated inputs).releaseToken = some k)
    (hradio : (run tenant arbitrated inputs).radio.isOff = false)
    (hlate : ∀ input ∈ late, input.Deferrable arbitrated) (fault : Option ModemFault) :
    (run tenant arbitrated inputs).Alike (late ++ [.signal (.completed k fault)])
        (.signal (.completed k fault) :: late) ∧
      ((late ++ [Input.signal (.completed k fault)]).foldl after
        (run tenant arbitrated inputs)).parked = [] := by
  have hsound := sound_run tenant arbitrated inputs
  have harb := arbitrated_run tenant arbitrated inputs
  have hends : Input.signal (.completed k fault) ≠ (.drain : Input ρ) := nofun
  have hdrain : ∀ input ∈ late, input ≠ .drain := fun input hmem => (hlate input hmem).ne_drain
  have hfirst := gist_late_first hsound harb hk hlate hradio fault
  have hlast := gist_late_last hsound harb hk hlate fault
  refine ⟨.of_gist (hfirst.trans hlast.symm) ?_ (List.forall_mem_cons.2 ⟨hends, hdrain⟩), ?_⟩
  · exact List.forall_mem_append.2 ⟨hdrain, List.forall_mem_singleton.2 hends⟩
  · have htoken := releaseToken_foldl_late hsound harb hk hlate hradio
    rw [List.foldl_append, List.foldl_cons, List.foldl_nil, parked_after (hsound.foldl_after late)]
    exact if_pos (decide_eq_true htoken)

/-- A class is connected, everything is let go, and one connect is parked. -/
def beforeEnd : List (Input Nat) :=
  [.request 1 (.connect .mms) (some 1), .signal (.classConnected .mms),
    .request 2 .cleanupAll (some 2), .request 3 (.connect .dun) (some 3)]

/-- Two classes are asked for, one of them twice, and once with a grant. -/
def latecomers : List (Input Nat) :=
  [.request 4 (.connect .mms) (some 4), .request 5 (.acquire .default ⟨7⟩) none,
    .request 6 (.connect .mms) (some 6)]

/-- At a standalone switch each class is brought up once, in the order in which they came, whether
before or after the end of the release. -/
theorem deferral_of_latecomers :
    (run ⟨0⟩ false beforeEnd).Alike (latecomers ++ [.signal (.completed 2 none)])
        (.signal (.completed 2 none) :: latecomers) ∧
      submissions ((run ⟨0⟩ false beforeEnd).log (.signal (.completed 2 none) :: latecomers)) =
        [(3, .enable .dun), (4, .enable .mms), (5, .enable .default)] := by
  refine ⟨?_, by decide +kernel⟩
  have hlate : ∀ input ∈ latecomers, input.Deferrable false := by
    simp [latecomers, Input.Deferrable]
  exact (deferral_of_run ⟨0⟩ false beforeEnd latecomers (k := 2) (by decide) (by decide) hlate
    none).1

end DataPath.Switch
