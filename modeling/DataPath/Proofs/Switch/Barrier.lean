import DataPath.Proofs.Switch.Diagram

/-!
# A release is a barrier

From the moment at which the force-idle of a release is submitted until it has ended, nothing may be
submitted behind it: the modem would carry it out after everything was let go, and the switch would
be idle and know nothing of it.  So a releasing switch submits nothing and asks for nothing
(`Waits`).  A connect joins the queue, or is refused when the radio is off, and every other request
is answered from what the switch is, which is releasing (`response`).

Many signals arrive in this phase that would lead further at other times: commands from before that
fail, the end of a force-idle that was submitted while the switch was idle, classes that are
connected late, the radio that goes off and on.  They take classes away at most.

The release ends with the end of its force-idle, however that ended, and with nothing else.
-/

namespace DataPath.Switch

variable {ρ : Type} {s : Switch ρ} {input : Input ρ} {later : List (Input ρ)}

/-! ## What a releasing switch answers -/

/-- What a releasing switch says to a request.  To a connect it says nothing, unless the radio is
off. -/
def verdict (s : Switch ρ) : Request → Option ReplyBody
  | .connect _ | .acquire .. =>
    if s.radio.isOff then some (.outcome (.failed (.radioOff s.tenant))) else none
  | .disconnect _ | .retryConnect | .cleanupAll => some (.outcome .alreadyInactive)
  | .isIdle => some (.flag false)
  | .isIdleOrReleasing => some (.flag true)
  | .snapshot => some (.snapshot s.snapshot)

/-- The reply of a releasing switch to an input, if it replies at all. -/
def response (s : Switch ρ) : Input ρ → List (Effect ρ)
  | .request id wish handle => (s.verdict wish).elim [] (replyTo handle id)
  | .signal _ | .drain => []

/-- A response is a reply: no command and no question. -/
theorem response_cases (s : Switch ρ) (input : Input ρ) :
    s.response input = [] ∨ ∃ handle id body, s.response input = replyTo handle id body := by
  cases input with
  | request id wish handle =>
    cases h : s.verdict wish with
    | none => exact .inl (by rw [response, h]; rfl)
    | some body => exact .inr ⟨handle, id, body, by rw [response, h]; rfl⟩
  | signal | drain => exact .inl rfl

theorem submissions_response (s : Switch ρ) (input : Input ρ) :
    submissions (s.response input) = [] := by
  rcases s.response_cases input with h | ⟨handle, id, body, h⟩ <;> simp [h]

theorem answers_response (s : Switch ρ) (input : Input ρ) :
    answers (s.response input) = s.response input := by
  rcases s.response_cases input with h | ⟨handle, id, body, h⟩ <;> simp [h]

theorem not_mem_response (s : Switch ρ) (input : Input ρ) (id : Nat) (c : DataClass)
    (handle : Option ρ) : .askOwnership id c handle ∉ s.response input := by
  rcases s.response_cases input with h | ⟨handle', id', body, h⟩
  · simp [h]
  · cases handle' <;> simp [h, replyTo]

theorem connect_of_releasing (hp : s.phase = .releasing) (id : Nat) (wish : Request) {c : DataClass}
    (hwant : wish.wanted? = some c) (handle : Option ρ) (grant : Option Grant) :
    s.connect id c handle grant =
      { s with
        parked := s.parked ++ s.admitted (.request id wish handle)
        outbox := s.outbox ++ s.response (.request id (.connect c) handle) } := by
  unfold connect admitted response verdict
  rw [hp, Input.connect?, hwant]
  by_cases hoff : s.radio.isOff = true
  · simp [hoff, answer_eq, hp]
  · simp [hoff]

/-- A request to a releasing switch joins the queue, or is answered. -/
theorem serve_of_releasing (hp : s.phase = .releasing) (id : Nat) (wish : Request)
    (handle : Option ρ) :
    s.serve id wish handle =
      { s with
        parked := s.parked ++ s.admitted (.request id wish handle)
        outbox := s.outbox ++ s.response (.request id wish handle) } := by
  have hlive : s.phase.isLive = false := by rw [hp]; rfl
  have hnone : wish.wanted? = none → s.admitted (.request id wish handle) = [] := fun hwant =>
    admitted_of_connect?_eq_none (by rw [Input.connect?, hwant]; rfl)
  cases wish with
  | connect c => exact connect_of_releasing hp id (.connect c) rfl handle none
  | acquire c grant => exact connect_of_releasing hp id (.acquire c grant) rfl handle (some grant)
  | disconnect c =>
    rw [hnone rfl, List.append_nil]
    simp [serve, disconnect, hlive, answer_eq, response, verdict]
  | retryConnect =>
    rw [hnone rfl, List.append_nil]
    simp [serve, retryConnect, hlive, answer_eq, response, verdict]
  | cleanupAll =>
    rw [hnone rfl, List.append_nil]
    simp [serve, cleanupAll, hp, answer_eq, response, verdict]
  | isIdle | isIdleOrReleasing | snapshot =>
    rw [hnone rfl, List.append_nil]
    simp [serve, hp, answer_eq, response, verdict]

/-! ## Waiting -/

/-- What a releasing switch does with a list of inputs in which its force-idle does not end. -/
structure Waits (s : Switch ρ) (later : List (Input ρ)) : Prop where
  /-- It is releasing still. -/
  phase : (later.foldl after s).phase = .releasing
  /-- It waits for the same command. -/
  token : (later.foldl after s).releaseToken = s.releaseToken
  /-- It submits nothing. -/
  submissions : submissions (s.log later) = []
  /-- It wants no class that it did not want. -/
  classes : ∀ c ∈ (later.foldl after s).classes, c ∈ s.classes
  /-- No class counts as connected that did not. -/
  connected : ∀ c ∈ (later.foldl after s).connected, c ∈ s.connected
  /-- The connects join the queue in order. -/
  parked : (later.foldl after s).parked = s.parked ++ s.along admitted later
  /-- The answers are the responses, in order. -/
  answers : answers (s.log later) = s.along response later

theorem Waits.nil (hp : s.phase = .releasing) : s.Waits [] :=
  ⟨hp, rfl, rfl, fun _ h => h, fun _ h => h, (List.append_nil _).symm, rfl⟩

theorem Waits.cons (h : s.Waits [input]) (h' : (s.after input).Waits later) :
    s.Waits (input :: later) where
  phase := h'.phase
  token := h'.token.trans h.token
  submissions := by
    have hfirst := h.submissions
    rw [log_cons, log_nil, List.append_nil] at hfirst
    rw [log_cons, submissions_append, hfirst, h'.submissions, List.nil_append]
  classes := fun c hc => h.classes c (h'.classes c hc)
  connected := fun c hc => h.connected c (h'.connected c hc)
  parked := by
    have hfirst := h.parked
    rw [along_cons, along_nil, List.append_nil] at hfirst
    rw [along_cons, ← List.append_assoc, ← hfirst]
    exact h'.parked
  answers := by
    have hfirst := h.answers
    rw [log_cons, log_nil, along_cons, along_nil, List.append_nil, List.append_nil] at hfirst
    rw [log_cons, along_cons, answers_append, hfirst, h'.answers]

/-- What one input does to the switch, up to the point where the change is published. -/
theorem Waits.of_step {s₁ : Switch ρ} {new : List (Effect ρ)}
    (hafter : s.after input = s₁.publishChange s.snapshot) (hp : s₁.phase = .releasing)
    (hout : s₁.outbox = s.outbox ++ new) (htoken : s₁.releaseToken = s.releaseToken)
    (hsub : Switch.submissions new = []) (hclasses : ∀ c ∈ s₁.classes, c ∈ s.classes)
    (hconnected : ∀ c ∈ s₁.connected, c ∈ s.connected)
    (hparked : s₁.parked = s.parked ++ s.admitted input)
    (hans : Switch.answers new = s.response input) : s.Waits [input] := by
  have hemitted : s.emitted input = new ++ changeNotice s.snapshot s₁.snapshot := emitted_eq (by
    rw [hafter, publishChange_eq, hout, List.append_assoc])
  rw [publishChange_eq] at hafter
  refine ⟨?_, ?_, ?_, ?_, ?_, ?_, ?_⟩ <;>
    simp only [List.foldl_cons, List.foldl_nil, hafter, log_cons, log_nil, along_cons, along_nil,
      List.append_nil, hemitted, submissions_append, answers_append, submissions_changeNotice,
      answers_changeNotice]
  · exact hp
  · exact htoken
  · exact hsub
  · exact hclasses
  · exact hconnected
  · exact hparked
  · exact hans

theorem waits_request (hp : s.phase = .releasing) (id : Nat) (wish : Request) (handle : Option ρ) :
    s.Waits [.request id wish handle] := by
  have hafter : s.after (.request id wish handle) =
      (s.serve id wish handle).publishChange s.snapshot := rfl
  rw [serve_of_releasing hp] at hafter
  exact .of_step hafter hp rfl rfl (submissions_response s _) (fun _ h => h) (fun _ h => h) rfl
    (answers_response s _)

/-- A signal takes classes away at most, unless it ends the release. -/
theorem waits_signal (hp : s.phase = .releasing) (signal : Signal)
    (hends : s.ends (.signal signal) = false) : s.Waits [.signal signal] := by
  obtain ⟨s₁, hheeded, heq⟩ := s.heeded signal
  have hparked : s₁.parked = s.parked ++ s.admitted (.signal signal) := by
    rw [admitted_of_connect?_eq_none rfl, List.append_nil]
    exact hheeded.parked_eq hends
  -- A signal that moves a live switch does not reach this one.
  have hdead : s.phase.isLive = true → s.Waits [.signal signal] := fun hlive =>
    absurd hp (Phase.isLive_iff.1 hlive).2
  cases hheeded with
  | ignored =>
    have hout : (s.ended signal).outbox = s.outbox ++ [] :=
      (ended_outbox s signal).trans (List.append_nil _).symm
    cases signal <;> exact .of_step heq hp hout rfl rfl (fun _ h => h) (fun _ h => h) hparked rfl
  | reported => exact .of_step heq hp rfl rfl rfl (fun _ h => h) (fun _ h => h) hparked rfl
  | failed =>
    exact .of_step heq hp rfl rfl rfl (fun _ h => (ClassSet.mem_erase.1 h).2)
      (fun _ h => (ClassSet.mem_erase.1 h).2) hparked rfl
  | radio =>
    exact .of_step heq hp (List.append_assoc ..) rfl rfl (fun _ h => h) (fun _ h => h) hparked rfl
  | lost _ _ _ hlive => exact hdead hlive
  | again _ hlive => exact hdead hlive
  | connected _ hlive => exact hdead hlive
  | cut _ hlive => exact hdead hlive
  | released token fault _ htoken => simp [ends, htoken] at hends

theorem waits_drain (hp : s.phase = .releasing) : s.Waits [.drain] where
  phase := hp
  token := rfl
  submissions := rfl
  classes := fun _ h => h
  connected := fun _ h => h
  parked := by
    rw [along_cons, along_nil, admitted_of_connect?_eq_none rfl]
    exact (List.append_nil _).symm
  answers := rfl

theorem waits_of_forall (hp : s.phase = .releasing) {k : Nat} (hk : s.releaseToken = some k)
    (hlater : ∀ fault, .signal (.completed k fault) ∉ later) : s.Waits later := by
  induction later generalizing s with
  | nil => exact .nil hp
  | cons input later ih =>
    have hfirst : s.Waits [input] := by
      cases input with
      | request id wish handle => exact waits_request hp id wish handle
      | signal signal =>
        refine waits_signal hp signal (Bool.eq_false_iff.2 fun hends => ?_)
        obtain ⟨j, fault, heq, hj⟩ := exists_of_ends hends
        obtain rfl : k = j := Option.some.inj (hk.symm.trans hj)
        exact hlater fault (heq ▸ List.mem_cons_self)
      | drain => exact waits_drain hp
    exact hfirst.cons (ih hfirst.phase (hfirst.token.trans hk) fun fault hmem =>
      hlater fault (List.mem_cons_of_mem _ hmem))

theorem mem_along {α : Type} {f : Switch ρ → Input ρ → List α} {x : α} (h : x ∈ s.along f later) :
    ∃ s' input, x ∈ f s' input := by
  induction later generalizing s with
  | nil => cases h
  | cons input later ih =>
    rcases List.mem_append.1 h with hmem | hmem
    · exact ⟨s, input, hmem⟩
    · exact ih hmem

/-- It does not ask the arbiter. -/
theorem Waits.not_mem_log (h : s.Waits later) (id : Nat) (c : DataClass) (handle : Option ρ) :
    .askOwnership id c handle ∉ s.log later := by
  intro hmem
  have hanswer : .askOwnership id c handle ∈ Switch.answers (s.log later) :=
    List.mem_filter.2 ⟨hmem, rfl⟩
  rw [h.answers] at hanswer
  obtain ⟨s', input, hresponse⟩ := mem_along hanswer
  exact not_mem_response s' input id c handle hresponse

/-! ## The end of the wait -/

/-- With this input the release is over. -/
structure Confirms (s : Switch ρ) (input : Input ρ) : Prop where
  /-- The switch enters idle, tells of it, and does not enter it again. -/
  emitted : ∃ es, s.emitted input =
      .event (.phaseChanged s.tenant .releasing .idle) ::
        .notice (.enteredIdle s.tenant (s.parked.map Parked.dataClass)) :: es ∧
      es.filter Effect.entersIdle = []
  /-- It is not releasing any more. -/
  phase : (s.after input).phase ≠ .releasing
  /-- It waits for no command. -/
  token : (s.after input).releaseToken = none
  /-- Nobody is left in the queue. -/
  parked : (s.after input).parked = []

theorem Sound.confirms (h : s.Sound) {k : Nat} (hk : s.releaseToken = some k)
    (fault : Option ModemFault) : s.Confirms (.signal (.completed k fault)) := by
  have hends : s.ends (.signal (.completed k fault)) = true := decide_eq_true hk
  obtain ⟨es, hpassage⟩ := exists_passage h.tokens (.signal (.completed k fault))
  have hphase : (s.after (.signal (.completed k fault))).phase ≠ .releasing := by
    rw [Switch.after, hear_of_ends h.tokens hk, publishChange_eq]
    exact (foldl_replay_of_ne_releasing (atIdle_ne_releasing _) _).1
  refine ⟨⟨es, ?_, hpassage.walk.filter_entersIdle⟩, hphase, ?_, ?_⟩
  · rw [hpassage.emitted, entrance, if_pos hends]
    rfl
  · rw [← Option.not_isSome_iff_eq_none, (h.after _).coherent.release]
    exact hphase
  · rw [parked_after h, if_pos hends]

/-- As long as its force-idle has not ended a releasing switch waits, whatever comes.  When it ends,
with a fault or without, the release is over. -/
theorem barrier_of_run (tenant : Tenant) (arbitrated : Bool) (inputs later : List (Input ρ))
    {k : Nat} (hk : (run tenant arbitrated inputs).releaseToken = some k)
    (hlater : ∀ fault, .signal (.completed k fault) ∉ later) :
    (run tenant arbitrated inputs).Waits later ∧
      (∀ id c handle, .askOwnership id c handle ∉ (run tenant arbitrated inputs).log later) ∧
      ∀ fault, (later.foldl after (run tenant arbitrated inputs)).Confirms
        (.signal (.completed k fault)) := by
  have hsound := sound_run tenant arbitrated inputs
  have hwaits := waits_of_forall (hsound.tokens.releaseToken_eq hk) hk hlater
  exact ⟨hwaits, hwaits.not_mem_log,
    (hsound.foldl_after later).confirms (hwaits.token.trans hk)⟩

/-- An idle switch is told to clean up, is asked for a class, and is told to clean up again. -/
def beforeRelease : List (Input Nat) :=
  [.request 1 .cleanupAll none, .request 2 (.connect .mms) (some 1),
    .request 3 .cleanupAll (some 2)]

/-- The first clean-up ends, the class fails and is connected late, the radio goes off and on, and
there are more requests. -/
def strays : List (Input Nat) :=
  [.signal (.completed 1 none), .request 4 (.connect .dun) (some 3),
    .signal (.completed 2 (some .closed)), .signal (.classConnected .mms), .signal (.radio .off),
    .request 5 (.connect .mms) (some 4), .signal (.radio .on), .drain,
    .request 6 .retryConnect (some 5)]

/-- The force-idle of the release has the third token, and the end of the first one, which is a
force-idle too, does not stand in for it. -/
theorem barrier_against_strays :
    (run ⟨0⟩ false beforeRelease).Waits strays ∧
      (strays.foldl after (run ⟨0⟩ false beforeRelease)).parked = [⟨4, .dun, some 3⟩] := by
  refine ⟨?_, by decide +kernel⟩
  have hlater : ∀ fault, .signal (.completed 3 fault) ∉ strays := by simp [strays]
  exact (barrier_of_run ⟨0⟩ false beforeRelease strays (k := 3) (by decide) hlater).1

end DataPath.Switch
