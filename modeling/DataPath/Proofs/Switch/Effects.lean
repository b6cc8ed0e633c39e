import DataPath.Station
import Mathlib.Data.List.Nodup

/-!
# What the effects of a switch say

The outbox of a switch mixes commands, notices, events and answers.  Three readings of a
list of effects are all that the rest of the theory needs:

* `submissions` lists the commands with their tokens,
* `notices` lists the notices,
* `answers` lists the replies and the questions for the arbiter.

Emptying the outbox moves the answers behind the rest, and no reading notices that.

The small operations of a switch change a few fields and append to the outbox.  They
are put in this form here (`answer_eq`, `enter_eq`, `publishChange_eq`,
`beginRelease_eq`), so that a whole rule becomes one record update.
-/

namespace DataPath.Switch

variable {ρ : Type}

/-! ## Three readings of a list of effects -/

/-- The command that an effect submits, with its token. -/
def Effect.submission? : Effect ρ → Option (Nat × Command)
  | .submit token command => some (token, command)
  | _ => none

/-- The notice that an effect delivers. -/
def Effect.notice? : Effect ρ → Option Notice
  | .notice n => some n
  | _ => none

/-- The commands that effects submit. -/
def submissions (es : List (Effect ρ)) : List (Nat × Command) := es.filterMap Effect.submission?

/-- The notices that effects deliver. -/
def notices (es : List (Effect ρ)) : List Notice := es.filterMap Effect.notice?

/-- The replies and the questions among effects. -/
def answers (es : List (Effect ρ)) : List (Effect ρ) := es.filter Effect.isAnswer

@[simp] theorem submissions_nil : submissions ([] : List (Effect ρ)) = [] := rfl

@[simp] theorem notices_nil : notices ([] : List (Effect ρ)) = [] := rfl

@[simp] theorem answers_nil : answers ([] : List (Effect ρ)) = [] := rfl

@[simp] theorem submissions_append (es fs : List (Effect ρ)) :
    submissions (es ++ fs) = submissions es ++ submissions fs := List.filterMap_append

@[simp] theorem notices_append (es fs : List (Effect ρ)) :
    notices (es ++ fs) = notices es ++ notices fs := List.filterMap_append

@[simp] theorem answers_append (es fs : List (Effect ρ)) :
    answers (es ++ fs) = answers es ++ answers fs := List.filter_append ..

@[simp] theorem submissions_cons (e : Effect ρ) (es : List (Effect ρ)) :
    submissions (e :: es) = e.submission?.toList ++ submissions es := by
  cases h : e.submission? <;> simp [submissions, h]

@[simp] theorem notices_cons (e : Effect ρ) (es : List (Effect ρ)) :
    notices (e :: es) = e.notice?.toList ++ notices es := by
  cases h : e.notice? <;> simp [notices, h]

@[simp] theorem answers_cons (e : Effect ρ) (es : List (Effect ρ)) :
    answers (e :: es) = (if e.isAnswer then [e] else []) ++ answers es := by
  cases h : e.isAnswer <;> simp [answers, h]

/-- An answer submits nothing. -/
theorem submission?_eq_none_of_isAnswer {e : Effect ρ} (h : e.isAnswer = true) :
    e.submission? = none := by
  cases e <;> simp_all [Effect.isAnswer, Effect.submission?]

/-- An answer delivers nothing. -/
theorem notice?_eq_none_of_isAnswer {e : Effect ρ} (h : e.isAnswer = true) :
    e.notice? = none := by
  cases e <;> simp_all [Effect.isAnswer, Effect.notice?]

/-- Separating the answers from the rest loses nothing of what the rest says. -/
theorem filterMap_filter_not_isAnswer {α : Type} (f : Effect ρ → Option α)
    (hf : ∀ e : Effect ρ, e.isAnswer = true → f e = none) (es : List (Effect ρ)) :
    (es.filter fun e => !e.isAnswer).filterMap f = es.filterMap f := by
  induction es with
  | nil => rfl
  | cons e es ih =>
    cases h : e.isAnswer with
    | true => rw [List.filter_cons_of_neg (by simp [h]), List.filterMap_cons, hf e h, ih]
    | false => rw [List.filter_cons_of_pos (by simp [h]), List.filterMap_cons, List.filterMap_cons, ih]

/-- Separating the answers from the rest leaves nothing but answers on the one side. -/
theorem filterMap_filter_isAnswer {α : Type} (f : Effect ρ → Option α)
    (hf : ∀ e : Effect ρ, e.isAnswer = true → f e = none) (es : List (Effect ρ)) :
    (es.filter Effect.isAnswer).filterMap f = [] := by
  rw [List.filterMap_eq_nil_iff]
  intro e he
  exact hf e (List.mem_filter.1 he).2

theorem submissions_drain (s : Switch ρ) : submissions s.drain.1 = submissions s.outbox := by
  unfold submissions drain
  rw [List.filterMap_append,
    filterMap_filter_not_isAnswer _ fun _ => submission?_eq_none_of_isAnswer,
    filterMap_filter_isAnswer _ fun _ => submission?_eq_none_of_isAnswer, List.append_nil]

theorem notices_drain (s : Switch ρ) : notices s.drain.1 = notices s.outbox := by
  unfold notices drain
  rw [List.filterMap_append,
    filterMap_filter_not_isAnswer _ fun _ => notice?_eq_none_of_isAnswer,
    filterMap_filter_isAnswer _ fun _ => notice?_eq_none_of_isAnswer, List.append_nil]

theorem answers_drain (s : Switch ρ) : answers s.drain.1 = answers s.outbox := by
  unfold answers drain
  rw [List.filter_append, List.filter_filter, List.filter_filter]
  simp

/-! ## The small operations -/

/-- The event of entering a phase, unless it is the present one. -/
def phaseEvent (t : Tenant) (source target : Phase) : List (Effect ρ) :=
  if source = target then [] else [.event (.phaseChanged t source target)]

/-- The reply to a request, if somebody waits for it. -/
def replyTo (handle : Option ρ) (id : Nat) (body : ReplyBody) : List (Effect ρ) :=
  (handle.map fun h => .reply h ⟨id, body⟩).toList

/-- The notice of a change, if there is one. -/
def changeNotice (before after : Snapshot) : List (Effect ρ) :=
  if after = before then [] else [.notice (.updated after)]

theorem answer_eq (s : Switch ρ) (handle : Option ρ) (id : Nat) (body : ReplyBody) :
    s.answer handle id body = { s with outbox := s.outbox ++ replyTo handle id body } := by
  cases handle <;> simp [answer, replyTo, emit]

theorem enter_eq (s : Switch ρ) (p : Phase) :
    s.enter p =
      { s with phase := p, outbox := s.outbox ++ phaseEvent s.tenant s.phase p } := by
  unfold enter phaseEvent
  split
  · next h =>
    subst h
    simp
  · rfl

theorem publishChange_eq (s : Switch ρ) (before : Snapshot) :
    s.publishChange before =
      { s with outbox := s.outbox ++ changeNotice before s.snapshot } := by
  unfold publishChange changeNotice
  split
  · simp
  · rfl

theorem beginRelease_eq (s : Switch ρ) :
    s.beginRelease =
      { s with
        inflight := s.inflight ++ [(s.nextToken, .forceIdle)]
        nextToken := s.nextToken + 1
        releaseToken := some s.nextToken
        phase := .releasing
        outbox := s.outbox ++ [.submit s.nextToken .forceIdle] ++
          phaseEvent s.tenant s.phase .releasing } := by
  simp [beginRelease, submit, emit, enter_eq]

@[simp] theorem submissions_phaseEvent (t : Tenant) (p q : Phase) :
    submissions (phaseEvent t p q : List (Effect ρ)) = [] := by
  unfold phaseEvent
  split <;> simp [Effect.submission?]

@[simp] theorem notices_phaseEvent (t : Tenant) (p q : Phase) :
    notices (phaseEvent t p q : List (Effect ρ)) = [] := by
  unfold phaseEvent
  split <;> simp [Effect.notice?]

@[simp] theorem answers_phaseEvent (t : Tenant) (p q : Phase) :
    answers (phaseEvent t p q : List (Effect ρ)) = [] := by
  unfold phaseEvent
  split <;> simp [Effect.isAnswer]

@[simp] theorem submissions_replyTo (h : Option ρ) (id : Nat) (b : ReplyBody) :
    submissions (replyTo h id b) = [] := by
  cases h <;> simp [replyTo, Effect.submission?]

@[simp] theorem notices_replyTo (h : Option ρ) (id : Nat) (b : ReplyBody) :
    notices (replyTo h id b) = [] := by
  cases h <;> simp [replyTo, Effect.notice?]

@[simp] theorem answers_replyTo (h : Option ρ) (id : Nat) (b : ReplyBody) :
    answers (replyTo h id b) = replyTo h id b := by
  cases h <;> simp [replyTo, Effect.isAnswer]

@[simp] theorem submissions_changeNotice (b a : Snapshot) :
    submissions (changeNotice b a : List (Effect ρ)) = [] := by
  unfold changeNotice
  split <;> simp [Effect.submission?]

@[simp] theorem answers_changeNotice (b a : Snapshot) :
    answers (changeNotice b a : List (Effect ρ)) = [] := by
  unfold changeNotice
  split <;> simp [Effect.isAnswer]

/-! ## Many commands at once -/

/-- Commands with the tokens from a number on. -/
def numbered : Nat → List Command → List (Nat × Command)
  | _, [] => []
  | k, c :: cs => (k, c) :: numbered (k + 1) cs

@[simp] theorem length_numbered (k : Nat) (cs : List Command) :
    (numbered k cs).length = cs.length := by
  induction cs generalizing k with
  | nil => rfl
  | cons c cs ih => simp [numbered, ih]

theorem map_snd_numbered (k : Nat) (cs : List Command) : (numbered k cs).map Prod.snd = cs := by
  induction cs generalizing k with
  | nil => rfl
  | cons c cs ih => simp [numbered, ih]

theorem map_fst_numbered (k : Nat) (cs : List Command) :
    (numbered k cs).map Prod.fst = List.range' k cs.length := by
  induction cs generalizing k with
  | nil => rfl
  | cons c cs ih => simp [numbered, ih, List.range'_succ]

/-- They are the next tokens. -/
theorem lt_of_mem_numbered {k : Nat} {cs : List Command} {e : Nat × Command}
    (he : e ∈ numbered k cs) : e.1 < k + cs.length := by
  have hmem := List.mem_map_of_mem (f := Prod.fst) he
  rw [map_fst_numbered] at hmem
  exact (List.mem_range'_1.1 hmem).2

/-- Submitting commands one after the other. -/
theorem foldl_submit_eq (s : Switch ρ) (cs : List Command) :
    cs.foldl submit s =
      { s with
        inflight := s.inflight ++ numbered s.nextToken cs
        nextToken := s.nextToken + cs.length
        outbox := s.outbox ++ (numbered s.nextToken cs).map fun e => .submit e.1 e.2 } := by
  induction cs generalizing s with
  | nil => simp [numbered]
  | cons c cs ih =>
    rw [List.foldl_cons, ih]
    simp [submit, emit, numbered, Nat.add_assoc, Nat.add_comm 1]

@[simp] theorem submissions_map_submit (es : List (Nat × Command)) :
    submissions (es.map fun e => (.submit e.1 e.2 : Effect ρ)) = es := by
  induction es with
  | nil => rfl
  | cons e es ih => simp [ih, Effect.submission?]

@[simp] theorem notices_map_submit (es : List (Nat × Command)) :
    notices (es.map fun e => (.submit e.1 e.2 : Effect ρ)) = [] := by
  induction es with
  | nil => rfl
  | cons e es ih => simp [ih, Effect.notice?]

@[simp] theorem answers_map_submit (es : List (Nat × Command)) :
    answers (es.map fun e => (.submit e.1 e.2 : Effect ρ)) = [] := by
  induction es with
  | nil => rfl
  | cons e es ih => simp [ih, Effect.isAnswer]

/-- Retrying classes submits commands to bring up some of them. -/
theorem exists_foldl_retry_eq (s : Switch ρ) (cs : List DataClass) :
    ∃ ds : List DataClass, ds.Sublist cs ∧ cs.foldl retry s = (ds.map .enable).foldl submit s := by
  induction cs generalizing s with
  | nil => exact ⟨[], List.Sublist.slnil, rfl⟩
  | cons c cs ih =>
    rw [List.foldl_cons]
    obtain ⟨ds, hds, heq⟩ := ih (s.retry c)
    by_cases h : s.isEnabling c = true
    · refine ⟨ds, hds.cons c, ?_⟩
      rw [heq, retry, if_pos h]
    · refine ⟨c :: ds, hds.cons_cons c, ?_⟩
      rw [heq, List.map_cons, List.foldl_cons, retry, if_neg h]

/-! ## Trying parked connects again -/

/-- What an idle arbitrated switch does with a parked connect: it asks the arbiter, or
refuses when the radio is off. -/
def replayed (t : Tenant) (radio : Radio) (p : Parked ρ) : Effect ρ × List (Effect ρ) :=
  (.event (.deferredReplayed t p.dataClass),
    if radio.isOff then replyTo p.handle p.id (.outcome (.failed (.radioOff t)))
    else [.askOwnership p.id p.dataClass p.handle])

/-- An idle arbitrated switch stays as it is while parked connects are tried again. -/
theorem foldl_replay_eq (s : Switch ρ) (ps : List (Parked ρ)) (hphase : s.phase = .idle)
    (harb : s.arbitrated = true) :
    ps.foldl replay s =
      { s with
        outbox := s.outbox ++
          ps.flatMap fun p => (replayed s.tenant s.radio p).1 :: (replayed s.tenant s.radio p).2 } := by
  induction ps generalizing s with
  | nil => simp
  | cons p ps ih =>
    have hstep : s.replay p =
        { s with
          outbox := s.outbox ++
            ((replayed s.tenant s.radio p).1 :: (replayed s.tenant s.radio p).2) } := by
      unfold replay connect replayed
      by_cases hoff : s.radio.isOff = true
      · simp [emit, hoff, answer_eq]
      · simp [emit, hoff, hphase, harb]
    rw [List.foldl_cons, hstep, ih]
    · simp
    · exact hphase
    · exact harb

/-! ## Carrying out effects -/

/-- When every command is accepted, one round carries out everything. -/
theorem carryOut_eq {accepts : Nat → Bool} (h : ∀ k, accepts k = true) (s : Switch ρ) :
    s.carryOut accepts = ({ s with outbox := [] }, s.drain.1) := by
  have hfold : ∀ (es : List (Effect ρ)) (s : Switch ρ), es.foldl (attempt accepts) s = s := by
    intro es s
    induction es with
    | nil => rfl
    | cons e es ih =>
      rw [List.foldl_cons]
      have : attempt accepts s e = s := by
        cases e <;> simp [attempt, h]
      rw [this, ih]
  have hempty : carryOutFor accepts 15 { s with outbox := [] } = ({ s with outbox := [] }, []) := rfl
  unfold carryOut maxRounds carryOutFor
  simp only [hfold]
  split
  · next hnil =>
    have hnil' : s.drain.1 = [] := by simpa using hnil
    rw [hnil']
    rfl
  · have : s.drain.2 = { s with outbox := [] } := rfl
    rw [this, hempty, List.append_nil]

end DataPath.Switch

namespace DataPath.Station

variable {ρ σ : Type} (world : Surroundings σ)

/-! ## Performing effects -/

/-- Carrying out effects changes whom a station tells, but not its switch. -/
theorem switch_perform (st : Station ρ σ) (e : Switch.Effect ρ) :
    (st.perform world e).1.switch = st.switch := by
  cases e <;> rfl

theorem switch_performAll (st : Station ρ σ) (es : List (Switch.Effect ρ)) :
    (st.performAll world es).1.switch = st.switch := by
  induction es generalizing st with
  | nil => rfl
  | cons e es ih => exact (ih (st.perform world e).1).trans (switch_perform world st e)

end DataPath.Station
