import DataPath.Proofs.Switch.Course
import DataPath.Proofs.Switch.Log
import DataPath.Proofs.Switch.Refusal

/-!
# The feedback of refused commands

Whoever carries out the effects of a switch fetches them, hands the commands among them to the modem,
and tells the switch of each command that the modem does not accept that it has failed.  Then he
fetches again what the switch wants now, until there is nothing.  What the switch is given meanwhile
is a list of inputs like any other (`Loop`).

However the modem decides about each single command, there is exactly one such list, so the loop comes
to its end; and on the whole list the accounts are right (`accounted_of_run`).  Every command that was
in the outbox or was issued meanwhile is handed over once, every one that is refused is signalled to
have failed once, and all the others are in flight afterwards.

It remains to see what becomes of the classes.  A class gets among those of a switch by a command to
bring it up only, and while the latest such command is in flight its refusal takes the class away.
So a class whose latest command was refused is gone, except in one case: when the switch has been told
before that this command was a success.  Then it is no longer in flight, and that it has failed is not
heard any more (`kept_after_early_success`).  For this the success must have been signalled while the
command still stood in the outbox, which does not happen to a switch whose effects are carried out
after every input.
-/

namespace DataPath.Switch

variable {ρ : Type} {s s' s'' : Switch ρ} {c d : DataClass} {es fs : List (Effect ρ)} {k : Nat}
  {accepts : Nat → Bool} {input : Input ρ} {inputs loop : List (Input ρ)}

/-! ## How classes come -/

/-- Effects are added, and a class that is new has a command to bring it up among them. -/
def Claims (s s' : Switch ρ) (es : List (Effect ρ)) : Prop :=
  Adds s s' es ∧ ∀ c ∈ s'.classes, c ∈ s.classes ∨ ∃ k, (k, .enable c) ∈ submissions es

theorem Claims.of_classes (hadds : Adds s s' es) (hclasses : ∀ c ∈ s'.classes, c ∈ s.classes) :
    Claims s s' es :=
  ⟨hadds, fun c hc => .inl (hclasses c hc)⟩

theorem Claims.refl (s : Switch ρ) : Claims s s [] := .of_classes (Adds.refl s) fun _ => id

theorem Claims.trans (h : Claims s s' es) (h' : Claims s' s'' fs) : Claims s s'' (es ++ fs) := by
  refine ⟨h.1.trans h'.1, fun c hc => ?_⟩
  rw [submissions_append]
  rcases h'.2 c hc with hold | ⟨k, hk⟩
  · exact (h.2 c hold).imp_right fun ⟨k, hk⟩ => ⟨k, List.mem_append_left _ hk⟩
  · exact .inr ⟨k, List.mem_append_right _ hk⟩

theorem claims_emit (s : Switch ρ) {e : Effect ρ} (he : e.submission? = none) :
    Claims s (s.emit e) [e] :=
  .of_classes (adds_emit s he) fun _ => id

theorem claims_answer (s : Switch ρ) (handle : Option ρ) (id : Nat) (body : ReplyBody) :
    Claims s (s.answer handle id body) (replyTo handle id body) :=
  .of_classes (adds_answer s handle id body) fun c hc => by rwa [answer_eq] at hc

theorem claims_publishChange (s : Switch ρ) (before : Snapshot) :
    Claims s (s.publishChange before) (changeNotice before s.snapshot) :=
  .of_classes (adds_publishChange s before) fun c hc => by rwa [publishChange_eq] at hc

theorem claims_enter (s : Switch ρ) (p : Phase) :
    Claims s (s.enter p) (phaseEvent s.tenant s.phase p) :=
  .of_classes (adds_enter s p) fun c hc => by rwa [enter_eq] at hc

theorem claims_beginRelease (s : Switch ρ) : ∃ es, Claims s s.beginRelease es :=
  ⟨_, .of_classes (adds_beginRelease s) fun c hc => by rwa [beginRelease_eq] at hc⟩

theorem claims_track (s : Switch ρ) (c : DataClass) :
    Claims s (s.track c) [.submit s.nextToken (.enable c)] := by
  refine ⟨adds_track s c, fun d hd => ?_⟩
  rcases ClassSet.mem_insert.1 hd with rfl | hold
  · exact .inr ⟨s.nextToken, List.mem_singleton_self _⟩
  · exact .inl hold

/-- Whatever a switch settles to, it takes on no class. -/
theorem claims_settle (s : Switch ρ) : ∃ es, Claims s s.settle es := by
  rcases s.settle_cases with ⟨-, heq⟩ | ⟨-, heq⟩ | ⟨-, heq⟩
  · rw [heq]
    exact claims_beginRelease s
  · rw [heq]
    exact ⟨_, claims_enter s .acquiring⟩
  · rw [heq]
    exact ⟨_, Claims.refl s⟩

theorem claims_serve (s : Switch ρ) (id : Nat) (request : Request) (handle : Option ρ) :
    ∃ es, Claims s (s.serve id request handle) es := by
  have hserved := s.served id request handle
  generalize s.serve id request handle = s' at hserved
  cases hserved with
  | answered _ body => exact ⟨_, claims_answer s handle id body⟩
  | parked c => exact ⟨[], .of_classes ⟨rfl, rfl, by simp, by simp⟩ fun _ hd => hd⟩
  | asked c => exact ⟨_, claims_emit s rfl⟩
  | entered c =>
    exact ⟨_, ((claims_track s c).trans (claims_enter _ .acquiring)).trans
      (claims_answer _ handle id _)⟩
  | tracked c => exact ⟨_, (claims_track s c).trans (claims_answer _ handle id _)⟩
  | dropped c =>
    have hdisable : Claims s ((s.untrack c).submit (.disable c)) _ :=
      .of_classes (adds_disable s c) fun d hd => (ClassSet.mem_erase.1 hd).2
    obtain ⟨es, hsettle⟩ := claims_settle ((s.untrack c).submit (.disable c))
    exact ⟨_, (hdisable.trans hsettle).trans (claims_answer _ handle id _)⟩
  | retried ds =>
    have hretry : Claims s ((ds.map .enable).foldl submit s) _ :=
      .of_classes (adds_foldl_submit s (ds.map .enable)) fun c hc => by rwa [foldl_submit_eq] at hc
    exact ⟨_, hretry.trans (claims_answer _ handle id _)⟩
  | swept =>
    have hsweep : Claims s (s.submit .forceIdle) _ :=
      .of_classes (adds_submit s .forceIdle) fun _ hd => hd
    exact ⟨_, hsweep.trans (claims_answer _ handle id _)⟩
  | released =>
    obtain ⟨es, hrelease⟩ := claims_beginRelease s
    exact ⟨_, hrelease.trans (claims_answer _ handle id _)⟩

theorem claims_foldl_replay (s : Switch ρ) (ps : List (Parked ρ)) :
    ∃ es, Claims s (ps.foldl replay s) es := by
  induction ps generalizing s with
  | nil => exact ⟨_, Claims.refl s⟩
  | cons p ps ih =>
    obtain ⟨es, hserve⟩ := claims_serve (s.emit (.event (.deferredReplayed s.tenant p.dataClass)))
      p.id (.connect p.dataClass) p.handle
    obtain ⟨fs, hrest⟩ := ih (s.replay p)
    exact ⟨_, ((claims_emit s rfl).trans hserve).trans hrest⟩

/-- After a release there are the classes that are tried again, and no others. -/
theorem claims_completeRelease (s : Switch ρ) : ∃ es, Claims s s.completeRelease es := by
  have hidle : Claims s
      ({ s with releaseToken := none, classes := ∅, connected := ∅, parked := [] }.enter .idle)
      (phaseEvent s.tenant s.phase .idle) := by
    rw [enter_eq]
    exact .of_classes ⟨rfl, rfl, rfl, by simp⟩ fun c hc => absurd hc (ClassSet.not_mem_empty c)
  obtain ⟨es, hreplay⟩ := claims_foldl_replay
    (({ s with releaseToken := none, classes := ∅, connected := ∅, parked := [] }.enter .idle).emit
      (.notice (.enteredIdle s.tenant (s.parked.map Parked.dataClass)))) s.parked
  exact ⟨_, (hidle.trans (claims_emit _ rfl)).trans hreplay⟩

theorem claims_handle (s : Switch ρ) (id : Nat) (request : Request) (handle : Option ρ) :
    ∃ es, Claims s (s.handle id request handle) es := by
  obtain ⟨es, hserve⟩ := s.claims_serve id request handle
  exact ⟨_, hserve.trans (claims_publishChange _ s.snapshot)⟩

theorem claims_hear (s : Switch ρ) (signal : Signal) :
    ∃ es, Claims (s.ended signal) (s.hear signal) es := by
  obtain ⟨s₁, hheeded, hpublish⟩ := s.heeded signal
  suffices hclaims : ∃ es, Claims (s.ended signal) s₁ es by
    obtain ⟨es, hclaims⟩ := hclaims
    exact ⟨_, hpublish ▸ hclaims.trans (claims_publishChange s₁ s.snapshot)⟩
  have hfailed (token : Nat) (c : DataClass) (f : ModemFault) :
      Claims (s.without token) (((s.without token).untrack c).emit
        (.event (.requestFailed s.tenant (some c) (.transport f)))) _ :=
    .of_classes (adds_failed (s.without token) c f) fun d hd => (ClassSet.mem_erase.1 hd).2
  cases hheeded with
  | ignored => exact ⟨_, Claims.refl _⟩
  | reported token c f => exact ⟨_, claims_emit (s.without token) rfl⟩
  | failed token c f => exact ⟨_, hfailed token c f⟩
  | lost token c f =>
    obtain ⟨es, hsettle⟩ := claims_settle (((s.without token).untrack c).emit
      (.event (.requestFailed s.tenant (some c) (.transport f))))
    exact ⟨_, (hfailed token c f).trans hsettle⟩
  | again c => exact ⟨_, claims_enter s .active⟩
  | connected c =>
    have hconnected : Claims s ({ s with connected := s.connected.insert c }.emit
        (.event (.classConnected s.tenant c))) _ := .of_classes (adds_connected s c) fun _ => id
    exact ⟨_, hconnected.trans (claims_enter _ .active)⟩
  | radio state => exact ⟨_, .of_classes (adds_radio s state) fun _ => id⟩
  | cut state =>
    have hradio : Claims s (({ s with radio := state }.emit
        (.notice (.radioChanged s.tenant s.radio state))).emit
          (.event (.radioChanged s.tenant s.radio state))) _ :=
      .of_classes (adds_radio s state) fun _ => id
    obtain ⟨es, hrelease⟩ := claims_beginRelease (({ s with radio := state }.emit
      (.notice (.radioChanged s.tenant s.radio state))).emit
        (.event (.radioChanged s.tenant s.radio state)))
    exact ⟨_, hradio.trans hrelease⟩
  | released token fault => exact claims_completeRelease (s.without token)

/-- A command to bring up a class that has failed takes the class away. -/
theorem not_mem_classes_hear (hlook : s.inflight.lookup k = some (.enable c)) (f : ModemFault) :
    c ∉ (s.hear (.completed k (some f))).classes := by
  have herased : c ∉ s.classes.erase c := fun hc => (ClassSet.mem_erase.1 hc).1 rfl
  unfold hear finish
  simp only [hlook]
  rw [publishChange_eq]
  split
  · rcases settle_cases (((s.without k).untrack c).emit
      (.event (.requestFailed s.tenant (some c) (.transport f)))) with
      ⟨-, heq⟩ | ⟨-, heq⟩ | ⟨-, heq⟩
    · exact (congrArg (c ∉ ·.classes) (heq.trans (beginRelease_eq _))).mpr herased
    · exact (congrArg (c ∉ ·.classes) (heq.trans (enter_eq _ _))).mpr herased
    · exact (congrArg (c ∉ ·.classes) heq).mpr herased
  · exact herased

/-! ## The loop -/

/-- The commands among effects that the modem does not accept. -/
def refused (accepts : Nat → Bool) (es : List (Effect ρ)) : List (Nat × Command) :=
  (submissions es).filter fun e => !accepts e.1

@[simp] theorem refused_nil : refused accepts ([] : List (Effect ρ)) = [] := rfl

@[simp] theorem refused_append :
    refused accepts (es ++ fs) = refused accepts es ++ refused accepts fs := by
  rw [refused, submissions_append, List.filter_append]
  rfl

/-- What the switch is told when effects are carried out: that these commands have failed. -/
def refusals (accepts : Nat → Bool) (es : List (Effect ρ)) : List (Input ρ) :=
  (refused accepts es).map fun e => .signal (.completed e.1 (some .closed))

/-- What the switch is given in one round. -/
def feedback (accepts : Nat → Bool) (s : Switch ρ) : List (Input ρ) :=
  .drain :: refusals accepts s.drain.1

/-- What the switch is given until it wants nothing any more, round after round. -/
inductive Loop (accepts : Nat → Bool) : Switch ρ → List (Input ρ) → Prop where
  | done {s : Switch ρ} (hnothing : s.outbox = []) : Loop accepts s []
  | round {s : Switch ρ} {rest : List (Input ρ)} (hmore : s.outbox ≠ [])
      (h : Loop accepts ((s.feedback accepts).foldl after s) rest) :
      Loop accepts s (s.feedback accepts ++ rest)

/-- Carrying out effects comes to the same as telling the switch of the refusals. -/
theorem foldl_attempt_eq (accepts : Nat → Bool) (es : List (Effect ρ)) (s : Switch ρ) :
    es.foldl (attempt accepts) s = (refusals accepts es).foldl after s := by
  induction es generalizing s with
  | nil => rfl
  | cons e es ih =>
    rw [List.foldl_cons, ih]
    cases e with
    | submit token command =>
      cases haccepts : accepts token <;>
        simp [attempt, haccepts, refusals, refused, Effect.submission?, after]
    | notice | event | reply | askOwnership => rfl

theorem round_eq (accepts : Nat → Bool) (s : Switch ρ) :
    s.round accepts = (s.feedback accepts).foldl after s :=
  foldl_attempt_eq accepts s.drain.1 s.drain.2

/-- There is an end to it. -/
theorem exists_loop (h : s.Sound) (hissued : s.Issued) (accepts : Nat → Bool) :
    ∃ loop, Loop accepts s loop := by
  induction hrounds : s.rounds using Nat.strongRecOn generalizing s with
  | _ n ih =>
    by_cases hnothing : s.outbox = []
    · exact ⟨[], .done hnothing⟩
    · have hlt := rounds_round_lt accepts h hissued hnothing
      obtain ⟨rest, hrest⟩ := ih _ (hrounds ▸ hlt) (h.round accepts) (issued_round accepts s) rfl
      exact ⟨_, .round hnothing (round_eq accepts s ▸ hrest)⟩

namespace Loop

theorem unique {loop' : List (Input ρ)} (h : Loop accepts s loop) (h' : Loop accepts s loop') :
    loop' = loop := by
  induction h generalizing loop' with
  | done hnothing =>
    cases h' with
    | done => rfl
    | round hmore => exact absurd hnothing hmore
  | round hmore _ ih =>
    cases h' with
    | done hnothing => exact absurd hnothing hmore
    | round _ hrest => rw [ih hrest]

/-- The switch wants nothing any more. -/
theorem outbox (h : Loop accepts s loop) : (loop.foldl after s).outbox = [] := by
  induction h with
  | done hnothing => exact hnothing
  | round _ _ ih => rwa [List.foldl_append]

end Loop

/-- In one round the effects are fetched once. -/
theorem batches_feedback (accepts : Nat → Bool) (s : Switch ρ) :
    s.batches (s.feedback accepts) = [s.drain.1] := by
  have hnone : ∀ (ks : List (Nat × Command)) (x : Switch ρ), x.batches
      (ks.map fun e => (.signal (.completed e.1 (some .closed)) : Input ρ)) = [] := by
    intro ks x
    induction ks generalizing x with
    | nil => rfl
    | cons e ks ih => exact ih _
  show s.drain.1 :: _ = _
  exact congrArg (s.drain.1 :: ·) (hnone _ _)

theorem batches_append (s : Switch ρ) (inputs later : List (Input ρ)) :
    s.batches (inputs ++ later) = s.batches inputs ++ (inputs.foldl after s).batches later :=
  along_append batch s inputs later

/-- What is carried out in a loop, oldest first. -/
def carried (s : Switch ρ) (loop : List (Input ρ)) : List (Effect ρ) := (s.batches loop).flatten

theorem carried_round (accepts : Nat → Bool) (s : Switch ρ) (rest : List (Input ρ)) :
    s.carried (s.feedback accepts ++ rest) =
      s.drain.1 ++ ((s.feedback accepts).foldl after s).carried rest := by
  rw [carried, batches_append, batches_feedback, List.flatten_append, List.flatten_singleton]
  rfl

theorem drain_of_done (hnothing : s.outbox = []) : s.drain = ([], s) := by
  obtain ⟨⟩ := s
  subst hnothing
  rfl

theorem drain_ne_nil (hmore : s.outbox ≠ []) : s.drain.1 ≠ [] := by
  intro hnil
  obtain ⟨hothers, hanswers⟩ := List.append_eq_nil_iff.1 hnil
  refine hmore (List.eq_nil_iff_forall_not_mem.2 fun e he => ?_)
  cases hanswer : e.isAnswer with
  | true => exact List.filter_eq_nil_iff.1 hanswers e he hanswer
  | false => exact List.filter_eq_nil_iff.1 hothers e he (by simp [hanswer])

namespace Loop

/-- There are not many rounds. -/
theorem length_batches_le (h : Loop accepts s loop) (hsound : s.Sound) (hissued : s.Issued) :
    (s.batches loop).length ≤ s.rounds := by
  induction h with
  | done => exact Nat.zero_le _
  | @round s rest hmore _ ih =>
    have hlt := rounds_round_lt accepts hsound hissued hmore
    have hrest := ih (round_eq accepts s ▸ hsound.round accepts)
      (round_eq accepts s ▸ issued_round accepts s)
    rw [batches_append, batches_feedback, List.length_append, List.length_singleton]
    rw [← round_eq] at hrest ⊢
    omega

/-- As long as there are rounds enough the effects are carried out as the loop says. -/
theorem carryOutFor_eq (h : Loop accepts s loop) {fuel : Nat}
    (hle : (s.batches loop).length ≤ fuel) :
    s.carryOutFor accepts fuel = (loop.foldl after s, s.carried loop) := by
  induction h generalizing fuel with
  | @done s hnothing =>
    cases fuel with
    | zero => rfl
    | succ fuel =>
      simp [carryOutFor, drain_of_done hnothing, carried, batches]
  | @round s rest hmore _ ih =>
    rw [batches_append, batches_feedback, List.length_append, List.length_singleton] at hle
    obtain ⟨fuel, rfl⟩ : ∃ n, fuel = n + 1 := ⟨fuel - 1, by omega⟩
    have hfuel : (((s.feedback accepts).foldl after s).batches rest).length ≤ fuel := by omega
    have hrest := ih hfuel
    rw [← round_eq] at hrest
    have hfold : (s.feedback accepts ++ rest).foldl after s = rest.foldl after (s.round accepts) := by
      rw [List.foldl_append, round_eq]
    rw [carryOutFor, hfold, carried_round, ← round_eq]
    simp only [List.isEmpty_iff, if_neg (drain_ne_nil hmore)]
    exact congrArg (fun result => (result.1, s.drain.1 ++ result.2)) hrest

end Loop

/-! ## The accounts of a list of inputs -/

/-- The signal that an input is, if it is one. -/
def Input.signal? : Input ρ → Option Signal
  | .signal sig => some sig
  | .request .. | .drain => none

/-- The token of the command that is signalled to have ended. -/
def Input.ended? : Input ρ → Option Nat
  | .signal (.completed token _) => some token
  | .signal _ | .request .. | .drain => none

/-- What an input does to the classes: none comes but by a command to bring it up. -/
theorem classes_after (s : Switch ρ) (input : Input ρ) (c : DataClass)
    (hc : c ∈ (s.after input).classes) :
    c ∈ s.classes ∨ ∃ k, (k, .enable c) ∈ submissions (s.emitted input) := by
  cases input with
  | request id request handle =>
    obtain ⟨es, hadds, hclasses⟩ := s.claims_handle id request handle
    have hemitted : s.emitted (.request id request handle) = es := emitted_eq hadds.outbox
    rw [hemitted]
    exact hclasses c hc
  | signal signal =>
    obtain ⟨es, hadds, hclasses⟩ := s.claims_hear signal
    have hemitted : s.emitted (.signal signal) = es := emitted_eq (hadds.outbox.trans (by simp))
    rw [hemitted]
    refine (hclasses c hc).imp_left fun hold => ?_
    cases signal <;> exact hold
  | drain => exact .inl hc

/-- What it does to the commands in flight: one has ended perhaps, and those that it issues join. -/
theorem inflight_after (s : Switch ρ) (input : Input ρ) :
    (s.after input).inflight = s.inflight.filter (fun e => decide (input.ended? ≠ some e.1)) ++
      submissions (s.emitted input) := by
  have hnone : s.inflight.filter (fun _ => true) = s.inflight := List.filter_true _
  cases input with
  | request id request handle =>
    obtain ⟨es, hadds, -⟩ := s.claims_handle id request handle
    have hemitted : s.emitted (.request id request handle) = es := emitted_eq hadds.outbox
    rw [hemitted]
    exact hadds.inflight.trans (congrArg (· ++ _) hnone.symm)
  | signal signal =>
    obtain ⟨es, hadds, -⟩ := s.claims_hear signal
    have hemitted : s.emitted (.signal signal) = es := emitted_eq (hadds.outbox.trans (by simp))
    rw [hemitted]
    cases signal with
    | completed token fault =>
      refine hadds.inflight.trans (congrArg (· ++ _) (List.filter_congr fun e _ => ?_))
      simp [Input.ended?, eq_comm]
    | classConnected | radio => exact hadds.inflight.trans (congrArg (· ++ _) hnone.symm)
  | drain => exact hnone.symm.trans (List.append_nil _).symm

theorem nextToken_le_after (s : Switch ρ) (input : Input ρ) :
    s.nextToken ≤ (s.after input).nextToken := by
  obtain ⟨n, -, hnext⟩ := tokens_emitted s input
  omega

theorem nextToken_le_foldl_after (s : Switch ρ) (inputs : List (Input ρ)) :
    s.nextToken ≤ (inputs.foldl after s).nextToken := by
  induction inputs generalizing s with
  | nil => exact Nat.le_refl _
  | cons input inputs ih => exact Nat.le_trans (nextToken_le_after s input) (ih _)

/-- What is issued has new tokens. -/
theorem lt_of_mem_emitted {e : Nat × Command} (he : e ∈ submissions (s.emitted input)) :
    s.nextToken ≤ e.1 ∧ e.1 < (s.after input).nextToken := by
  obtain ⟨n, htokens, hnext⟩ := tokens_emitted s input
  have hmem : e.1 ∈ List.range' s.nextToken n := htokens ▸ List.mem_map_of_mem he
  rw [hnext]
  exact List.mem_range'_1.1 hmem

theorem nextToken_le_of_mem_log {e : Nat × Command} (he : e ∈ submissions (s.log inputs)) :
    s.nextToken ≤ e.1 := by
  induction inputs generalizing s with
  | nil => exact nomatch he
  | cons input inputs ih =>
    rw [log_cons, submissions_append, List.mem_append] at he
    rcases he with hnow | hlater
    · exact (lt_of_mem_emitted hnow).1
    · exact Nat.le_trans (nextToken_le_after s input) (ih hlater)

/-- Whenever a command is signalled to have ended, it has been issued before. -/
def Known (s : Switch ρ) : List (Input ρ) → Prop
  | [] => True
  | input :: inputs => (∀ k, input.ended? = some k → k < s.nextToken) ∧ (s.after input).Known inputs

theorem known_append (s : Switch ρ) (inputs later : List (Input ρ)) :
    s.Known (inputs ++ later) ↔ s.Known inputs ∧ (inputs.foldl after s).Known later := by
  induction inputs generalizing s with
  | nil => simp [Known]
  | cons input inputs ih => simp [Known, ih, and_assoc]

/-- Then the commands in flight are those that were, and those that were issued, without those that
have ended. -/
theorem inflight_foldl_after (h : s.Known inputs) :
    (inputs.foldl after s).inflight = (s.inflight ++ submissions (s.log inputs)).filter
      fun e => decide (e.1 ∉ inputs.filterMap Input.ended?) := by
  induction inputs generalizing s with
  | nil => simp
  | cons input inputs ih =>
    obtain ⟨hnow, hlater⟩ := h
    have hissued : (submissions (s.emitted input) ++ submissions ((s.after input).log inputs)).filter
        (fun e => decide (input.ended? ≠ some e.1)) =
          submissions (s.emitted input) ++ submissions ((s.after input).log inputs) := by
      rw [← submissions_append, ← log_cons, List.filter_eq_self]
      intro e he
      have hle := nextToken_le_of_mem_log he
      rw [decide_eq_true_eq]
      intro hended
      have hlt := hnow e.1 hended
      omega
    rw [List.foldl_cons, ih hlater, inflight_after, log_cons, submissions_append, List.append_assoc,
      ← hissued, ← List.filter_append, List.filter_filter, hissued]
    refine List.filter_congr fun e _ => ?_
    cases hended : input.ended? with
    | none => simp [hended]
    | some k => simp [hended, @eq_comm _ e.1 k, Bool.and_comm]

/-! ## The accounts of a loop -/

theorem outbox_feedback (accepts : Nat → Bool) (s : Switch ρ) :
    ((s.feedback accepts).foldl after s).outbox = s.log (s.feedback accepts) := by
  refine (outbox_foldl_after (s := s.drain.2) fun input hinput => ?_).trans (List.nil_append _)
  obtain ⟨e, -, rfl⟩ := List.mem_map.1 hinput
  nofun

theorem signals_feedback (accepts : Nat → Bool) (s : Switch ρ) :
    (s.feedback accepts).filterMap Input.signal? =
      (refused accepts s.drain.1).map fun e => .completed e.1 (some .closed) := by
  rw [feedback, List.filterMap_cons_none rfl, refusals, List.filterMap_map]
  exact congrFun List.filterMap_eq_map _

theorem ended_feedback (accepts : Nat → Bool) (s : Switch ρ) :
    (s.feedback accepts).filterMap Input.ended? = (refused accepts s.drain.1).map Prod.fst := by
  rw [feedback, List.filterMap_cons_none rfl, refusals, List.filterMap_map]
  exact congrFun List.filterMap_eq_map _

/-- What is refused was issued before. -/
theorem known_feedback (hissued : s.Issued) (accepts : Nat → Bool) :
    s.Known (s.feedback accepts) := by
  refine ⟨nofun, ?_⟩
  have hknown : ∀ (ks : List (Nat × Command)) (x : Switch ρ), (∀ e ∈ ks, e.1 < x.nextToken) →
      x.Known (ks.map fun e => .signal (.completed e.1 (some .closed))) := by
    intro ks x hks
    induction ks generalizing x with
    | nil => trivial
    | cons e ks ih =>
      obtain ⟨hfirst, hrest⟩ := List.forall_mem_cons.1 hks
      refine ⟨fun k hk => ?_, ih _ fun e' he' => ?_⟩
      · obtain rfl : e.1 = k := Option.some.inj hk
        exact hfirst
      · exact Nat.lt_of_lt_of_le (hrest e' he') (nextToken_le_after x _)
  refine hknown _ _ fun e he => hissued e ?_
  have hmem := (List.mem_filter.1 he).1
  rwa [submissions_drain] at hmem

namespace Loop

/-- Every command that was in the outbox, or is issued, is handed over once, in this order. -/
theorem submissions_carried (h : Loop accepts s loop) :
    submissions (s.carried loop) = submissions s.outbox ++ submissions (s.log loop) := by
  induction h with
  | done hnothing =>
    rw [hnothing]
    rfl
  | @round s rest _ _ ih =>
    rw [carried_round, submissions_append, submissions_drain, ih, outbox_feedback, log_append,
      submissions_append]

/-- The switch is told of every refusal once, in order. -/
theorem signals (h : Loop accepts s loop) : loop.filterMap Input.signal? =
    (refused accepts (s.carried loop)).map fun e => .completed e.1 (some .closed) := by
  induction h with
  | done => rfl
  | round _ _ ih =>
    rw [List.filterMap_append, signals_feedback, ih, carried_round, refused_append, List.map_append]

theorem ended (h : Loop accepts s loop) :
    loop.filterMap Input.ended? = (refused accepts (s.carried loop)).map Prod.fst := by
  induction h with
  | done => rfl
  | round _ _ ih =>
    rw [List.filterMap_append, ended_feedback, ih, carried_round, refused_append, List.map_append]

theorem known (h : Loop accepts s loop) (hissued : s.Issued) : s.Known loop := by
  induction h with
  | done => trivial
  | round _ _ ih =>
    refine (known_append ..).2 ⟨known_feedback hissued accepts, ih ?_⟩
    exact round_eq accepts _ ▸ issued_round accepts _

/-- The commands in flight at the end of a loop. -/
theorem inflight (h : Loop accepts s loop) (hissued : s.Issued) :
    (loop.foldl after s).inflight = (s.inflight ++ submissions (s.log loop)).filter
      fun e => decide (e.1 ∉ (refused accepts (s.carried loop)).map Prod.fst) := by
  rw [inflight_foldl_after (h.known hissued), h.ended]

end Loop

/-! ## The latest command for a class -/

/-- The tokens of the commands among effects to bring up a class, oldest first. -/
def attempts (c : DataClass) (es : List (Effect ρ)) : List Nat :=
  ((submissions es).filter fun e => e.2 = .enable c).map Prod.fst

/-- The latest of them. -/
def latest? (c : DataClass) (es : List (Effect ρ)) : Option Nat := (attempts c es).getLast?

theorem mem_attempts : k ∈ attempts c es ↔ (k, .enable c) ∈ submissions es := by
  unfold attempts
  rw [List.mem_map]
  constructor
  · rintro ⟨⟨j, command⟩, he, rfl⟩
    obtain ⟨hmem, hcommand⟩ := List.mem_filter.1 he
    obtain rfl : command = .enable c := of_decide_eq_true hcommand
    exact hmem
  · intro hmem
    exact ⟨(k, .enable c), List.mem_filter.2 ⟨hmem, decide_eq_true rfl⟩, rfl⟩

theorem mem_of_latest? (h : latest? c es = some k) : (k, .enable c) ∈ submissions es :=
  mem_attempts.1 (List.mem_of_getLast? h)

theorem latest?_append : latest? c (es ++ fs) = (latest? c fs).or (latest? c es) := by
  unfold latest? attempts
  rw [submissions_append, List.filter_append, List.map_append, List.getLast?_append]

/-- The switch was told that a command was a success, while it was in flight. -/
def Succeeded (tenant : Tenant) (arbitrated : Bool) (inputs : List (Input ρ)) (k : Nat)
    (command : Command) : Prop :=
  ∃ before later, inputs = before ++ .signal (.completed k none) :: later ∧
    (k, command) ∈ (run tenant arbitrated before).inflight

theorem Succeeded.more {tenant : Tenant} {arbitrated : Bool} {command : Command}
    (h : Succeeded tenant arbitrated inputs k command) (later : List (Input ρ)) :
    Succeeded tenant arbitrated (inputs ++ later) k command := by
  obtain ⟨before, rest, rfl, hmem⟩ := h
  exact ⟨before, rest ++ later, by rw [List.append_assoc, List.cons_append], hmem⟩

/-- For every class of a switch there is a latest command to bring it up, and this is in flight, or
was a success. -/
theorem exists_latest_of_mem (tenant : Tenant) (arbitrated : Bool) (inputs : List (Input ρ))
    (hc : c ∈ (run tenant arbitrated inputs).classes) :
    ∃ k, latest? c (log { tenant := tenant, arbitrated := arbitrated } inputs) = some k ∧
      ((k, .enable c) ∈ (run tenant arbitrated inputs).inflight ∨
        Succeeded tenant arbitrated inputs k (.enable c)) := by
  induction inputs using List.reverseRecOn with
  | nil => exact absurd hc (ClassSet.not_mem_empty c)
  | append_singleton inputs input ih =>
    have hlog : log { tenant := tenant, arbitrated := arbitrated } (inputs ++ [input]) =
        log { tenant := tenant, arbitrated := arbitrated } inputs ++
          (run tenant arbitrated inputs).emitted input := by
      rw [log_append, log_cons, log_nil, List.append_nil]
      rfl
    have htokens := (sound_run tenant arbitrated inputs).tokens
    rw [run_append] at hc ⊢
    rw [hlog, latest?_append]
    generalize hs : run tenant arbitrated inputs = s at *
    cases hlatest : latest? c (s.emitted input) with
    | some k =>
      -- The command has just been issued.
      refine ⟨k, rfl, .inl ?_⟩
      rw [inflight_after]
      exact List.mem_append_right _ (mem_of_latest? hlatest)
    | none =>
      -- The class was there before, and no command for it has been issued.
      have hold : c ∈ s.classes := by
        refine (classes_after s input c hc).resolve_right fun ⟨k, hk⟩ => ?_
        have hnil : attempts c (s.emitted input) = [] := List.getLast?_eq_none_iff.1 hlatest
        exact absurd (hnil ▸ mem_attempts.2 hk) List.not_mem_nil
      obtain ⟨k, hk, hinflight | hsucceeded⟩ := ih hold
      · refine ⟨k, hk, ?_⟩
        by_cases hended : input.ended? = some k
        · cases input with
          | signal signal =>
            cases signal with
            | completed token fault =>
              obtain rfl : token = k := Option.some.inj hended
              cases fault with
              | none => exact .inr ⟨inputs, [], rfl, hs ▸ hinflight⟩
              | some f => exact absurd hc (not_mem_classes_hear (htokens.lookup_eq hinflight) f)
            | classConnected | radio => exact nomatch hended
          | request | drain => exact nomatch hended
        · left
          rw [inflight_after]
          exact List.mem_append_left _ (List.mem_filter.2 ⟨hinflight, decide_eq_true hended⟩)
      · exact ⟨k, hk, .inr (hsucceeded.more [input])⟩

/-! ## Commands that are refused -/

/-- What stands in the outbox after an input has stood there before, or has just been issued. -/
theorem mem_outbox_after {e : Nat × Command} (he : e ∈ submissions (s.after input).outbox) :
    e ∈ submissions s.outbox ∨ s.nextToken ≤ e.1 ∧ e.1 < (s.after input).nextToken := by
  by_cases hdrain : input = .drain
  · subst hdrain
    exact nomatch he
  · rw [outbox_after s hdrain, submissions_append, List.mem_append] at he
    exact he.imp_right lt_of_mem_emitted

theorem mem_outbox_foldl_after {e : Nat × Command}
    (he : e ∈ submissions (inputs.foldl after s).outbox) :
    e ∈ submissions s.outbox ∨ s.nextToken ≤ e.1 := by
  induction inputs generalizing s with
  | nil => exact .inl he
  | cons input inputs ih =>
    rcases ih he with hnow | hlate
    · exact (mem_outbox_after hnow).imp_right And.left
    · exact .inr (Nat.le_trans (nextToken_le_after s input) hlate)

/-- The commands in the outbox of a switch have been given their tokens. -/
theorem issued_run (tenant : Tenant) (arbitrated : Bool) (inputs : List (Input ρ)) :
    (run tenant arbitrated inputs).Issued := by
  induction inputs using List.reverseRecOn with
  | nil => exact fun e he => nomatch he
  | append_singleton inputs input ih =>
    rw [run_append]
    intro e he
    rcases mem_outbox_after he with hold | ⟨-, hnew⟩
    · exact Nat.lt_of_lt_of_le (ih e hold) (nextToken_le_after _ input)
    · exact hnew

/-- The tokens that are issued are those in the log. -/
theorem map_fst_log (s : Switch ρ) (inputs : List (Input ρ)) :
    (submissions (s.log inputs)).map Prod.fst = s.issued inputs := by
  induction inputs generalizing s with
  | nil => rfl
  | cons input inputs ih => rw [log_cons, submissions_append, List.map_append, ih, issued]

/-- No token of what is handed over in a loop is met twice. -/
theorem Loop.nodup_carried {tenant : Tenant} {arbitrated : Bool}
    (h : Loop accepts (run tenant arbitrated inputs) loop) :
    ((submissions ((run tenant arbitrated inputs).carried loop)).map Prod.fst).Nodup := by
  obtain ⟨portions, -, hlog⟩ :=
    exists_portions ({ tenant := tenant, arbitrated := arbitrated } : Switch ρ) inputs
  have hissued := (coherent_of_run tenant arbitrated (inputs ++ loop)).2
  rw [← map_fst_log, log_append, ← List.nil_append (log _ inputs)] at hissued
  replace hissued : ((submissions (portions.flatten ++ (run tenant arbitrated inputs).outbox ++
      (run tenant arbitrated inputs).log loop)).map Prod.fst).Nodup := hlog ▸ hissued
  rw [h.submissions_carried, ← submissions_append]
  rw [List.append_assoc, submissions_append, List.map_append] at hissued
  exact (List.nodup_append.1 hissued).2.1

/-- The switch has been told that a command was a success, when the command stood in the outbox; and
there it stands. -/
def Early (tenant : Tenant) (arbitrated : Bool) (inputs : List (Input ρ)) (k : Nat)
    (command : Command) : Prop :=
  (k, command) ∈ submissions (run tenant arbitrated inputs).outbox ∧
    ∃ before later, inputs = before ++ .signal (.completed k none) :: later ∧
      (k, command) ∈ submissions (run tenant arbitrated before).outbox

/-- In a loop no success is signalled. -/
theorem Loop.not_mem_success (h : Loop accepts s loop) (k : Nat) :
    .signal (.completed k none) ∉ loop := by
  intro hmem
  have hsignal : Signal.completed k none ∈ loop.filterMap Input.signal? :=
    List.mem_filterMap.2 ⟨_, hmem, rfl⟩
  rw [h.signals] at hsignal
  obtain ⟨e, -, heq⟩ := List.mem_map.1 hsignal
  cases heq

theorem Loop.succeeded_before {tenant : Tenant} {arbitrated : Bool} {command : Command}
    (h : Loop accepts s loop) (hsucceeded : Succeeded tenant arbitrated (inputs ++ loop) k command) :
    Succeeded tenant arbitrated inputs k command := by
  obtain ⟨before, later, heq, hmem⟩ := hsucceeded
  have hnot : (.signal (.completed k none) : Input ρ) ∉ loop := h.not_mem_success k
  rcases List.append_eq_append_iff.1 heq with ⟨rest, -, hloop⟩ | ⟨rest, hinputs, hlater⟩
  · exact absurd (hloop ▸ List.mem_append_right rest (List.mem_cons_self ..)) hnot
  · cases rest with
    | nil =>
      have hloop : .signal (.completed k none) :: later = loop := hlater
      exact absurd (hloop ▸ List.mem_cons_self ..) hnot
    | cons input rest =>
      obtain ⟨rfl, -⟩ := List.cons.inj hlater
      exact ⟨before, rest, hinputs, hmem⟩

/-- A class is still there although its latest command was refused, only if the command was a success
before it was handed over. -/
theorem Loop.early {tenant : Tenant} {arbitrated : Bool}
    (h : Loop accepts (run tenant arbitrated inputs) loop)
    (hc : c ∈ (loop.foldl after (run tenant arbitrated inputs)).classes)
    (hlatest : latest? c (log { tenant := tenant, arbitrated := arbitrated } (inputs ++ loop)) = some k)
    (hrefused : (k, .enable c) ∈ refused accepts ((run tenant arbitrated inputs).carried loop)) :
    Early tenant arbitrated inputs k (.enable c) := by
  have hissued := issued_run (ρ := ρ) tenant arbitrated
  have hrun : run tenant arbitrated (inputs ++ loop) =
      loop.foldl after (run tenant arbitrated inputs) := List.foldl_append ..
  -- The refusal has taken the command out of flight, so it was a success.
  have hsucceeded : Succeeded tenant arbitrated (inputs ++ loop) k (.enable c) := by
    obtain ⟨j, hj, hinflight | hsucceeded⟩ :=
      exists_latest_of_mem tenant arbitrated (inputs ++ loop) (hrun ▸ hc)
    · obtain rfl : k = j := Option.some.inj (hlatest.symm.trans hj)
      rw [hrun, h.inflight (hissued inputs), List.mem_filter] at hinflight
      exact absurd (List.mem_map_of_mem hrefused) (of_decide_eq_true hinflight.2)
    · obtain rfl : k = j := Option.some.inj (hlatest.symm.trans hj)
      exact hsucceeded
  obtain ⟨before, later, heq, hmem⟩ := h.succeeded_before hsucceeded
  have hbound : k < (run tenant arbitrated before).nextToken :=
    (sound_run tenant arbitrated before).tokens.bound _ hmem
  have hafter : run tenant arbitrated inputs = (.signal (.completed k none) :: later).foldl after
      (run tenant arbitrated before) := by
    rw [heq]
    exact List.foldl_append ..
  have hle := nextToken_le_foldl_after (run tenant arbitrated before)
    (.signal (.completed k none) :: later)
  rw [← hafter] at hle
  -- What was issued so early has been in the outbox all the time since.
  have hnow : (k, .enable c) ∈ submissions (run tenant arbitrated inputs).outbox := by
    have hcarried := (List.mem_filter.1 hrefused).1
    rw [h.submissions_carried, List.mem_append] at hcarried
    refine hcarried.resolve_right fun hlog => ?_
    have hlate := nextToken_le_of_mem_log hlog
    omega
  refine ⟨hnow, before, later, heq, ?_⟩
  rw [hafter] at hnow
  refine (mem_outbox_foldl_after hnow).resolve_right fun hlate => ?_
  omega

/-- When effects are carried out after every input nothing is a success before it is handed over. -/
theorem not_early_of_prompt {tenant : Tenant} {arbitrated : Bool} {earlier : List (Input ρ)}
    {command : Command} (hnothing : (run tenant arbitrated earlier).outbox = []) :
    ¬Early tenant arbitrated (earlier ++ [input]) k command := by
  rintro ⟨hnow, before, later, heq, hbefore⟩
  have hbound := issued_run tenant arbitrated before _ hbefore
  rcases List.eq_nil_or_concat' later with rfl | ⟨later, last, rfl⟩
  · obtain ⟨rfl, -⟩ := List.append_inj' heq rfl
    rw [hnothing] at hbefore
    exact nomatch hbefore
  · rw [← List.cons_append, ← List.append_assoc] at heq
    obtain ⟨rfl, -⟩ := List.append_inj' heq rfl
    have hle : (run tenant arbitrated before).nextToken ≤
        (run tenant arbitrated (before ++ .signal (.completed k none) :: later)).nextToken := by
      rw [run, run, List.foldl_append]
      exact nextToken_le_foldl_after _ _
    rw [run_append] at hnow
    generalize run tenant arbitrated (before ++ .signal (.completed k none) :: later) = s at *
    rcases mem_outbox_after hnow with hold | ⟨hlate, -⟩
    · rw [hnothing] at hold
      exact nomatch hold
    · omega

/-! ## The loop and its accounts -/

/-- What can be said of the feedback of refused commands, for a switch that has been given these
inputs. -/
structure Accounted (accepts : Nat → Bool) (tenant : Tenant) (arbitrated : Bool)
    (inputs loop : List (Input ρ)) (s : Switch ρ) : Prop where
  /-- This is what the switch is given until it wants nothing any more, and nothing else is. -/
  ends : Loop accepts s loop
  unique : ∀ loop', Loop accepts s loop' → loop' = loop
  /-- The effects are fetched four times at most. -/
  short : (s.batches loop).length ≤ 4
  /-- This is how effects are carried out. -/
  result : s.carryOut accepts = (loop.foldl after s, s.carried loop)
  /-- In the end nothing is in the outbox. -/
  outbox : (loop.foldl after s).outbox = []
  /-- The commands that were in the outbox, and those that were issued meanwhile, are handed over, in
  this order. -/
  carried : submissions (s.carried loop) = submissions s.outbox ++ submissions (s.log loop)
  /-- None of them is handed over twice. -/
  once : ((submissions (s.carried loop)).map Prod.fst).Nodup
  /-- Of every command that is refused the switch is told once that it has failed, and of nothing
  else. -/
  told : loop.filterMap Input.signal? =
    (refused accepts (s.carried loop)).map fun e => .completed e.1 (some .closed)
  /-- The commands in flight are those that were, and those that were issued meanwhile, without those
  that were refused. -/
  inflight : (loop.foldl after s).inflight = (s.inflight ++ submissions (s.log loop)).filter
    fun e => decide (e.1 ∉ (refused accepts (s.carried loop)).map Prod.fst)
  /-- A class whose latest command was refused is there no longer, unless the command had been a
  success before it was handed over. -/
  classes : ∀ c ∈ (loop.foldl after s).classes, ∀ k,
    latest? c (log { tenant := tenant, arbitrated := arbitrated } (inputs ++ loop)) = some k →
    (k, .enable c) ∈ refused accepts (s.carried loop) →
    Early tenant arbitrated inputs k (.enable c)
  /-- When effects are carried out after every input such a class is there no longer. -/
  prompt : ∀ earlier input, inputs = earlier ++ [input] →
    (run tenant arbitrated earlier).outbox = [] → ∀ c ∈ (loop.foldl after s).classes, ∀ k,
    latest? c (log { tenant := tenant, arbitrated := arbitrated } (inputs ++ loop)) = some k →
    (k, .enable c) ∉ refused accepts (s.carried loop)

/-- **The feedback of refused commands comes to its end, and the accounts are right**, whatever the
switch has been given before, and whichever commands are refused. -/
theorem accounted_of_run (accepts : Nat → Bool) (tenant : Tenant) (arbitrated : Bool)
    (inputs : List (Input ρ)) :
    ∃ loop, Accounted accepts tenant arbitrated inputs loop (run tenant arbitrated inputs) := by
  have hsound := sound_run (ρ := ρ) tenant arbitrated inputs
  have hissued := issued_run (ρ := ρ) tenant arbitrated inputs
  obtain ⟨loop, h⟩ := exists_loop hsound hissued accepts
  have hrounds : (run tenant arbitrated inputs).rounds ≤ 4 := by
    unfold rounds
    split_ifs <;> omega
  have hshort := Nat.le_trans (h.length_batches_le hsound hissued) hrounds
  exact ⟨loop, {
    ends := h
    unique := fun _ => h.unique
    short := hshort
    result := h.carryOutFor_eq (Nat.le_trans hshort (by decide))
    outbox := h.outbox
    carried := h.submissions_carried
    once := h.nodup_carried
    told := h.signals
    inflight := h.inflight hissued
    classes := fun c hc k hlatest hrefused => h.early hc hlatest hrefused
    prompt := fun earlier input heq hnothing c hc k hlatest hrefused => by
      have hearly := h.early hc hlatest hrefused
      rw [heq] at hearly
      exact not_early_of_prompt hnothing hearly }⟩

/-- A class stays although its only command was refused: the command had been a success before it was
handed over. -/
theorem kept_after_early_success :
    let inputs : List (Input Nat) := [.request 1 (.connect .mms) none, .signal (.completed 1 none)]
    let loop : List (Input Nat) := [.drain, .signal (.completed 1 (some .closed))]
    let s := run ⟨0⟩ false inputs
    Loop (fun _ => false) s loop ∧ .mms ∈ (loop.foldl after s).classes ∧
      latest? .mms (log { tenant := ⟨0⟩, arbitrated := false } (inputs ++ loop)) = some 1 ∧
      (1, .enable .mms) ∈ refused (fun _ => false) (s.carried loop) := by
  intro inputs loop s
  refine ⟨?_, by decide +kernel⟩
  have hloop : loop = s.feedback (fun _ => false) ++ [] := by decide +kernel
  rw [hloop]
  exact .round (by decide +kernel) (.done (by decide +kernel))

end DataPath.Switch
