import DataPath.Proofs.Switch.Ledger
import DataPath.Proofs.Switch.Release

/-!
# The handles of a switch

A handle comes in with a request and goes out again with the number of that request.  It goes out
in a reply, or with a question for the arbiter, who then has to reply; until then it is parked.  So
at any time the handles that came in are those that are parked, those in replies and those in
questions, each as often as it came (`perm_run`).

When a handle goes out is known as well (`HandsOut`).  If the request is not parked, it goes out at
once.  If it is, it waits for the end of the release, and then all that are parked go out in the
order in which they came.

Handles go out by way of the outbox.  What is fetched from there is in the order in which it was
emitted, but that the answers are moved behind the rest.
-/

namespace DataPath.Switch

variable {ρ : Type} {s : Switch ρ} {input : Input ρ}

/-! ## Replies and questions -/

/-- Whether an effect is a reply. -/
def Effect.isReply : Effect ρ → Bool
  | .reply .. => true
  | _ => false

/-- Whether an effect is a question for the arbiter. -/
def Effect.isQuestion : Effect ρ → Bool
  | .askOwnership .. => true
  | _ => false

/-- A handle goes out in a reply or in a question. -/
theorem perm_given (es : List (Effect ρ)) :
    (given es).Perm (given (es.filter Effect.isReply) ++ given (es.filter Effect.isQuestion)) := by
  induction es with
  | nil => exact .refl _
  | cons e es ih =>
    cases e with
    | submit | notice | event => exact ih
    | reply h r => exact ih.cons _
    | askOwnership id c handle =>
      rw [List.filter_cons_of_neg Bool.false_ne_true, List.filter_cons_of_pos rfl, given_cons,
        given_cons]
      refine (ih.append_left _).trans ?_
      rw [← List.append_assoc, ← List.append_assoc]
      exact List.perm_append_comm.append_right _

/-! ## One input -/

/-- The handle that comes in with an input, with the number of the request. -/
def Input.owed : Input ρ → List (Owed ρ)
  | .request id wish handle => Switch.owed handle id wish.wantsDecision
  | .signal _ | .drain => []

theorem Grows.perm_emitted {due : List (Owed ρ)} (h : Grows s (s.after input) due) :
    ((s.after input).held ++ given (s.emitted input)).Perm (s.held ++ due) := by
  obtain ⟨new, hout, -, hperm⟩ := h
  rw [emitted_eq hout]
  exact hperm

/-- No handle is lost with an input, and none is made. -/
theorem perm_after (s : Switch ρ) (input : Input ρ) :
    ((s.after input).held ++ given (s.emitted input)).Perm (s.held ++ input.owed) := by
  cases input with
  | request id wish handle => exact Grows.perm_emitted (grows_handle s id wish handle)
  | signal signal => exact Grows.perm_emitted (grows_hear s signal)
  | drain => exact .refl _

theorem length_owed (handle : Option ρ) (id : Nat) (decision : Bool) :
    (owed handle id decision).length = handle.toList.length := by
  cases handle <;> rfl

/-- What is a rearrangement of one handle at most is that handle. -/
theorem eq_owed_of_perm {l : List (Owed ρ)} {handle : Option ρ} {id : Nat} {decision : Bool}
    (h : l.Perm (owed handle id decision)) : l = owed handle id decision := by
  cases handle with
  | none => exact h.eq_nil
  | some x => exact List.perm_singleton.1 h

/-- Outside a release, whoever is tried again sends out the handle. -/
theorem given_replay (hp : s.phase ≠ .releasing) (p : Parked ρ) :
    ∃ new, (s.replay p).outbox = s.outbox ++ new ∧ given new = p.owed := by
  obtain ⟨new, hout, -, hperm⟩ := grows_foldl_replay s [p]
  rw [held, (foldl_replay_of_ne_releasing hp [p]).2, List.flatMap_singleton] at hperm
  exact ⟨new, hout, eq_owed_of_perm ((List.perm_append_left_iff _).1 hperm)⟩

/-- Those who are tried again send out their handles in order. -/
theorem given_foldl_replay (hp : s.phase ≠ .releasing) (ps : List (Parked ρ)) :
    ∃ new, (ps.foldl replay s).outbox = s.outbox ++ new ∧
      given new = ps.flatMap Parked.owed := by
  induction ps generalizing s with
  | nil => exact ⟨[], by simp, rfl⟩
  | cons p ps ih =>
    obtain ⟨es, hout, hes⟩ := given_replay hp p
    obtain ⟨fs, hout', hfs⟩ := ih (foldl_replay_of_ne_releasing hp [p]).1
    refine ⟨es ++ fs, ?_, ?_⟩
    · rw [List.foldl_cons]
      exact hout'.trans (by rw [List.foldl_cons, List.foldl_nil, hout, List.append_assoc])
    · rw [given_append, hes, hfs, List.flatMap_cons]

/-- A connect that is parked keeps its handle. -/
theorem length_owed_admitted (h : s.admitted input ≠ []) :
    ((s.admitted input).flatMap Parked.owed).length = input.owed.length := by
  unfold admitted at h ⊢
  split at h
  · next hrel =>
    rw [if_pos hrel]
    cases input with
    | request id wish handle =>
      cases hwant : wish.wanted? with
      | none => simp [Input.connect?, hwant] at h
      | some c => simp [Input.connect?, hwant, Input.owed, Parked.owed, length_owed]
    | signal | drain => cases h rfl
  · exact absurd rfl h

/-- At the end of a release all that are parked go out. -/
theorem given_emitted_of_ends (h : s.Tokens) (hends : s.ends input = true) :
    given (s.emitted input) = s.held := by
  obtain ⟨k, fault, rfl, hk⟩ := exists_of_ends hends
  obtain ⟨new, hout, hnew⟩ := given_foldl_replay (atIdle_ne_releasing (s.without k)) s.parked
  have hentrance : given (s.entrance (.signal (.completed k fault))) = [] := by
    rw [entrance, if_pos hends]
    rfl
  have hnotice : ∀ before after : Snapshot,
      given (changeNotice before after : List (Effect ρ)) = [] := by
    intro before after
    unfold changeNotice
    split <;> rfl
  rw [emitted_of_ends h hk fault hout, given_append, given_append, hentrance, hnotice,
    List.append_nil]
  exact hnew

/-- Otherwise the handle that comes in goes out, unless it is parked. -/
theorem given_emitted_of_not_ends (h : s.Sound) (hends : s.ends input = false) :
    given (s.emitted input) = if s.admitted input = [] then input.owed else [] := by
  -- What is parked is the same on both sides of the account.
  have hperm := perm_after s input
  rw [held, parked_after h, hends, if_neg Bool.false_ne_true, List.flatMap_append,
    List.append_assoc] at hperm
  have hrest := (List.perm_append_left_iff _).1 hperm
  split
  · next hnil =>
    rw [hnil] at hrest
    cases input with
    | request id wish handle => exact eq_owed_of_perm hrest
    | signal | drain => exact hrest.eq_nil
  · next hne =>
    have hlength := hrest.length_eq
    rw [List.length_append, length_owed_admitted hne] at hlength
    exact List.eq_nil_of_length_eq_zero (by omega)

/-- When an input sends out handles. -/
structure HandsOut (s : Switch ρ) (input : Input ρ) : Prop where
  /-- At the end of a release all that are parked go out, in order, and nothing stays. -/
  released : s.ends input = true →
    (s.after input).parked = [] ∧ given (s.emitted input) = s.held
  /-- Until then whoever is parked keeps the place in the queue, and the request that comes is
  parked behind them or sends out its handle. -/
  kept : s.ends input = false →
    (s.after input).parked = s.parked ++ s.admitted input ∧
      given (s.emitted input) = if s.admitted input = [] then input.owed else []
  /-- Without a handle there is no reply. -/
  silent : ∀ id wish, input = .request id wish none → ∀ h r, .reply h r ∉ s.emitted input

theorem Sound.handsOut (h : s.Sound) (input : Input ρ) : s.HandsOut input := by
  have hparked := parked_after h input
  refine ⟨fun hends => ⟨?_, given_emitted_of_ends h.tokens hends⟩,
    fun hends => ⟨?_, given_emitted_of_not_ends h hends⟩, ?_⟩
  · rw [hparked, if_pos hends]
  · rw [hparked, hends, if_neg Bool.false_ne_true]
  · rintro id wish rfl x r hmem
    have hgiven : given (s.emitted (.request id wish none)) = [] :=
      (given_emitted_of_not_ends h rfl).trans (ite_self [])
    have hreply : (⟨x, r.id, r.body.isDecision⟩ : Owed ρ) ∈
        given (s.emitted (.request id wish none)) :=
      List.mem_flatMap_of_mem hmem List.mem_cons_self
    rw [hgiven] at hreply
    cases hreply

/-! ## Runs -/

/-- The handles that came in are those that are parked, those in replies and those in questions. -/
theorem perm_run (tenant : Tenant) (arbitrated : Bool) (inputs : List (Input ρ)) :
    (inputs.flatMap Input.owed).Perm
      ((run tenant arbitrated inputs).held ++
        given (log { tenant := tenant, arbitrated := arbitrated } inputs)) := by
  induction inputs using List.reverseRecOn with
  | nil => exact .refl _
  | append_singleton inputs input ih =>
    rw [List.flatMap_append, List.flatMap_singleton, run_append, log_append, log_cons, log_nil,
      List.append_nil, given_append]
    change (_ ++ input.owed).Perm (_ ++ (_ ++ given ((run tenant arbitrated inputs).emitted input)))
    calc (inputs.flatMap Input.owed ++ input.owed).Perm
          ((run tenant arbitrated inputs).held ++
            given (log { tenant := tenant, arbitrated := arbitrated } inputs) ++ input.owed) :=
          ih.append_right _
      _ |>.Perm ((run tenant arbitrated inputs).held ++ input.owed ++
            given (log { tenant := tenant, arbitrated := arbitrated } inputs)) := by
          rw [List.append_assoc, List.append_assoc]
          exact List.perm_append_comm.append_left _
      _ |>.Perm (((run tenant arbitrated inputs).after input).held ++
            given ((run tenant arbitrated inputs).emitted input) ++
            given (log { tenant := tenant, arbitrated := arbitrated } inputs)) :=
          (perm_after _ input).symm.append_right _
      _ |>.Perm (((run tenant arbitrated inputs).after input).held ++
            (given (log { tenant := tenant, arbitrated := arbitrated } inputs) ++
              given ((run tenant arbitrated inputs).emitted input))) := by
          rw [List.append_assoc]
          exact List.perm_append_comm.append_left _

/-- Every handle that came in is parked, or it went out once, in a reply or in a question with the
number of its request.  The parked ones go out at the end of the release, in order.  And the batches
that were fetched are what was emitted, with the answers of each moved to its end. -/
theorem handles_of_run (tenant : Tenant) (arbitrated : Bool) (inputs : List (Input ρ)) :
    (inputs.flatMap Input.owed).Perm
        ((run tenant arbitrated inputs).held ++
          (given ((log { tenant := tenant, arbitrated := arbitrated } inputs).filter
              Effect.isReply) ++
            given ((log { tenant := tenant, arbitrated := arbitrated } inputs).filter
              Effect.isQuestion))) ∧
      (∀ input, (run tenant arbitrated inputs).HandsOut input) ∧
      ∃ portions, List.Forall₂ Sorted
          (batches { tenant := tenant, arbitrated := arbitrated } inputs) portions ∧
        log { tenant := tenant, arbitrated := arbitrated } inputs =
          portions.flatten ++ (run tenant arbitrated inputs).outbox := by
  refine ⟨(perm_run tenant arbitrated inputs).trans ((perm_given _).append_left _),
    fun input => (sound_run tenant arbitrated inputs).handsOut input, ?_⟩
  exact exists_portions { tenant := tenant, arbitrated := arbitrated } inputs

end DataPath.Switch
