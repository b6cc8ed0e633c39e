import DataPath.Proofs.Switch.Run

/-!
# The log of a switch

What a switch emits with a list of inputs, one input after the other, is its *log*.  The log is kept
whether or not anybody fetches the effects, so it is the order in which things have happened inside
the switch.

What is fetched comes in batches, and a batch need not be in the order of the log: the answers in it
stand behind everything else.  That is all that fetching changes.  The log of a run falls into
portions, one for each batch and one that has not been fetched yet, and a batch is its portion with
the answers moved to the end (`exists_portions`).
-/

namespace DataPath.Switch

variable {ρ : Type} {s : Switch ρ}

/-! ## Along a list of inputs -/

/-- What can be read off the switch and its input, for one input after the other. -/
def along {α : Type} (f : Switch ρ → Input ρ → List α) (s : Switch ρ) : List (Input ρ) → List α
  | [] => []
  | input :: inputs => f s input ++ (s.after input).along f inputs

section

variable {α : Type} (f : Switch ρ → Input ρ → List α)

@[simp] theorem along_nil (s : Switch ρ) : s.along f [] = [] := rfl

@[simp] theorem along_cons (s : Switch ρ) (input : Input ρ) (inputs : List (Input ρ)) :
    s.along f (input :: inputs) = f s input ++ (s.after input).along f inputs := rfl

theorem along_append (s : Switch ρ) (inputs later : List (Input ρ)) :
    s.along f (inputs ++ later) = s.along f inputs ++ (inputs.foldl after s).along f later := by
  induction inputs generalizing s with
  | nil => rfl
  | cons input inputs ih => simp [ih]

end

/-- The effects that a switch emits with a list of inputs, oldest first. -/
def log (s : Switch ρ) (inputs : List (Input ρ)) : List (Effect ρ) := s.along emitted inputs

@[simp] theorem log_nil (s : Switch ρ) : s.log [] = [] := rfl

@[simp] theorem log_cons (s : Switch ρ) (input : Input ρ) (inputs : List (Input ρ)) :
    s.log (input :: inputs) = s.emitted input ++ (s.after input).log inputs := rfl

theorem log_append (s : Switch ρ) (inputs later : List (Input ρ)) :
    s.log (inputs ++ later) = s.log inputs ++ (inputs.foldl after s).log later :=
  along_append emitted s inputs later

/-- What an input adds to the outbox is what it emits. -/
theorem emitted_eq {input : Input ρ} {new : List (Effect ρ)}
    (h : (s.after input).outbox = s.outbox ++ new) : s.emitted input = new := by
  cases input with
  | request id request handle => exact (congrArg _ h).trans List.drop_left
  | signal signal => exact (congrArg _ h).trans List.drop_left
  | drain => exact (List.append_eq_nil_iff.1 h.symm).2.symm

theorem Sound.foldl_after (h : s.Sound) (inputs : List (Input ρ)) :
    (inputs.foldl Switch.after s).Sound := by
  induction inputs generalizing s with
  | nil => exact h
  | cons input inputs ih => exact ih (h.after input)

/-- As long as nothing is fetched the log collects in the outbox. -/
theorem outbox_foldl_after {inputs : List (Input ρ)} (h : ∀ input ∈ inputs, input ≠ .drain) :
    (inputs.foldl after s).outbox = s.outbox ++ s.log inputs := by
  induction inputs generalizing s with
  | nil => simp
  | cons input inputs ih =>
    obtain ⟨hinput, hinputs⟩ := List.forall_mem_cons.1 h
    rw [List.foldl_cons, ih hinputs, outbox_after s hinput, log_cons, List.append_assoc]

/-! ## Batches -/

/-- The batch that is fetched with an input, if it fetches the effects. -/
def batch (s : Switch ρ) : Input ρ → List (List (Effect ρ))
  | .drain => [s.drain.1]
  | .request .. | .signal _ => []

/-- The batches that are fetched with a list of inputs. -/
def batches (s : Switch ρ) (inputs : List (Input ρ)) : List (List (Effect ρ)) :=
  s.along batch inputs

/-- A batch is a portion of the log with the answers moved to the end. -/
structure Sorted (batch portion : List (Effect ρ)) : Prop where
  /-- Behind an answer there are only answers. -/
  last : batch.Pairwise fun e f => e.isAnswer = true → f.isAnswer = true
  /-- The answers are in order. -/
  answers : answers batch = answers portion
  /-- So is everything else. -/
  others : (batch.filter fun e => !e.isAnswer) = portion.filter fun e => !e.isAnswer

/-- What is fetched is everything in the outbox, with the answers at the end. -/
theorem sorted_drain (s : Switch ρ) : Sorted s.drain.1 s.outbox where
  last := by
    refine List.pairwise_append.2 ⟨List.pairwise_of_forall_mem_list ?_,
      List.pairwise_of_forall_mem_list ?_, ?_⟩
    · intro e he f _ hanswer
      simp [hanswer] at he
    · exact fun e _ f hf _ => (List.mem_filter.1 hf).2
    · exact fun e _ f hf _ => (List.mem_filter.1 hf).2
  answers := answers_drain s
  others := by
    unfold drain
    rw [List.filter_append, List.filter_filter, List.filter_filter]
    simp

/-- The log, behind what was in the outbox before, falls into portions that belong to the batches,
and what is in the outbox now. -/
theorem exists_portions (s : Switch ρ) (inputs : List (Input ρ)) :
    ∃ portions, List.Forall₂ Sorted (s.batches inputs) portions ∧
      s.outbox ++ s.log inputs = portions.flatten ++ (inputs.foldl after s).outbox := by
  induction inputs generalizing s with
  | nil => exact ⟨[], .nil, by simp⟩
  | cons input inputs ih =>
    obtain ⟨portions, hsorted, hlog⟩ := ih (s.after input)
    by_cases hinput : input = .drain
    · subst hinput
      refine ⟨s.outbox :: portions, .cons (sorted_drain s) hsorted, ?_⟩
      rw [List.flatten_cons, List.append_assoc]
      exact congrArg _ hlog
    · have hnone : s.batch input = [] := by
        cases input with
        | request | signal => rfl
        | drain => exact absurd rfl hinput
      refine ⟨portions, ?_, ?_⟩
      · rw [batches, along_cons, hnone]
        exact hsorted
      · rw [log_cons, ← List.append_assoc, ← outbox_after s hinput]
        exact hlog

end DataPath.Switch
