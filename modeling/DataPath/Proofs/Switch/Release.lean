import DataPath.Proofs.Switch.Course
import DataPath.Proofs.Switch.Log
import DataPath.Proofs.Switch.Refusal

/-!
# The end of a release, and who waits for it

A release waits for the end of one command, and no other signal ends it (`ends`).  Whether that
command has succeeded or failed does not matter: the switch is idle for a moment (`atIdle`), and
then everybody parked is tried again (`hear_of_ends`).

The parked connects are a queue.  An input lets a connect into it (`admitted`) if it asks for a
class during a release and the radio is not off; nobody leaves it before the release is over, and
then everybody does (`parked_after`).
-/

namespace DataPath.Switch

variable {ρ : Type} {s : Switch ρ} {input : Input ρ}

/-! ## The end of a release -/

/-- Whether an input is the end of the command that the present release waits for. -/
def ends (s : Switch ρ) : Input ρ → Bool
  | .signal (.completed token _) => s.releaseToken = some token
  | .signal (.classConnected _) | .signal (.radio _) | .request .. | .drain => false

/-- The end of a release has a token. -/
theorem exists_of_ends (h : s.ends input = true) :
    ∃ token fault, input = .signal (.completed token fault) ∧ s.releaseToken = some token := by
  unfold ends at h
  split at h
  · exact ⟨_, _, rfl, by simpa using h⟩
  all_goals cases h

/-- The switch at the moment at which its release is over, and nobody is tried again yet. -/
def atIdle (s : Switch ρ) : Switch ρ :=
  { s with
    releaseToken := none
    classes := ∅
    connected := ∅
    parked := []
    phase := .idle
    outbox := s.outbox ++ [.event (.phaseChanged s.tenant .releasing .idle),
      .notice (.enteredIdle s.tenant (s.parked.map Parked.dataClass))] }

theorem atIdle_ne_releasing (s : Switch ρ) : s.atIdle.phase ≠ .releasing := by
  simp [atIdle]

theorem completeRelease_eq_foldl (hp : s.phase = .releasing) :
    s.completeRelease = s.parked.foldl replay s.atIdle := by
  unfold completeRelease atIdle
  simp [enter_eq, emit, phaseEvent, hp]

/-- The command that a release waits for is a force-idle in flight. -/
theorem Tokens.lookup_releaseToken (h : s.Tokens) {k : Nat} (hk : s.releaseToken = some k) :
    s.inflight.lookup k = some .forceIdle := by
  obtain ⟨j, hj, hmem⟩ := h.token (h.releaseToken_eq hk)
  obtain rfl : k = j := Option.some.inj (hk.symm.trans hj)
  exact h.lookup_eq hmem

/-- At the end of a release, successful or not, everybody parked is tried again. -/
theorem hear_of_ends (h : s.Tokens) {k : Nat} (hk : s.releaseToken = some k)
    (fault : Option ModemFault) :
    s.hear (.completed k fault) =
      (s.parked.foldl replay (s.without k).atIdle).publishChange s.snapshot := by
  have hp := h.releaseToken_eq hk
  unfold hear
  simp only [h.lookup_releaseToken hk, finish]
  rw [if_pos ⟨hp, hk⟩]
  exact congrArg (publishChange · s.snapshot) (completeRelease_eq_foldl (s := s.without k) hp)

/-- What is emitted when idle is entered: the change of phase, and at once the notice of it, which
lists the classes that are tried again. -/
def entrance (s : Switch ρ) (input : Input ρ) : List (Effect ρ) :=
  if s.ends input then
    [.event (.phaseChanged s.tenant .releasing .idle),
      .notice (.enteredIdle s.tenant (s.parked.map Parked.dataClass))]
  else []

theorem emitted_of_ends (h : s.Tokens) {k : Nat} (hk : s.releaseToken = some k)
    (fault : Option ModemFault) {new : List (Effect ρ)}
    (hnew : (s.parked.foldl replay (s.without k).atIdle).outbox =
      (s.without k).atIdle.outbox ++ new) :
    s.emitted (.signal (.completed k fault)) =
      s.entrance (.signal (.completed k fault)) ++ new ++
        changeNotice s.snapshot (s.after (.signal (.completed k fault))).snapshot := by
  refine emitted_eq ?_
  have hentrance : s.entrance (.signal (.completed k fault)) = _ := if_pos (decide_eq_true hk)
  rw [after, hear_of_ends h hk, publishChange_eq, hentrance, ← List.append_assoc,
    ← List.append_assoc]
  exact congrArg (· ++ _) hnew

/-! ## The queue -/

/-- The connect that an input asks for, in the form in which it is parked. -/
def Input.connect? : Input ρ → Option (Parked ρ)
  | .request id wish handle => wish.wanted?.map fun c => ⟨id, c, handle⟩
  | .signal _ | .drain => none

/-- The connects that a list of inputs asks for, in the order in which they come. -/
def arrivals (inputs : List (Input ρ)) : List (Parked ρ) := inputs.filterMap Input.connect?

/-- The connect that an input lets into the queue, if it does. -/
def admitted (s : Switch ρ) (input : Input ρ) : List (Parked ρ) :=
  if s.phase = .releasing ∧ s.radio.isOff = false then input.connect?.toList else []

theorem admitted_of_ne_releasing (h : s.phase ≠ .releasing) (input : Input ρ) :
    s.admitted input = [] := if_neg fun hrel => h hrel.1

theorem connect?_of_mem_admitted {p : Parked ρ} (h : p ∈ s.admitted input) :
    input.connect? = some p := by
  unfold admitted at h
  split at h
  · exact Option.mem_toList.1 h
  · cases h

theorem admitted_of_connect?_eq_none (h : input.connect? = none) : s.admitted input = [] := by
  rw [admitted, h]
  exact ite_self []

theorem parked_settle (s : Switch ρ) : s.settle.parked = s.parked := by
  rcases s.settle_cases with ⟨-, h⟩ | ⟨-, h⟩ | ⟨-, h⟩
  · rw [h, beginRelease_eq]
  · rw [h, enter_eq]
  · rw [h]

theorem Served.parked_eq {id : Nat} {request : Request} {handle : Option ρ} {s₁ : Switch ρ}
    (h : Served s id handle request s₁) :
    s₁.parked = s.parked ++ s.admitted (.request id request handle) := by
  -- Only an answer and a parked connect leave it open whether the switch is releasing.
  have hlive : s.phase.isLive = true → s.admitted (.request id request handle) = [] := fun hl =>
    admitted_of_ne_releasing (Phase.isLive_iff.1 hl).2 _
  have hidle : s.phase = .idle → s.admitted (.request id request handle) = [] := fun hi =>
    admitted_of_ne_releasing (by rw [hi]; decide) _
  cases h with
  | answered _ body hparks =>
    have hnone : s.admitted (.request id request handle) = [] := by
      by_cases hrel : s.phase = .releasing
      · rcases hparks hrel with hwant | hoff
        · exact admitted_of_connect?_eq_none (by rw [Input.connect?, hwant]; rfl)
        · exact if_neg fun hon => by simp [hoff] at hon
      · exact admitted_of_ne_releasing hrel _
    rw [hnone, List.append_nil, answer_eq]
  | parked c hwant hp hradio =>
    rw [admitted, if_pos ⟨hp, hradio⟩, Input.connect?, hwant]
    rfl
  | asked c hp =>
    rw [hidle hp, List.append_nil]
    rfl
  | entered c hp =>
    rw [hidle hp, List.append_nil, answer_eq, enter_eq]
    rfl
  | tracked c hl =>
    rw [hlive hl, List.append_nil, answer_eq]
    rfl
  | dropped c hl =>
    rw [hlive hl, List.append_nil, answer_eq]
    exact parked_settle _
  | retried ds hl => rw [hlive hl, List.append_nil, answer_eq, foldl_submit_eq]
  | swept hp =>
    rw [hidle hp, List.append_nil, answer_eq]
    rfl
  | released hl => rw [hlive hl, List.append_nil, answer_eq, beginRelease_eq]

/-- A signal that does not end the release leaves everybody in the queue. -/
theorem Heeded.parked_eq {signal : Signal} {s₁ : Switch ρ} (h : Heeded s signal s₁)
    (hends : s.ends (.signal signal) = false) : s₁.parked = s.parked := by
  cases h with
  | ignored => cases signal <;> rfl
  | reported | failed | radio => rfl
  | lost => exact parked_settle _
  | again => rw [enter_eq]
  | connected =>
    rw [enter_eq]
    rfl
  | cut =>
    rw [beginRelease_eq]
    rfl
  | released token fault _ htoken => simp [ends, htoken] at hends

/-- At the end of a release the queue is emptied; until then, whoever is let in stands behind all
the others. -/
theorem parked_after (h : s.Sound) (input : Input ρ) :
    (s.after input).parked = if s.ends input then [] else s.parked ++ s.admitted input := by
  cases input with
  | request id request handle =>
    have hserve := (served s id request handle).parked_eq
    rw [after, Switch.handle, publishChange_eq]
    exact hserve
  | signal signal =>
    have hnone : s.admitted (.signal signal) = [] := admitted_of_connect?_eq_none rfl
    rw [hnone, List.append_nil, after]
    split
    · next hends =>
      obtain ⟨k, fault, heq, hk⟩ := exists_of_ends hends
      cases heq
      rw [hear_of_ends h.tokens hk, publishChange_eq]
      exact (foldl_replay_of_ne_releasing (atIdle_ne_releasing _) _).2
    · next hends =>
      obtain ⟨s₁, hheeded, heq⟩ := s.heeded signal
      rw [heq, publishChange_eq]
      exact hheeded.parked_eq (by simpa using hends)
  | drain =>
    rw [admitted_of_connect?_eq_none rfl, List.append_nil]
    rfl

/-- The connects in the queue are some of those that were asked for, in the same order. -/
theorem parked_sublist (tenant : Tenant) (arbitrated : Bool) (inputs : List (Input ρ)) :
    (run tenant arbitrated inputs).parked.Sublist (arrivals inputs) := by
  induction inputs using List.reverseRecOn with
  | nil => exact List.Sublist.slnil
  | append_singleton inputs input ih =>
    rw [run_append, parked_after (sound_run tenant arbitrated inputs), arrivals,
      List.filterMap_append]
    split
    · exact List.nil_sublist _
    · refine ih.append ?_
      unfold admitted
      split
      · cases h : input.connect? <;> simp [h]
      · exact List.nil_sublist _

end DataPath.Switch
