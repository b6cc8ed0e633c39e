import DataPath.Proofs.Switch.Ledger
import Mathlib.Data.List.Induction

/-!
# Runs of a switch alone

A switch, arbitrated or not, takes requests and signals in any order, and its effects are fetched
now and then.  Nothing is assumed of the signals: the modem may signal the end of commands that
were never submitted, or twice, and classes that nobody asked for.

What holds of a switch at any time is `Sound`, and what it issues is in the ledger.  Here they are
put together for runs: the records fit the phase (`Coherent`), and no token is issued twice.
-/

namespace DataPath.Switch

variable {ρ : Type} {s s' : Switch ρ}

/-! ## Runs -/

/-- What a switch is given to do. -/
inductive Input (ρ : Type) where
  /-- A request comes. -/
  | request (id : Nat) (request : Request) (handle : Option ρ)
  /-- The modem signals. -/
  | signal (signal : Signal)
  /-- The effects are fetched. -/
  | drain
  deriving DecidableEq, Repr

/-- The switch after an input. -/
def after (s : Switch ρ) : Input ρ → Switch ρ
  | .request id request handle => s.handle id request handle
  | .signal signal => s.hear signal
  | .drain => s.drain.2

/-- The effects of an input, oldest first. -/
def emitted (s : Switch ρ) : Input ρ → List (Effect ρ)
  | .request id request handle => (s.handle id request handle).outbox.drop s.outbox.length
  | .signal signal => (s.hear signal).outbox.drop s.outbox.length
  | .drain => []

/-- The switch of a tenant after a list of inputs, from its start. -/
def run (tenant : Tenant) (arbitrated : Bool) (inputs : List (Input ρ)) : Switch ρ :=
  inputs.foldl after { tenant := tenant, arbitrated := arbitrated }

@[simp] theorem run_append (tenant : Tenant) (arbitrated : Bool) (inputs : List (Input ρ))
    (input : Input ρ) :
    run tenant arbitrated (inputs ++ [input]) = (run tenant arbitrated inputs).after input := by
  simp [run]

/-- The tokens that a switch issues with a list of inputs, in order. -/
def issued (s : Switch ρ) : List (Input ρ) → List Nat
  | [] => []
  | input :: inputs =>
    (submissions (s.emitted input)).map Prod.fst ++ (s.after input).issued inputs

theorem issued_append (s : Switch ρ) (inputs : List (Input ρ)) (input : Input ρ) :
    s.issued (inputs ++ [input]) =
      s.issued inputs ++ (submissions ((inputs.foldl after s).emitted input)).map Prod.fst := by
  induction inputs generalizing s with
  | nil => simp [issued]
  | cons i inputs ih => simp [issued, ih]

/-- Every input keeps a switch sound. -/
theorem Sound.after (h : s.Sound) (input : Input ρ) : (s.after input).Sound := by
  cases input with
  | request id request handle => exact h.handle id request handle
  | signal signal => exact h.hear signal
  | drain => exact h.drain

theorem sound_run (tenant : Tenant) (arbitrated : Bool) (inputs : List (Input ρ)) :
    (run tenant arbitrated inputs).Sound := by
  induction inputs using List.reverseRecOn with
  | nil => exact sound_start tenant arbitrated
  | append_singleton inputs input ih =>
    rw [run_append]
    exact ih.after input

/-! ## Tokens -/

theorem Grows.tokens {due : List (Owed ρ)} (h : Grows s s' due) :
    ∃ n, (submissions (s'.outbox.drop s.outbox.length)).map Prod.fst = List.range' s.nextToken n ∧
      s'.nextToken = s.nextToken + n := by
  obtain ⟨new, houtbox, ⟨cs, hcs, htoken⟩, -⟩ := h
  refine ⟨cs.length, ?_, htoken⟩
  rw [houtbox, List.drop_left, hcs, map_fst_numbered]

/-- What is emitted is what joins the outbox. -/
theorem outbox_after (s : Switch ρ) {input : Input ρ} (h : input ≠ .drain) :
    (s.after input).outbox = s.outbox ++ s.emitted input := by
  have hgrows : ∀ {s' : Switch ρ} {due : List (Owed ρ)}, Grows s s' due →
      s'.outbox = s.outbox ++ s'.outbox.drop s.outbox.length := by
    rintro s' due ⟨new, houtbox, -, -⟩
    rw [houtbox, List.drop_left]
  cases input with
  | request id request handle => exact hgrows (grows_handle s id request handle)
  | signal signal => exact hgrows (grows_hear s signal)
  | drain => exact absurd rfl h

/-- An input issues the next tokens. -/
theorem tokens_emitted (s : Switch ρ) (input : Input ρ) :
    ∃ n, (submissions (s.emitted input)).map Prod.fst = List.range' s.nextToken n ∧
      (s.after input).nextToken = s.nextToken + n := by
  cases input with
  | request id request handle => exact (grows_handle s id request handle).tokens
  | signal signal => exact (grows_hear s signal).tokens
  | drain => exact ⟨0, rfl, rfl⟩

/-- The tokens issued in a run are all there are up to the next one, in order. -/
theorem issued_eq (tenant : Tenant) (arbitrated : Bool) (inputs : List (Input ρ)) :
    ∃ n, issued { tenant := tenant, arbitrated := arbitrated } inputs = List.range' 1 n ∧
      (run tenant arbitrated inputs).nextToken = 1 + n := by
  induction inputs using List.reverseRecOn with
  | nil => exact ⟨0, rfl, rfl⟩
  | append_singleton inputs input ih =>
    obtain ⟨n, hissued, hnext⟩ := ih
    obtain ⟨m, hnew, hafter⟩ := tokens_emitted (run tenant arbitrated inputs) input
    refine ⟨n + m, ?_, ?_⟩
    · rw [issued_append, hissued]
      change _ ++ (submissions ((run tenant arbitrated inputs).emitted input)).map Prod.fst = _
      rw [hnew, hnext, List.range'_append_1]
    · rw [run_append, hafter, hnext, Nat.add_assoc]

/-! ## The records of a switch -/

/-- The records of a switch fit its phase. -/
structure Coherent (s : Switch ρ) : Prop where
  /-- Connected classes are requested ones. -/
  subset : ∀ c ∈ s.connected, c ∈ s.classes
  /-- An idle switch wants nothing and keeps nobody waiting. -/
  idle : s.phase = .idle → s.classes = ∅ ∧ s.connected = ∅ ∧ s.parked = []
  /-- An acquiring switch wants something and has nothing. -/
  acquiring : s.phase = .acquiring → s.classes ≠ ∅ ∧ s.connected = ∅
  /-- An active switch has something. -/
  active : s.phase = .active → s.connected ≠ ∅
  /-- Connects are parked only during a release. -/
  parked : s.parked ≠ [] → s.phase = .releasing
  /-- There is a release token during a release, and only then. -/
  release : s.releaseToken.isSome = true ↔ s.phase = .releasing
  /-- It is that of a force-idle in flight. -/
  barrier : ∀ k, s.releaseToken = some k → (k, .forceIdle) ∈ s.inflight
  /-- The commands in flight have different tokens. -/
  distinct : (s.inflight.map Prod.fst).Nodup
  /-- Their tokens have been issued. -/
  bound : ∀ e ∈ s.inflight, e.1 < s.nextToken

theorem Sound.coherent (h : s.Sound) : s.Coherent := by
  have hempty : ∀ {cs : ClassSet}, (∀ c, c ∉ cs) → cs = ∅ := fun hno => ClassSet.eq_empty_iff.2 hno
  have hsome : ∀ {cs : ClassSet}, (∃ c, c ∈ cs) → cs ≠ ∅ := by
    rintro cs ⟨c, hc⟩ rfl
    exact ClassSet.not_mem_empty c hc
  refine ⟨h.tracks.subset, fun hp => ⟨hempty (h.tracks.idle hp),
    hempty (h.tracks.not_connected_of_idle hp), h.tracks.parked_eq_nil (by rw [hp]; decide)⟩,
    fun hp => ⟨hsome (h.tracks.live (by rw [hp]; rfl)), hempty (h.tracks.acquiring hp)⟩,
    fun hp => hsome (h.tracks.active hp), h.tracks.parked, ⟨fun hk => ?_, fun hp => ?_⟩,
    fun k hk => ?_, ?_, h.tokens.bound⟩
  · obtain ⟨k, hk⟩ := Option.isSome_iff_exists.1 hk
    exact h.tokens.releaseToken_eq hk
  · obtain ⟨k, hk, -⟩ := h.tokens.token hp
    rw [hk]
    rfl
  · obtain ⟨j, hj, hmem⟩ := h.tokens.token (h.tokens.releaseToken_eq hk)
    rw [hk, Option.some.injEq] at hj
    exact hj ▸ hmem
  · exact List.pairwise_map.2 (h.tokens.sorted.imp fun hlt => Nat.ne_of_lt hlt)

/-- After every run of inputs the records of a switch fit its phase, and no token was issued
twice. -/
theorem coherent_of_run (tenant : Tenant) (arbitrated : Bool) (inputs : List (Input ρ)) :
    (run tenant arbitrated inputs).Coherent ∧
      (issued { tenant := tenant, arbitrated := arbitrated } inputs).Nodup := by
  refine ⟨(sound_run tenant arbitrated inputs).coherent, ?_⟩
  obtain ⟨n, hissued, -⟩ := issued_eq tenant arbitrated inputs
  rw [hissued]
  exact List.nodup_range'

end DataPath.Switch
