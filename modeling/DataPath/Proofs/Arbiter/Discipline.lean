import DataPath.Proofs.Arbiter.Record

/-!
# Grants and owners along a run of the arbiter

What the arbiter promises without trusting the switches.  Its history is a list of
operations of any kind, and a grant has a place in it: the operation that handed it out,
and the operations since (`Handed`).

* A grant is handed out once, and is outstanding from then until its first answer
  (`mem_outstanding_iff`).
* The owner is left only when it was last seen idle and every grant handed out before was
  answered, the answer absorbed by the operation itself included.
* Whatever lets a tenant onto the modem, or asks it to leave, is addressed to the owner.
* The published changes of owner lead, one to the next, from nobody to the owner (`chains_run`).

All of this is put together in `disciplined_of_run`.
-/

namespace DataPath.Arbiter

variable {a a' : Arbiter} {config : ArbiterConfig} {ops : List Operation} {op : Operation}
  {g : Grant} {later : List Operation}

/-! ## The place of a grant in a run -/

/-- A grant was handed out in a run, with these operations after the one that did it. -/
def Handed (config : ArbiterConfig) (ops : List Operation) (g : Grant) (later : List Operation) :
    Prop :=
  ∃ earlier op, ops = earlier ++ op :: later ∧ g ∈ (run config earlier).handedOut op

theorem not_handed_nil : ¬Handed config [] g later := by
  rintro ⟨earlier, op, heq, -⟩
  simp at heq

/-- One operation of a run that ends with `op`, and those after it: it is the last, or one of the
run before. -/
theorem append_singleton_eq_iff {earlier : List Operation} {op' : Operation} :
    ops ++ [op] = earlier ++ op' :: later ↔
      later = [] ∧ earlier = ops ∧ op' = op ∨
        ∃ l, later = l ++ [op] ∧ ops = earlier ++ op' :: l := by
  constructor
  · intro heq
    rcases List.eq_nil_or_concat later with rfl | ⟨l, last, rfl⟩
    · obtain ⟨rfl, hop⟩ := List.append_inj' heq rfl
      exact .inl ⟨rfl, rfl, (List.singleton_inj.1 hop).symm⟩
    · rw [List.concat_eq_append] at heq ⊢
      rw [← List.cons_append, ← List.append_assoc] at heq
      obtain ⟨rfl, hop⟩ := List.append_inj' heq rfl
      exact .inr ⟨l, by rw [List.singleton_inj.1 hop], rfl⟩
  · rintro (⟨rfl, rfl, rfl⟩ | ⟨l, rfl, rfl⟩)
    · rfl
    · simp

/-- A grant was handed out by the last operation of a run, or before. -/
theorem handed_append_iff :
    Handed config (ops ++ [op]) g later ↔
      later = [] ∧ g ∈ (run config ops).handedOut op ∨
        ∃ l, later = l ++ [op] ∧ Handed config ops g l := by
  constructor
  · rintro ⟨earlier, op', heq, hg⟩
    rcases append_singleton_eq_iff.1 heq with ⟨rfl, rfl, rfl⟩ | ⟨l, rfl, hbefore⟩
    · exact .inl ⟨rfl, hg⟩
    · exact .inr ⟨l, rfl, earlier, op', hbefore, hg⟩
  · rintro (⟨rfl, hg⟩ | ⟨l, rfl, earlier, op', hbefore, hg⟩)
    · exact ⟨ops, op, rfl, hg⟩
    · exact ⟨earlier, op', append_singleton_eq_iff.2 (.inr ⟨l, rfl, hbefore⟩), hg⟩

/-! ## Grants -/

theorem absorb_owner (a : Arbiter) (op : Operation) : (a.absorb op).owner = a.owner := by
  cases op <;> rfl

theorem absorb_lastGrant (a : Arbiter) (op : Operation) :
    (a.absorb op).lastGrant = a.lastGrant := by
  cases op <;> rfl

/-- Only the answer to a grant makes it less outstanding. -/
theorem mem_outstanding_absorb (h : a.Orderly) :
    g ∈ (a.absorb op).outstanding ↔ g ∈ a.outstanding ∧ op ≠ .grantAnswered g := by
  cases op with
  | grantAnswered g' =>
    have herase : g ∈ a.outstanding.erase g' ↔ g ≠ g' ∧ g ∈ a.outstanding := h.nodup.mem_erase_iff
    rw [show (a.absorb (.grantAnswered g')).outstanding = a.outstanding.erase g' from rfl, herase,
      and_comm]
    simp [eq_comm]
  | activate t c => simp [absorb]
  | deactivate t c => simp [absorb]
  | setDefaultTenant t => simp [absorb]
  | cleanupAnswered t outcome => simp [absorb]
  | hear n => simp [absorb, Arbiter.amend]
  | drain => simp [absorb, Arbiter.drain]

/-- After an operation, a grant is outstanding if it was handed out just now, or was
outstanding and not answered. -/
theorem mem_outstanding_after (h : a.Orderly) :
    g ∈ (a.after op).outstanding ↔
      g ∈ a.outstanding ∧ op ≠ .grantAnswered g ∨ g ∈ a.handedOut op := by
  rw [(acts h op).outstanding, List.mem_append, mem_outstanding_absorb h]
  rfl

/-- An operation hands out later grants than any before. -/
theorem lt_serial_of_handedOut (h : a.Orderly) (hg : g ∈ a.handedOut op) :
    a.lastGrant < g.serial := by
  rw [← absorb_lastGrant a op]
  exact (acts h op).fresh g hg

theorem lastGrant_le_after (h : a.Orderly) : a.lastGrant ≤ (a.after op).lastGrant := by
  rw [← absorb_lastGrant a op]
  exact (acts h op).lastGrant

theorem nodup_handedOut (h : a.Orderly) (op : Operation) : (a.handedOut op).Nodup := by
  have hnodup := (acts h op).orderly.nodup
  rw [(acts h op).outstanding] at hnodup
  exact (List.nodup_append.1 hnodup).2.1

/-- The grants handed out so far are numbered up to the last one. -/
theorem serial_le_of_handed (h : Handed config ops g later) :
    g.serial ≤ (run config ops).lastGrant := by
  induction ops using List.reverseRecOn generalizing later with
  | nil => exact absurd h not_handed_nil
  | append_singleton ops op ih =>
    rw [run_append]
    have horderly := orderly_run config ops
    rcases handed_append_iff.1 h with ⟨-, hg⟩ | ⟨l, -, hl⟩
    · exact (acts horderly op).orderly.issued g ((mem_outstanding_after horderly).2 (.inr hg))
    · exact Nat.le_trans (ih hl) (lastGrant_le_after horderly)

/-- No grant is handed out twice. -/
theorem not_handed_of_handedOut (hg : g ∈ (run config ops).handedOut op) :
    ¬Handed config ops g later := by
  intro h
  have hlt := lt_serial_of_handedOut (orderly_run config ops) hg
  have hle := serial_le_of_handed h
  omega

/-- A grant that was handed out is outstanding as long as it has not been answered. -/
theorem mem_outstanding_iff (h : Handed config ops g later) :
    g ∈ (run config ops).outstanding ↔ .grantAnswered g ∉ later := by
  induction ops using List.reverseRecOn generalizing later with
  | nil => exact absurd h not_handed_nil
  | append_singleton ops op ih =>
    rw [run_append, mem_outstanding_after (orderly_run config ops)]
    rcases handed_append_iff.1 h with ⟨rfl, hg⟩ | ⟨l, rfl, hl⟩
    · simp [hg]
    · have hnew : g ∉ (run config ops).handedOut op := fun hg => not_handed_of_handedOut hg hl
      simp [hnew, ih hl, eq_comm]

/-- Every outstanding grant was handed out. -/
theorem exists_handed (h : g ∈ (run config ops).outstanding) : ∃ later, Handed config ops g later := by
  induction ops using List.reverseRecOn with
  | nil => cases h
  | append_singleton ops op ih =>
    rw [run_append, mem_outstanding_after (orderly_run config ops)] at h
    rcases h with ⟨hg, -⟩ | hg
    · obtain ⟨l, hl⟩ := ih hg
      exact ⟨_, handed_append_iff.2 (.inr ⟨l, rfl, hl⟩)⟩
    · exact ⟨[], handed_append_iff.2 (.inl ⟨rfl, hg⟩)⟩

/-- The answer to a grant that is not outstanding changes nothing. -/
theorem after_grantAnswered_of_not_mem (h : g ∉ a.outstanding) :
    a.after (.grantAnswered g) = a := if_neg h

/-! ## Changes of owner -/

/-- Changes of owner that lead, one to the next, from one owner to another. -/
def Chains : Option Tenant → List (Option Tenant × Option Tenant) → Option Tenant → Prop
  | first, [], last => first = last
  | first, (source, target) :: rest, last => source = first ∧ source ≠ target ∧ Chains target rest last

/-- One more change leads on. -/
theorem Chains.snoc {first last target : Option Tenant} {l : List (Option Tenant × Option Tenant)}
    (h : Chains first l last) (hne : last ≠ target) : Chains first (l ++ [(last, target)]) target := by
  induction l generalizing first with
  | nil =>
    have heq : first = last := h
    exact ⟨heq.symm, hne, rfl⟩
  | cons m l ih => exact ⟨h.1, h.2.1, ih h.2.2⟩

/-- The effects of a list of operations, oldest first. -/
def effectsOf (a : Arbiter) : List Operation → List Effect
  | [] => []
  | op :: ops => a.emitted op ++ (a.after op).effectsOf ops

theorem effectsOf_append (a : Arbiter) (ops : List Operation) (op : Operation) :
    a.effectsOf (ops ++ [op]) = a.effectsOf ops ++ (ops.foldl after a).emitted op := by
  induction ops generalizing a with
  | nil => simp [effectsOf]
  | cons op' ops ih => simp [effectsOf, ih]

/-- The changes of owner published in a run lead from nobody to the owner. -/
theorem chains_run (config : ArbiterConfig) (ops : List Operation) :
    Chains none (moves ((start config).effectsOf ops)) (run config ops).owner := by
  induction ops using List.reverseRecOn with
  | nil => rfl
  | append_singleton ops op ih =>
    have hmoves := (acts (orderly_run config ops) op).moves
    rw [absorb_owner] at hmoves
    rw [effectsOf_append, moves_append, run_append]
    change Chains none (_ ++ moves ((run config ops).emitted op)) _
    rw [hmoves]
    split
    · next heq =>
      rw [List.append_nil, ← heq]
      exact ih
    · next hne => exact ih.snoc hne

/-! ## The discipline -/

/-- What an operation may do after a run. -/
structure Disciplined (config : ArbiterConfig) (ops : List Operation) (op : Operation) : Prop where
  /-- The new effects are those emitted. -/
  effects : ((run config ops).after op).outbox =
    ((run config ops).absorb op).outbox ++ (run config ops).emitted op
  /-- Once the operation is absorbed, an owner that is left was last seen idle, and all the
  grants there were have been answered. -/
  leaves : ∀ o, (run config ops).owner = some o → ((run config ops).after op).owner ≠ some o →
    ((run config ops).absorb op).phaseOf? o = some .idle ∧
      ∀ g later, Handed config ops g later → .grantAnswered g ∈ later ++ [op]
  /-- Connects go to the owner. -/
  sending : ∀ e ∈ sendings ((run config ops).emitted op),
    ((run config ops).after op).owner = some e.tenant
  /-- Requests to clean up go to the owner. -/
  asking : ∀ t ∈ cleaned ((run config ops).emitted op),
    ((run config ops).after op).owner = some t
  /-- Activations are forwarded to the owner. -/
  forwarding : ∀ p ∈ (run config ops).passedOn op,
    ((run config ops).after op).owner = some p.1
  /-- The grants it hands out are different ones. -/
  once : ((run config ops).handedOut op).Nodup
  /-- They are new, and become outstanding. -/
  fresh : ∀ g ∈ (run config ops).handedOut op,
    (∀ later, ¬Handed config ops g later) ∧ g ∈ ((run config ops).after op).outstanding
  /-- An outstanding grant stays so, unless the operation is its first answer. -/
  stays : ∀ g ∈ (run config ops).outstanding, g ∉ ((run config ops).after op).outstanding →
    op = .grantAnswered g ∧ ∃ later, Handed config ops g later ∧ .grantAnswered g ∉ later
  /-- A later answer changes nothing and emits nothing. -/
  repeated : ∀ g later, Handed config ops g later → .grantAnswered g ∈ later →
    op = .grantAnswered g →
      (run config ops).after op = run config ops ∧ (run config ops).emitted op = []

/-- Every operation, after every run, keeps to the discipline, and the changes of owner that
were published lead from nobody to the owner. -/
theorem disciplined_of_run (config : ArbiterConfig) (ops : List Operation) :
    (∀ op, Disciplined config ops op) ∧
      Chains none (moves ((start config).effectsOf ops)) (run config ops).owner := by
  refine ⟨fun op => ?_, chains_run config ops⟩
  have horderly := orderly_run config ops
  have hacts := acts horderly op
  refine ⟨hacts.outbox, fun o ho hleft => ?_, hacts.sending, hacts.asking, hacts.forwarding,
    nodup_handedOut horderly op, fun g hg => ⟨fun later => not_handed_of_handedOut hg,
      (mem_outstanding_after horderly).2 (.inr hg)⟩, fun g hg hgone => ?_, ?_⟩
  · rcases hacts.owner with hsame | ⟨hnone, hidle⟩
    · rw [absorb_owner] at hsame
      exact absurd (hsame.trans ho) hleft
    · refine ⟨hidle o ((absorb_owner _ op).trans ho), fun g later hg => ?_⟩
      -- A grant without an answer would still be outstanding once the operation is absorbed.
      by_contra hno
      rw [List.mem_append, not_or, List.mem_singleton] at hno
      have hmem : g ∈ ((run config ops).absorb op).outstanding :=
        (mem_outstanding_absorb horderly).2 ⟨(mem_outstanding_iff hg).2 hno.1, Ne.symm hno.2⟩
      rw [hnone] at hmem
      cases hmem
  · have hanswer : op = .grantAnswered g := by
      by_contra hne
      exact hgone ((mem_outstanding_after horderly).2 (.inl ⟨hg, hne⟩))
    obtain ⟨later, hlater⟩ := exists_handed hg
    exact ⟨hanswer, later, hlater, (mem_outstanding_iff hlater).1 hg⟩
  · rintro g later hg hanswered rfl
    have hgone : g ∉ (run config ops).outstanding := fun hmem =>
      (mem_outstanding_iff hg).1 hmem hanswered
    have hsame := after_grantAnswered_of_not_mem hgone
    refine ⟨hsame, ?_⟩
    rw [emitted, hsame]
    exact List.drop_length

/-- Two tenants take turns.  The first is asked to clean up when the second wants in, and is
left once it is idle and its grant is answered. -/
example :
    let a := run {} [.activate ⟨0⟩ .default, .activate ⟨1⟩ .mms, .hear (.enteredIdle ⟨0⟩ []),
      .grantAnswered ⟨1⟩]
    a.owner = some ⟨1⟩ ∧ a.outstanding = [⟨2⟩] ∧
      moves a.outbox = [(none, some ⟨0⟩), (some ⟨0⟩, some ⟨1⟩)] := by
  decide +kernel

end DataPath.Arbiter
