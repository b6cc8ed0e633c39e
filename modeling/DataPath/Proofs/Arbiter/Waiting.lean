import DataPath.Proofs.Arbiter.Input

/-!
# What becomes of who waits

While another tenant owns the data path, the arbiter keeps a record of who waits for it, and with
which classes (`Waits`).  Here is said what everything that the arbiter takes in can do to this
record.

* Notices and answers leave it alone, or it is *served*: the data path is handed over, with a
  connect for every class, or every class is refused (`Served`).
* An activation of the tenant that waits adds to the record.  An activation of anybody else
  displaces it, and says so: the one who asked last wins.  That holds for the owner too, which then
  does not have to let go.
* A deactivation withdraws the class that it names.
-/

namespace DataPath.Arbiter

variable {a a' mid : Arbiter} {p : Pending} {t u : Tenant} {c d : DataClass} {new : List Effect}

/-- A tenant waits for the data path with a class. -/
def Waits (a : Arbiter) (t : Tenant) (c : DataClass) : Prop :=
  ∃ p, a.pending = some p ∧ p.tenant = t ∧ c ∈ p.classes

/-- Who waited has got an answer: the data path with a connect for every class, or a refusal of
every class. -/
inductive Served (a : Arbiter) (p : Pending) (a' : Arbiter) (new : List Effect) : Prop where
  | granted (howner : a'.owner = some p.tenant)
      (hnew : new = .event (.ownerChanged a.owner (some p.tenant)) ::
        connectsFrom p.tenant a.lastGrant p.classes.toList)
  | refused (howner : a'.owner = none)
      (hnew : new = .event (.ownerChanged a.owner none) ::
        p.classes.toList.map fun c => .event (.activationRejected p.tenant c (.radioOff p.tenant)))

/-- The record of who waits is kept, or served. -/
def KeptOrServed (a : Arbiter) (p : Pending) (a' : Arbiter) : Prop :=
  ∃ new, a'.outbox = a.outbox ++ new ∧ (a'.pending = some p ∨ Served a p a' new)

/-- Who is served depends on the owner and the grants only. -/
theorem Served.congr (h : Served mid p a' new) (howner : mid.owner = a.owner)
    (hlast : mid.lastGrant = a.lastGrant) : Served a p a' new := by
  cases h with
  | granted ho hnew => exact .granted ho (by rw [hnew, howner, hlast])
  | refused ho hnew => exact .refused ho (by rw [hnew, howner])

theorem KeptOrServed.congr (h : KeptOrServed mid p a') (hout : mid.outbox = a.outbox)
    (howner : mid.owner = a.owner) (hlast : mid.lastGrant = a.lastGrant) : KeptOrServed a p a' := by
  obtain ⟨new, heq, hcase⟩ := h
  exact ⟨new, hout ▸ heq, hcase.imp_right fun hs => hs.congr howner hlast⟩

theorem keptOrServed_of_pending (hout : a'.outbox = a.outbox) (hp : a'.pending = some p) :
    KeptOrServed a p a' :=
  ⟨[], by simp [hout], .inl hp⟩

/-! ## Notices and answers -/

/-- Settling keeps or serves who waits. -/
theorem Settles.keptOrServed (hs : Settles a a') (hp : a.pending = some p) :
    KeptOrServed a p a' := by
  cases hs with
  | rests => exact keptOrServed_of_pending rfl hp
  | again o _ hpending | frees o _ _ _ hpending =>
    rw [hp] at hpending
    cases hpending
  | cleans o => exact ⟨[.cleanupAll o], rfl, .inl hp⟩
  | refuses o q _ _ _ hpending =>
    rw [hp, Option.some.injEq] at hpending
    subst hpending
    exact ⟨_, by rw [refused, freed, List.append_assoc]; rfl, .inr (.refused rfl rfl)⟩
  | grants o q _ _ _ hpending =>
    rw [hp, Option.some.injEq] at hpending
    subst hpending
    exact ⟨_, by rw [granted, List.append_assoc]; rfl, .inr (.granted rfl rfl)⟩

theorem grantAnswered_keptOrServed (h : a.Orderly) (hp : a.pending = some p) (g : Grant) :
    KeptOrServed a p (a.grantAnswered g) := by
  unfold grantAnswered
  split
  · exact ((settles (h.without g)).keptOrServed hp).congr rfl rfl rfl
  · exact keptOrServed_of_pending rfl hp

theorem cleanupAnswered_keptOrServed (h : a.Orderly) (hp : a.pending = some p) (t : Tenant)
    (outcome : Outcome) : KeptOrServed a p (a.cleanupAnswered t outcome) := by
  unfold cleanupAnswered
  split
  · exact ((settles h.unasked).keptOrServed hp).congr rfl rfl rfl
  · exact keptOrServed_of_pending rfl hp

/-- As long as somebody owns the data path, a change of radio is only noted. -/
theorem hearRadio_eq_amend (howned : a.owner ≠ none) (u : Tenant) (radio : Radio) :
    ∃ f, a.hearRadio u radio = a.amend u f := by
  unfold hearRadio
  split
  · refine ⟨id, ?_⟩
    unfold amend
    rw [List.modify_id]
  · simp only [amend_amend]
    split
    · exact ⟨_, rfl⟩
    · split
      · rw [if_neg fun hauto => howned (Option.isNone_iff_eq_none.1 hauto.2.1)]
        exact ⟨_, rfl⟩
      · exact ⟨_, rfl⟩

/-- The radio of a tenant changes nothing for who waits, as somebody owns the data path. -/
theorem hearRadio_keptOrServed (h : a.Orderly) (hp : a.pending = some p) (t : Tenant)
    (radio : Radio) : KeptOrServed a p (a.hearRadio t radio) := by
  have howned : a.owner ≠ none := by
    intro hfree
    rw [(h.free hfree).1] at hp
    cases hp
  obtain ⟨f, heq⟩ := hearRadio_eq_amend howned t radio
  rw [heq]
  exact keptOrServed_of_pending rfl hp

/-- Every notice keeps or serves who waits. -/
theorem hear_keptOrServed (h : a.Orderly) (hp : a.pending = some p) (n : Notice) :
    KeptOrServed a p (a.hear n) := by
  cases n with
  | updated s => exact keptOrServed_of_pending rfl hp
  | radioChanged t source radio => exact hearRadio_keptOrServed h hp t radio
  | enteredIdle t replaying =>
    unfold hear hearIdle
    simp only
    split
    · exact ((settles (h.amend t _).unasked).keptOrServed hp).congr rfl rfl rfl
    · exact keptOrServed_of_pending rfl hp

/-! ## Commands -/

/-- Who waited does not wait any more, and that was published. -/
structure Displaced (a : Arbiter) (t u : Tenant) (a' : Arbiter) : Prop where
  ne : u ≠ t
  gone : a'.pendingOwner ≠ some t
  outbox : ∃ more, a'.outbox = a.outbox ++ .event (.pendingReplaced t u) :: more

/-- Without a record of who waits, settling makes none. -/
theorem Settles.pending_eq_none (hs : Settles a a') (hp : a.pending = none) :
    a'.pending = none := by
  cases hs with
  | rests | cleans | again => exact hp
  | frees | refuses | grants => rfl

/-- An activation of the owner displaces who waits. -/
theorem activateOwner_displaced (h : a.Orderly) (howner : a.owner = some u)
    (hp : a.pending = some p) (c : DataClass) :
    Displaced a p.tenant u (a.activateOwner u c).1 := by
  have hne : u ≠ p.tenant := by
    rintro rfl
    exact (h.pending p hp).2.1 howner
  unfold activateOwner
  rw [if_pos (.inr (.inr (Option.isSome_iff_ne_none.2 (by simp [hp]))))]
  simp only [hp]
  have ho := h.queued howner (a.reacquire.insert c)
    (a.outbox ++ [.event (.pendingReplaced p.tenant u)])
  have hsettles := settles ho
  obtain ⟨new, hout, -⟩ := hsettles.turn ho
  refine ⟨hne, ?_, new, ?_⟩
  · have hnone := hsettles.pending_eq_none rfl
    simp only [publish, emit, pendingOwner]
    rw [hnone]
    simp
  · simp only [publish, emit]
    rw [hout]
    simp

/-- An activation adds to what waits, or displaces it. -/
theorem activate_waits (h : a.Orderly) (hw : a.Waits t c) (u : Tenant) (d : DataClass) :
    (a.activate u d).1.Waits t c ∨ Displaced a t u (a.activate u d).1 := by
  obtain ⟨p, hp, rfl, hc⟩ := hw
  unfold activate
  split
  · exact .inl ⟨p, hp, rfl, hc⟩
  · split
    · next hfree =>
      rw [(h.free hfree).1] at hp
      cases hp
    · next o howner =>
      split
      · next heq =>
        subst heq
        exact .inr (activateOwner_displaced h howner hp d)
      · simp only
        by_cases htenant : p.tenant = u
        · refine .inl ?_
          have hmore : (a.await u d).pending = some ⟨u, p.classes.insert d⟩ := by
            unfold await
            simp [hp, htenant]
          refine ⟨⟨u, p.classes.insert d⟩, ?_, htenant.symm, ClassSet.mem_insert.2 (.inr hc)⟩
          unfold requestCleanup
          split <;> exact hmore
        · refine .inr ?_
          have hother : a.await u d = ({ a with pending := some ⟨u, ClassSet.empty.insert d⟩ } :
              Arbiter).publish (.pendingReplaced p.tenant u) := by
            unfold await
            simp [hp, htenant]
          rw [hother]
          unfold requestCleanup
          split
          · exact ⟨Ne.symm htenant, fun heq => htenant (Option.some.inj heq).symm, [], rfl⟩
          · exact ⟨Ne.symm htenant, fun heq => htenant (Option.some.inj heq).symm, [.cleanupAll o],
              by simp [publish, emit]⟩

theorem waits_congr (h : a'.pending = a.pending) : a'.Waits t c ↔ a.Waits t c := by
  unfold Waits
  rw [h]

/-- A withdrawal takes away the class that it names, and no other. -/
theorem withdraw_waits (hw : a.Waits t c) (u : Tenant) (d : DataClass) :
    (a.withdraw u d).Waits t c ∨ u = t ∧ d = c ∧ ¬(a.withdraw u d).Waits t c := by
  obtain ⟨p, hp, rfl, hc⟩ := hw
  unfold withdraw
  simp only [hp]
  split
  · next hhit =>
    obtain ⟨rfl, hd⟩ := hhit
    by_cases hdc : d = c
    · refine .inr ⟨rfl, hdc, ?_⟩
      rintro ⟨q, hq, -, hcq⟩
      simp only at hq
      split at hq
      · cases hq
      · rw [Option.some.injEq] at hq
        rw [← hq, ClassSet.mem_erase] at hcq
        exact hcq.1 hdc.symm
    · have hmem : c ∈ p.classes.erase d := ClassSet.mem_erase.2 ⟨fun h => hdc h.symm, hc⟩
      have hsome : (p.classes.erase d).isEmpty ≠ true :=
        fun hempty => ClassSet.isEmpty_iff.1 hempty c hmem
      exact .inl ⟨_, if_neg hsome, rfl, hmem⟩
  · exact .inl ⟨p, hp, rfl, hc⟩

/-- A deactivation withdraws the class that it names, and no other. -/
theorem deactivate_waits (hw : a.Waits t c) (u : Tenant) (d : DataClass) :
    (a.deactivate u d).1.Waits t c ∨ u = t ∧ d = c ∧ ¬(a.deactivate u d).1.Waits t c := by
  unfold deactivate
  split
  · exact .inl hw
  · have hpending : ∀ reacquire, ({ a.withdraw u d with reacquire := reacquire } : Arbiter).pending =
        (a.withdraw u d).pending := fun _ => rfl
    simp only
    split
    · rw [waits_congr (hpending _)]
      exact withdraw_waits hw u d
    · exact withdraw_waits hw u d

/-- Changing the default tenant changes nothing for who waits. -/
theorem setDefaultTenant_pending {t : Option Tenant} (heq : a.setDefaultTenant t = .ok a') :
    a'.pending = a.pending := by
  unfold setDefaultTenant at heq
  split at heq
  · split at heq
    · simp only [Except.ok.injEq] at heq
      rw [← heq]
    · cases heq
  · simp only [Except.ok.injEq] at heq
    rw [← heq]

end DataPath.Arbiter
