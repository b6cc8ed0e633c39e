import DataPath.Proofs.Arbiter.Run
import DataPath.Proofs.Arbiter.Waiting

/-!
# No parked class is lost

A class that cannot be connected at once is parked in one of two places: with who waits for the
data path (`Waits`), or with an owner that has to finish its release first (`Asks`).  Several
operations empty these places, and ownership may move in between.  Here is said, for every
operation after every run of the arbiter alone, what can become of a parked class: by
`fates_of_parked` it stays, or is connected exactly once, or its end is announced or was wanted.

A class of who waits ends up refused because the radio is off, or displaced by the activation of
somebody else, or withdrawn.  A class of the owner ends up withdrawn, or given up because
another tenant wants in.

For who waits, `Waiting` has the cases already.  For the owner they are simpler: with something
to ask for, nobody else waits, so that settling can only rest or connect.
-/

namespace DataPath.Arbiter

variable {a a' mid : Arbiter} {p : Pending} {t u : Tenant} {c d : DataClass} {new : List Effect}
  {op : Operation}

/-- The owner will be connected again with a class that it asked for. -/
def Asks (a : Arbiter) (t : Tenant) (c : DataClass) : Prop :=
  a.owner = some t ∧ c ∈ a.reacquire

/-! ## The fates of a parked class -/

/-- What becomes in an operation of a class with which a tenant waits. -/
inductive WaitFate (a : Arbiter) (op : Operation) (t : Tenant) (c : DataClass) : Prop where
  /-- It waits on. -/
  | waits (h : (a.after op).Waits t c)
  /-- It is connected, once. -/
  | connected (h : connectCount t c (a.emitted op) = 1)
  /-- It is refused, as the radio is off. -/
  | refused (h : .event (.activationRejected t c (.radioOff t)) ∈ a.emitted op)
  /-- Another tenant takes the place of the one that waits. -/
  | displaced (u : Tenant) (h : .event (.pendingReplaced t u) ∈ a.emitted op)
  /-- It is withdrawn. -/
  | withdrawn (h : op = .deactivate t c)

/-- What becomes in an operation of a class that the owner asks for. -/
inductive AskFate (a : Arbiter) (op : Operation) (t : Tenant) (c : DataClass) : Prop where
  /-- The owner asks on. -/
  | asks (h : (a.after op).Asks t c)
  /-- It is connected, once. -/
  | connected (h : connectCount t c (a.emitted op) = 1)
  /-- It is withdrawn. -/
  | withdrawn (h : op = .deactivate t c)
  /-- Another tenant wants in, and its activation is accepted. -/
  | overruled (u : Tenant) (d : DataClass) (hne : u ≠ t) (hop : op = .activate u d)
      (haccepted : a.refusal? u d = none)

/-! ## A class with which a tenant waits -/

theorem KeptOrServed.waitFate (h : KeptOrServed a p (a.after op))
    (hout : (a.absorb op).outbox = a.outbox) (hc : c ∈ p.classes) :
    WaitFate a op p.tenant c := by
  obtain ⟨new, hnew, hkept | hserved⟩ := h
  · exact .waits ⟨p, hkept, rfl, hc⟩
  · rw [← hout] at hnew
    cases hserved with
    | granted _ heq =>
      refine .connected ?_
      rw [emitted_eq hnew, heq, connectCount_event, connectCount_toList, if_pos ⟨rfl, hc⟩]
    | refused _ heq =>
      refine .refused ?_
      rw [emitted_eq hnew, heq]
      exact List.mem_cons_of_mem _ (List.mem_map_of_mem (ClassSet.mem_toList.2 hc))

/-- Every operation leads a class with which a tenant waits to one of its fates. -/
theorem waitFate (h : a.Orderly) (op : Operation) (hw : a.Waits t c) : WaitFate a op t c := by
  obtain ⟨p, hp, rfl, hc⟩ := id hw
  cases op with
  | activate u d =>
    rcases activate_waits h hw u d with hstays | ⟨-, -, more, hout⟩
    · exact .waits hstays
    · have hemits : a.emitted (.activate u d) = .event (.pendingReplaced p.tenant u) :: more :=
        emitted_eq hout
      exact .displaced u (hemits ▸ List.mem_cons_self)
  | deactivate u d =>
    rcases deactivate_waits hw u d with hstays | ⟨rfl, rfl, -⟩
    · exact .waits hstays
    · exact .withdrawn rfl
  | setDefaultTenant u =>
    obtain ⟨config, heq⟩ := a.exists_setDefaultTenant_eq u
    exact .waits ⟨p, (congrArg Arbiter.pending heq).trans hp, rfl, hc⟩
  | grantAnswered g => exact (grantAnswered_keptOrServed h hp g).waitFate rfl hc
  | cleanupAnswered u outcome => exact (cleanupAnswered_keptOrServed h hp u outcome).waitFate rfl hc
  | hear n => exact (hear_keptOrServed h hp n).waitFate rfl hc
  | drain => exact .waits ⟨p, hp, rfl, hc⟩

/-! ## A class that the owner asks for -/

/-- The owner asks on for a class, or gets it. -/
def AskedOrPaid (a : Arbiter) (t : Tenant) (c : DataClass) (a' : Arbiter) : Prop :=
  ∃ new, a'.outbox = a.outbox ++ new ∧ (a'.Asks t c ∨ connectCount t c new = 1)

theorem AskedOrPaid.congr (h : AskedOrPaid mid t c a') (hout : mid.outbox = a.outbox) :
    AskedOrPaid a t c a' := by
  obtain ⟨new, heq, hcase⟩ := h
  exact ⟨new, hout ▸ heq, hcase⟩

theorem AskedOrPaid.askFate (h : AskedOrPaid (a.absorb op) t c (a.after op)) : AskFate a op t c := by
  obtain ⟨new, hnew, hasks | hpaid⟩ := h
  · exact .asks hasks
  · exact .connected (by rwa [emitted_eq hnew])

theorem Asks.reacquire_ne_empty (ha : a.Asks t c) : a.reacquire ≠ ∅ :=
  fun hempty => ClassSet.not_mem_empty c (hempty ▸ ha.2)

/-- With something to ask for, nobody else waits. -/
theorem Asks.pending_eq_none (ha : a.Asks t c) (h : a.Orderly) : a.pending = none :=
  Option.eq_none_iff_forall_not_mem.2 fun p hp => ha.reacquire_ne_empty (h.pending p hp).2.2.2

/-- With something to ask for, settling rests or connects. -/
theorem Settles.askedOrPaid (h : a.Orderly) (hs : Settles a a') (ha : a.Asks t c) :
    AskedOrPaid a t c a' := by
  obtain ⟨howner, hc⟩ := id ha
  have halone := ha.pending_eq_none h
  cases hs with
  | rests => exact ⟨[], by simp, .inl ⟨howner, hc⟩⟩
  | again o ho =>
    have heq : o = t := by simpa [ho] using howner
    subst heq
    exact ⟨_, rfl, .inr (by rw [connectCount_toList, if_pos ⟨rfl, hc⟩])⟩
  | cleans o _ hpending => exact absurd halone hpending
  | frees o _ _ _ _ hnothing => exact absurd hnothing ha.reacquire_ne_empty
  | refuses o p _ _ _ hpending | grants o p _ _ _ hpending =>
    rw [halone] at hpending
    cases hpending

/-- An activation of the owner adds to what it asks for, and nothing is lost. -/
theorem activateOwner_askedOrPaid (h : a.Orderly) (ha : a.Asks t c) (d : DataClass) :
    AskedOrPaid a t c (a.activateOwner t d).1 := by
  obtain ⟨howner, hc⟩ := id ha
  have hmem : c ∈ a.reacquire.insert d := ClassSet.mem_insert.2 (.inr hc)
  unfold activateOwner
  split
  · have horderly := h.queued howner (a.reacquire.insert d) a.outbox
    simp only [ha.pending_eq_none h]
    exact ((settles horderly).askedOrPaid horderly ⟨howner, hmem⟩).congr rfl
  · exact ⟨[], by simp [forwardConnect, issueGrant], .inl ha⟩

/-- A deactivation withdraws the class that it names, and no other. -/
theorem deactivate_asks (ha : a.Asks t c) (u : Tenant) (d : DataClass) :
    (a.deactivate u d).1.Asks t c ∨ u = t ∧ d = c := by
  obtain ⟨howner, hc⟩ := ha
  have howner' : (a.withdraw u d).owner = some t := by
    rcases withdraw_cases a u d with heq | ⟨p, -, -, heq⟩ | ⟨p, -, -, -, heq⟩ <;>
      rw [heq] <;> exact howner
  have hc' : c ∈ (a.withdraw u d).reacquire := by
    rcases withdraw_cases a u d with heq | ⟨p, -, -, heq⟩ | ⟨p, -, -, -, heq⟩ <;>
      rw [heq] <;> exact hc
  unfold deactivate
  split
  · exact .inl ⟨howner, hc⟩
  · simp only
    split
    · next hown =>
      rw [howner', Option.some.injEq] at hown
      by_cases hdc : d = c
      · exact .inr ⟨hown.symm, hdc⟩
      · exact .inl ⟨howner', ClassSet.mem_erase.2 ⟨Ne.symm hdc, hc'⟩⟩
    · exact .inl ⟨howner', hc'⟩

/-- Every notice leaves a class asked for, or it is connected. -/
theorem hear_askedOrPaid (h : a.Orderly) (ha : a.Asks t c) (n : Notice) :
    AskedOrPaid (a.absorb (.hear n)) t c (a.hear n) := by
  cases n with
  | updated s => exact ⟨[], by simp [hear, hearUpdated, absorb, amend], .inl ha⟩
  | radioChanged u source radio =>
    have howned : a.owner ≠ none := by simp [ha.1]
    obtain ⟨f, heq⟩ := hearRadio_eq_amend howned u radio
    have hheard : a.hear (.radioChanged u source radio) = a.amend u f := heq
    rw [hheard]
    exact ⟨[], by simp [absorb, amend], .inl ha⟩
  | enteredIdle u replaying =>
    unfold hear hearIdle
    simp only
    split
    · have hnoted : (a.absorb (.hear (.enteredIdle u replaying))).Orderly := h.amend u _
      exact ((settles hnoted.unasked).askedOrPaid hnoted.unasked ha).congr rfl
    · exact ⟨[], by simp [absorb, amend], .inl ha⟩

/-- Every operation leads a class that the owner asks for to one of its fates. -/
theorem askFate (h : a.Orderly) (op : Operation) (ha : a.Asks t c) : AskFate a op t c := by
  cases op with
  | activate u d =>
    cases hrefusal : a.refusal? u d with
    | some reason =>
      refine .asks ?_
      simpa [after, activate, hrefusal, reject, publish, emit, Asks] using ha
    | none =>
      by_cases heq : u = t
      · subst heq
        have hown : a.activate u d = a.activateOwner u d := by simp [activate, hrefusal, ha.1]
        refine AskedOrPaid.askFate ?_
        simpa [after, hown, absorb] using activateOwner_askedOrPaid h ha d
      · exact .overruled u d heq rfl hrefusal
  | deactivate u d =>
    rcases deactivate_asks ha u d with hasks | ⟨rfl, rfl⟩
    · exact .asks hasks
    · exact .withdrawn rfl
  | setDefaultTenant u =>
    obtain ⟨config, heq⟩ := a.exists_setDefaultTenant_eq u
    refine .asks ?_
    rw [after, heq]
    exact ha
  | grantAnswered g =>
    refine AskedOrPaid.askFate ?_
    rw [after, grantAnswered]
    split
    · exact (settles (h.without g)).askedOrPaid (h.without g) ha
    · exact ⟨[], by simp [absorb, without], .inl ha⟩
  | cleanupAnswered u outcome =>
    refine AskedOrPaid.askFate ?_
    rw [after, cleanupAnswered]
    split
    · exact ((settles h.unasked).askedOrPaid h.unasked ha).congr rfl
    · exact ⟨[], by simp [absorb], .inl ha⟩
  | hear n => exact (hear_askedOrPaid h ha n).askFate
  | drain => exact .asks ha

/-! ## Every run -/

/-- After every run, every operation leads a parked class to one of its fates. -/
theorem fates_of_parked (config : ArbiterConfig) (ops : List Operation) (op : Operation)
    (t : Tenant) (c : DataClass) :
    ((run config ops).Waits t c → WaitFate (run config ops) op t c) ∧
      ((run config ops).Asks t c → AskFate (run config ops) op t c) :=
  ⟨waitFate (orderly_run config ops) op, askFate (orderly_run config ops) op⟩

/-- The answer that lets the owner go connects who waited; had the owner asked again, it would
have connected the owner. -/
example :
    let a := run {} [.activate ⟨0⟩ .default, .activate ⟨1⟩ .mms, .hear (.enteredIdle ⟨0⟩ [])]
    let b := run {} [.activate ⟨0⟩ .default, .activate ⟨1⟩ .mms, .activate ⟨0⟩ .supl,
      .hear (.enteredIdle ⟨0⟩ [])]
    a.Waits ⟨1⟩ .mms ∧ connectCount ⟨1⟩ .mms (a.emitted (.grantAnswered ⟨1⟩)) = 1 ∧
      b.Asks ⟨0⟩ .supl ∧ connectCount ⟨0⟩ .supl (b.emitted (.grantAnswered ⟨1⟩)) = 1 := by
  refine ⟨⟨⟨⟨1⟩, .ofList [.mms]⟩, ?_⟩, ?_, ⟨?_, ?_⟩, ?_⟩ <;> decide +kernel

end DataPath.Arbiter
