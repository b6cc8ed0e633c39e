import DataPath.Proofs.Arbiter.Discipline

/-!
# Activations that are refused

The arbiter refuses an activation for one of three reasons, and looks for them in this order: there
is no such slot, the radio of the tenant is off, or the class is not the default one and somebody
else carries such a class.  `Rejects` says so without looking for anything: in a conflict the holder
is a tenant that carries a class, and no other one that does has a lower slot.  That the first
rival the arbiter finds is the lowest one (`rival?_eq_some_iff`) needs that every watch stands in
the slot of its tenant, which is so after every run.

A refusal comes before everything that an activation may do.  So the refused activation leaves
nothing behind but the event that tells of it, while one that is accepted is started or forwarded
under a new grant, and tells of no refusal: what it displaces is told as such, and whoever it lets
onto the data path waited with nobody else (`NoRejection`).  `judged_of_run` puts this together.
-/

namespace DataPath.Arbiter

variable {a a' : Arbiter} {t u holder : Tenant} {c : DataClass} {new fs : List Effect}

/-! ## Why an activation is refused -/

/-- A tenant was last seen with a connected class other than the default one. -/
def Carries (a : Arbiter) (u : Tenant) : Prop :=
  ∃ m, a.lastSeen? u = some m ∧ ∃ d, d ∈ m.connected ∧ d ≠ .default

/-- The reason for which an activation is refused. -/
inductive Rejects (a : Arbiter) (t : Tenant) (c : DataClass) : Refusal → Prop where
  /-- There is no such slot. -/
  | unknown (hunknown : a.knows t = false) : Rejects a t c (.unknownTenant t)
  /-- The radio was last seen off. -/
  | radioOff (m : Snapshot) (hseen : a.lastSeen? t = some m) (hoff : m.radio = .off) :
      Rejects a t c (.radioOff t)
  /-- The class is not the default one, and this is the lowest of the others with such a class. -/
  | conflict (m : Snapshot) (holder : Tenant) (hseen : a.lastSeen? t = some m)
      (hon : m.radio ≠ .off) (hclass : c ≠ .default) (hother : holder ≠ t)
      (hcarries : a.Carries holder)
      (hleast : ∀ u, u ≠ t → a.Carries u → holder.slot ≤ u.slot) :
      Rejects a t c (.conflict c holder)

/-! ## The lowest rival -/

theorem holdsNonDefault_iff (m : Snapshot) :
    m.holdsNonDefault = true ↔ ∃ d, d ∈ m.connected ∧ d ≠ .default := by
  simp [Snapshot.holdsNonDefault, ClassSet.hasNonDefault, DataClass.isDefault]

/-- The rival that is found is the lowest of the other tenants that carry a class. -/
theorem rival?_eq_some (hplaced : Placed a.watches) (h : a.rival? t = some holder) :
    holder ≠ t ∧ a.Carries holder ∧ ∀ u, u ≠ t → a.Carries u → holder.slot ≤ u.slot := by
  obtain ⟨m, hfound, rfl⟩ := Option.map_eq_some_iff.1 h
  obtain ⟨hrival, i, hi, hm, hbefore⟩ := List.find?_eq_some_iff_getElem.1 hfound
  have hseen : ∀ u : Tenant, a.lastSeen? u = (a.watches.map Watch.lastSeen)[u.slot]? := by
    intro u
    rw [List.getElem?_map]
    rfl
  have htenant : ∀ (j : Nat) (n : Snapshot), a.lastSeen? ⟨j⟩ = some n → n.tenant = ⟨j⟩ := by
    intro j n hn
    obtain ⟨w, hw, rfl⟩ := Option.map_eq_some_iff.1 hn
    exact hplaced j w hw
  have him : a.lastSeen? ⟨i⟩ = some m := by
    rw [hseen, ← hm]
    exact List.getElem?_eq_getElem hi
  rw [htenant i m him]
  obtain ⟨hother, hholds⟩ : m.tenant ≠ t ∧ m.holdsNonDefault = true := by simpa using hrival
  rw [htenant i m him] at hother
  refine ⟨hother, ⟨m, him, (holdsNonDefault_iff m).1 hholds⟩, ?_⟩
  rintro ⟨j⟩ hne ⟨n, hn, hcarries⟩
  show i ≤ j
  -- A tenant in a lower slot would have been found before.
  by_contra hlt
  have hj : j < i := Nat.lt_of_not_le hlt
  have hlen : j < (a.watches.map Watch.lastSeen).length := Nat.lt_trans hj hi
  have hnj : (a.watches.map Watch.lastSeen)[j] = n := by
    have hget := (hseen ⟨j⟩).symm.trans hn
    exact (List.getElem?_eq_some_iff.1 hget).2
  have hskipped := hbefore j hj
  rw [hnj] at hskipped
  have hno : n.tenant = t ∨ n.holdsNonDefault = false := by simpa using hskipped
  rcases hno with hsame | hholds
  · exact hne ((htenant j n hn).symm.trans hsame)
  · rw [(holdsNonDefault_iff n).2 hcarries] at hholds
    cases hholds

theorem rival?_eq_some_iff (hplaced : Placed a.watches) :
    a.rival? t = some holder ↔
      holder ≠ t ∧ a.Carries holder ∧ ∀ u, u ≠ t → a.Carries u → holder.slot ≤ u.slot := by
  constructor
  · exact rival?_eq_some hplaced
  · rintro ⟨hother, ⟨m, hm, hcarries⟩, hleast⟩
    obtain ⟨w, hw, rfl⟩ := Option.map_eq_some_iff.1 hm
    have htenant : w.lastSeen.tenant = holder := hplaced holder.slot w hw
    -- Somebody is found, as there is a rival, and both are the lowest.
    have hsome : (a.rival? t).isSome = true := by
      unfold rival?
      rw [Option.isSome_map, List.find?_isSome]
      refine ⟨w.lastSeen, List.mem_map_of_mem (List.mem_of_getElem? hw), ?_⟩
      simp [htenant, hother, (holdsNonDefault_iff _).2 hcarries]
    obtain ⟨found, hfound⟩ := Option.isSome_iff_exists.1 hsome
    obtain ⟨hne, hfoundCarries, hlowest⟩ := rival?_eq_some hplaced hfound
    have hle : holder.slot ≤ found.slot := hleast found hne hfoundCarries
    have hge : found.slot ≤ holder.slot := hlowest holder hother ⟨_, hm, hcarries⟩
    have heq : found.slot = holder.slot := by omega
    rw [hfound]
    exact congrArg (fun i => some (Tenant.mk i)) heq

/-- The arbiter finds the reason for which an activation is refused, and no other. -/
theorem refusal?_eq_some_iff (hplaced : Placed a.watches) (r : Refusal) :
    a.refusal? t c = some r ↔ Rejects a t c r := by
  unfold refusal?
  cases hm : a.lastSeen? t with
  | none =>
    have hunknown : a.knows t = false := by
      by_contra hknown
      obtain ⟨w, hw⟩ := exists_watch (by simpa using hknown)
      rw [lastSeen?, hw] at hm
      cases hm
    constructor
    · intro h
      obtain rfl := Option.some.inj h
      exact .unknown hunknown
    · intro h
      cases h with
      | unknown => rfl
      | radioOff m hseen => simp [hseen] at hm
      | conflict m holder hseen => simp [hseen] at hm
  | some m =>
    have hsame : ∀ n, a.lastSeen? t = some n → n = m := by
      intro n hn
      rw [hm, Option.some.injEq] at hn
      exact hn.symm
    have hoff : m.radio.isOff = true ↔ m.radio = .off := by simp [Radio.isOff]
    have hdefault : c.isDefault = true ↔ c = .default := by simp [DataClass.isDefault]
    simp only [hoff, hdefault]
    constructor
    · intro h
      by_cases hradio : m.radio = .off
      · rw [if_pos hradio] at h
        obtain rfl := Option.some.inj h
        exact .radioOff m hm hradio
      · by_cases hclass : c = .default
        · rw [if_neg hradio, if_pos hclass] at h
          cases h
        · rw [if_neg hradio, if_neg hclass] at h
          obtain ⟨holder, hrival, rfl⟩ := Option.map_eq_some_iff.1 h
          obtain ⟨hother, hcarries, hleast⟩ := (rival?_eq_some_iff hplaced).1 hrival
          exact .conflict m holder hm hradio hclass hother hcarries hleast
    · intro h
      cases h with
      | unknown hunknown =>
        rw [knows_of_lastSeen hm] at hunknown
        cases hunknown
      | radioOff n hseen hradio =>
        rw [if_pos (hsame n hseen ▸ hradio)]
      | conflict n holder hseen hon hclass hother hcarries hleast =>
        rw [if_neg (hsame n hseen ▸ hon), if_neg hclass,
          (rival?_eq_some_iff hplaced).2 ⟨hother, hcarries, hleast⟩]
        rfl

/-! ## Activations that are accepted -/

/-- None of these effects tells that an activation is refused. -/
def NoRejection (es : List Effect) : Prop :=
  ∀ u d r, .event (.activationRejected u d r) ∉ es

theorem noRejection_nil : NoRejection [] := fun _ _ _ => List.not_mem_nil

theorem NoRejection.append (h : NoRejection new) (h' : NoRejection fs) :
    NoRejection (new ++ fs) := by
  intro u d r hmem
  rcases List.mem_append.1 hmem with hmem | hmem
  · exact h u d r hmem
  · exact h' u d r hmem

theorem noRejection_singleton {e : Effect} (h : ∀ u d r, e ≠ .event (.activationRejected u d r)) :
    NoRejection [e] := by
  intro u d r hmem
  exact h u d r (List.mem_singleton.1 hmem).symm

theorem noRejection_connectsFrom (t : Tenant) (n : Nat) (cs : List DataClass) :
    NoRejection (connectsFrom t n cs) := by
  induction cs generalizing n with
  | nil => exact noRejection_nil
  | cons c cs ih =>
    have hfirst : NoRejection [.connect t c ⟨n + 1⟩] := noRejection_singleton nofun
    exact hfirst.append (ih (n + 1))

/-- Nobody is refused by settling while nobody waits. -/
theorem Settles.noRejection (hs : Settles a a') (hnobody : a.pending = none) :
    ∃ new, a'.outbox = a.outbox ++ new ∧ NoRejection new := by
  cases hs with
  | rests => exact ⟨[], (List.append_nil _).symm, noRejection_nil⟩
  | again o => exact ⟨_, rfl, noRejection_connectsFrom o _ _⟩
  | cleans o howner hpending => exact absurd hnobody hpending
  | frees o => exact ⟨_, rfl, noRejection_singleton nofun⟩
  | refuses o p howner hphase hnone hpending =>
    rw [hnobody] at hpending
    cases hpending
  | grants o p howner hphase hnone hpending =>
    rw [hnobody] at hpending
    cases hpending

/-- An activation is started or goes to the switch, and no refusal is told. -/
def Accepted (a a' : Arbiter) (verdict : Verdict) : Prop :=
  (verdict = .reply .started ∨ ∃ g, verdict = .forward (some g)) ∧
    ∃ new, a'.outbox = a.outbox ++ new ∧ NoRejection new

theorem accepted_activateOwner (h : a.Orderly) (c : DataClass) (howner : a.owner = some t) :
    Accepted a (a.activateOwner t c).1 (a.activateOwner t c).2 := by
  unfold activateOwner
  split
  · refine ⟨.inl rfl, ?_⟩
    simp only
    have hqueued := h.queued howner (a.reacquire.insert c)
    cases hp : a.pending with
    | none => exact (settles (hqueued a.outbox)).noRejection rfl
    | some p =>
      have hreplaced : NoRejection [.event (.pendingReplaced p.tenant t)] :=
        noRejection_singleton nofun
      obtain ⟨new, hout, hnew⟩ :=
        (settles (hqueued (a.outbox ++ [.event (.pendingReplaced p.tenant t)]))).noRejection rfl
      refine ⟨_, ?_, hreplaced.append hnew⟩
      rw [← List.append_assoc]
      exact hout
  · exact ⟨.inr ⟨_, rfl⟩, [], (List.append_nil _).symm, noRejection_nil⟩

theorem accepted_await (a : Arbiter) (t o : Tenant) (c : DataClass) :
    Accepted a (({ a.await t c with reacquire := ∅ } : Arbiter).requestCleanup o)
      (.reply .started) := by
  obtain ⟨p, events, heq, -, -, -, hreplaced⟩ := a.await_eq t c
  have hevents : NoRejection (events.map fun e => .event e) := by
    intro u d r hmem
    obtain ⟨e, he, hrejected⟩ := List.mem_map.1 hmem
    obtain ⟨v, rfl⟩ := hreplaced e he
    cases hrejected
  refine ⟨.inl rfl, ?_⟩
  rw [heq, requestCleanup]
  split
  · exact ⟨_, rfl, hevents⟩
  · refine ⟨_, List.append_assoc _ _ _, hevents.append (noRejection_singleton ?_)⟩
    nofun

/-- An activation that is not refused is accepted. -/
theorem accepted_activate (h : a.Orderly) (hno : a.refusal? t c = none) :
    Accepted a (a.activate t c).1 (a.activate t c).2 := by
  rw [activate, hno]
  simp only
  split
  · next hfree =>
    have hne : a.owner ≠ some t := by simp [hfree]
    rw [setOwner_eq _ hne]
    exact ⟨.inr ⟨_, rfl⟩, _, rfl, noRejection_singleton nofun⟩
  · next o howner =>
    split
    · next heq =>
      subst heq
      exact accepted_activateOwner h c howner
    · exact accepted_await a t o c

/-! ## What becomes of an activation -/

/-- An activation that there is a reason against is refused for it. -/
theorem activate_of_rejects (hplaced : Placed a.watches) {r : Refusal} (hr : Rejects a t c r) :
    a.activate t c = a.reject t c r := by
  rw [activate, (refusal?_eq_some_iff hplaced r).2 hr]

/-- One that there is no reason against is accepted. -/
theorem accepted_of_not_rejects (h : a.Orderly) (hplaced : Placed a.watches)
    (hno : ∀ r, ¬Rejects a t c r) : Accepted a (a.activate t c).1 (a.activate t c).2 := by
  refine accepted_activate h ?_
  rw [Option.eq_none_iff_forall_ne_some]
  exact fun r hr => hno r ((refusal?_eq_some_iff hplaced r).1 hr)

/-- The caller is told of a failure exactly if there is that reason. -/
theorem activate_failed_iff (h : a.Orderly) (hplaced : Placed a.watches) (r : Refusal) :
    (a.activate t c).2 = .reply (.failed r) ↔ Rejects a t c r := by
  constructor
  · intro hfailed
    by_cases hany : ∃ r', Rejects a t c r'
    · obtain ⟨r', hr'⟩ := hany
      rw [activate_of_rejects hplaced hr'] at hfailed
      cases hfailed
      exact hr'
    · obtain ⟨hverdict, -⟩ := accepted_of_not_rejects h hplaced (not_exists.1 hany)
      rw [hfailed] at hverdict
      rcases hverdict with hstarted | ⟨g, hforward⟩
      · cases hstarted
      · cases hforward
  · intro hr
    rw [activate_of_rejects hplaced hr]
    rfl

/-! ## After every run -/

/-- What becomes of an activation after a run. -/
structure Judged (config : ArbiterConfig) (ops : List Operation) (t : Tenant) (c : DataClass) :
    Prop where
  /-- The caller is answered with a failure exactly if there is a reason to refuse. -/
  failed : ∀ r, ((run config ops).activate t c).2 = .reply (.failed r) ↔
    Rejects (run config ops) t c r
  /-- Then one event tells of it with the tenant, the class and the reason, and nothing else
  changes. -/
  untouched : ∀ r, Rejects (run config ops) t c r →
    (run config ops).emitted (.activate t c) = [.event (.activationRejected t c r)] ∧
      ((run config ops).activate t c).1 = { run config ops with
        outbox := (run config ops).outbox ++ [.event (.activationRejected t c r)] }
  /-- Otherwise the activation is started, or forwarded under a grant that was never handed out
  before and is outstanding now. -/
  accepted : (∀ r, ¬Rejects (run config ops) t c r) →
    ((run config ops).activate t c).2 = .reply .started ∨
      ∃ g, ((run config ops).activate t c).2 = .forward (some g) ∧
        (∀ later, ¬Handed config ops g later) ∧
        g ∈ ((run config ops).activate t c).1.outstanding
  /-- And no refusal is told, of this activation or of another. -/
  silent : (∀ r, ¬Rejects (run config ops) t c r) →
    NoRejection ((run config ops).emitted (.activate t c))

/-- After every run, an activation is refused for exactly the reasons there are, and a refusal
changes nothing. -/
theorem judged_of_run (config : ArbiterConfig) (ops : List Operation) (t : Tenant)
    (c : DataClass) : Judged config ops t c := by
  have horderly := orderly_run config ops
  have hplaced := (placed_run config ops).1
  constructor
  · exact activate_failed_iff horderly hplaced
  · intro r hr
    have hafter : ((run config ops).activate t c).1 = { run config ops with
        outbox := (run config ops).outbox ++ [.event (.activationRejected t c r)] } := by
      rw [activate_of_rejects hplaced hr]
      rfl
    exact ⟨emitted_eq (congrArg outbox hafter), hafter⟩
  · intro hno
    obtain ⟨hverdict, -⟩ := accepted_of_not_rejects horderly hplaced hno
    refine hverdict.imp_right ?_
    rintro ⟨g, hforward⟩
    have hnew : g ∈ (run config ops).handedOut (.activate t c) := by
      refine List.mem_append_right _ ?_
      show g ∈ (((run config ops).activate t c).2.grants.map fun g => (t, g)).map Prod.snd
      rw [hforward]
      exact List.mem_singleton_self g
    exact ⟨g, hforward, fun later => not_handed_of_handedOut hnew,
      (mem_outstanding_after horderly).2 (.inr hnew)⟩
  · intro hno
    obtain ⟨-, new, hout, hnew⟩ := accepted_of_not_rejects horderly hplaced hno
    have hemits : (run config ops).emitted (.activate t c) = new := emitted_eq hout
    rw [hemits]
    exact hnew

/-- Two of four slots carry a class, and the lower one is named to the third that wants one; who
waits for the data path waits on. -/
example :
    let carrying (slot : Nat) : Operation := .hear (.updated { Snapshot.idle ⟨slot⟩ with
      phase := .active, connected := ClassSet.empty.insert .mms })
    let a := run { tenantCount := 4 } [.activate ⟨1⟩ .default, .activate ⟨3⟩ .default, carrying 2,
      carrying 1]
    (a.activate ⟨0⟩ .supl).2 = .reply (.failed (.conflict .supl ⟨1⟩)) ∧
      (a.activate ⟨0⟩ .supl).1.pending = some ⟨⟨3⟩, ClassSet.empty.insert .default⟩ := by
  decide +kernel

end DataPath.Arbiter
