import DataPath.Proofs.Arbiter.Settle
import Mathlib.Data.List.Nodup

/-!
# Turns of the arbiter

Whenever the arbiter has taken something in, it has sent some connects, each under a new
grant, and has asked the owner to clean up, or not.  A `Turn` says what that means for its
records.

* Grants become outstanding as they are sent, and go only to the owner.
* The owner changes only when it was last seen idle and has no grant outstanding, or when
  there was none.
* What the arbiter owes, the classes that wait for the data path with their tenant or with
  the owner, is paid by connects; a turn adds no more than one class to it.
-/

namespace DataPath.Arbiter

variable {a a' : Arbiter}

/-! ## What is sent -/

/-- A connect under a grant. -/
structure Sending where
  tenant : Tenant
  dataClass : DataClass
  grant : Grant
  deriving DecidableEq, Repr

/-- The connect that an effect sends. -/
def Effect.sending? : Effect → Option Sending
  | .connect t c g => some ⟨t, c, g⟩
  | _ => none

/-- The tenant that an effect asks to clean up. -/
def Effect.cleaned? : Effect → Option Tenant
  | .cleanupAll t => some t
  | _ => none

/-- The connects that effects send. -/
def sendings (es : List Effect) : List Sending := es.filterMap Effect.sending?

/-- The tenants that effects ask to clean up. -/
def cleaned (es : List Effect) : List Tenant := es.filterMap Effect.cleaned?

@[simp] theorem sendings_nil : sendings [] = [] := rfl

@[simp] theorem cleaned_nil : cleaned [] = [] := rfl

@[simp] theorem sendings_append (es fs : List Effect) :
    sendings (es ++ fs) = sendings es ++ sendings fs := List.filterMap_append

@[simp] theorem cleaned_append (es fs : List Effect) :
    cleaned (es ++ fs) = cleaned es ++ cleaned fs := List.filterMap_append

@[simp] theorem sendings_event (e : Event) (es : List Effect) :
    sendings (.event e :: es) = sendings es := rfl

@[simp] theorem cleaned_event (e : Event) (es : List Effect) :
    cleaned (.event e :: es) = cleaned es := rfl

@[simp] theorem sendings_connect (t : Tenant) (c : DataClass) (g : Grant) (es : List Effect) :
    sendings (.connect t c g :: es) = ⟨t, c, g⟩ :: sendings es := rfl

@[simp] theorem cleaned_connect (t : Tenant) (c : DataClass) (g : Grant) (es : List Effect) :
    cleaned (.connect t c g :: es) = cleaned es := rfl

@[simp] theorem sendings_cleanupAll (t : Tenant) (es : List Effect) :
    sendings (.cleanupAll t :: es) = sendings es := rfl

@[simp] theorem cleaned_cleanupAll (t : Tenant) (es : List Effect) :
    cleaned (.cleanupAll t :: es) = t :: cleaned es := rfl

@[simp] theorem sendings_map_event {α : Type} (f : α → Event) (l : List α) :
    sendings (l.map fun x => .event (f x)) = [] := by
  induction l with
  | nil => rfl
  | cons x l ih => simpa using ih

@[simp] theorem cleaned_map_event {α : Type} (f : α → Event) (l : List α) :
    cleaned (l.map fun x => .event (f x)) = [] := by
  induction l with
  | nil => rfl
  | cons x l ih => simpa using ih

@[simp] theorem cleaned_connectsFrom (t : Tenant) (n : Nat) (cs : List DataClass) :
    cleaned (connectsFrom t n cs) = [] := by
  induction cs generalizing n with
  | nil => rfl
  | cons c cs ih => simpa [connectsFrom] using ih (n + 1)

/-- Connects of a list of classes carry the next grants. -/
theorem map_grant_connectsFrom (t : Tenant) (n : Nat) (cs : List DataClass) :
    (sendings (connectsFrom t n cs)).map Sending.grant = grantsFrom n cs := by
  induction cs generalizing n with
  | nil => rfl
  | cons c cs ih => simpa [connectsFrom, grantsFrom] using ih (n + 1)

theorem tenant_of_mem_connectsFrom {t : Tenant} {n : Nat} {cs : List DataClass} {e : Sending}
    (h : e ∈ sendings (connectsFrom t n cs)) : e.tenant = t := by
  induction cs generalizing n with
  | nil => cases h
  | cons c cs ih =>
    rcases List.mem_cons.1 h with rfl | h
    · rfl
    · exact ih h

@[simp] theorem length_sendings_connectsFrom (t : Tenant) (n : Nat) (cs : List DataClass) :
    (sendings (connectsFrom t n cs)).length = cs.length := by
  have h := congrArg List.length (map_grant_connectsFrom t n cs)
  simpa using h

/-! ## Counting connects -/

/-- How many connects of a class on a tenant there are among effects. -/
def connectCount (t : Tenant) (c : DataClass) (es : List Effect) : Nat :=
  (sendings es).countP fun e => e.tenant = t ∧ e.dataClass = c

@[simp] theorem connectCount_event (t : Tenant) (c : DataClass) (e : Event) (es : List Effect) :
    connectCount t c (.event e :: es) = connectCount t c es := rfl

theorem connectCount_connectsFrom (t u : Tenant) (c : DataClass) (n : Nat) (cs : List DataClass) :
    connectCount u c (connectsFrom t n cs) = if u = t then cs.count c else 0 := by
  unfold connectCount
  induction cs generalizing n with
  | nil => simp [connectsFrom]
  | cons d cs ih =>
    rw [connectsFrom, sendings_connect, List.countP_cons, ih, List.count_cons]
    by_cases htenant : u = t
    · simp [htenant]
    · simp [htenant, Ne.symm htenant]

/-- A set of classes is connected class by class, each of them once. -/
theorem connectCount_toList (t u : Tenant) (c : DataClass) (n : Nat) (s : ClassSet) :
    connectCount u c (connectsFrom t n s.toList) = if u = t ∧ c ∈ s then 1 else 0 := by
  rw [connectCount_connectsFrom, s.nodup_toList.count, ite_and]
  simp only [ClassSet.mem_toList]

/-! ## Turns -/

/-- How many classes wait for the data path. -/
def debt (a : Arbiter) : Nat :=
  (a.pending.elim 0 fun p => p.classes.toList.length) + a.reacquire.toList.length

/-- The arbiter has sent connects and asked for clean-ups, and owes at most so many classes
more than before. -/
structure Turn (more : Nat) (a a' : Arbiter) (sent : List Sending) (asked : List Tenant) :
    Prop where
  watches : a'.watches = a.watches
  outstanding : a'.outstanding = a.outstanding ++ sent.map Sending.grant
  owner : a'.owner = a.owner ∨
    a.outstanding = [] ∧ ∀ o, a.owner = some o → a.phaseOf? o = some .idle
  sending : ∀ e ∈ sent, a'.owner = some e.tenant
  asking : ∀ t ∈ asked, a.owner = some t ∧ a'.owner = some t
  once : asked.length ≤ 1
  live : more = 0 → ∀ t ∈ asked, ∃ p : Phase, a.phaseOf? t = some p ∧ p.isLive = true
  requested : a'.cleanupRequested = true →
    a'.owner = a.owner ∧ a.cleanupRequested = true ∨ ∃ t, t ∈ asked
  debt : sent.length + a'.debt ≤ a.debt + more
  orderly : a'.Orderly
  settled : a'.Settled

/-- An arbiter with other records of what it saw, but the same otherwise. -/
theorem Orderly.of_eq (h : a.Orderly) (howner : a'.owner = a.owner) (hpend : a'.pending = a.pending)
    (hre : a'.reacquire = a.reacquire) (hclean : a'.cleanupRequested = true → a.cleanupRequested = true)
    (hout : a'.outstanding.Sublist a.outstanding) (hlast : a'.lastGrant = a.lastGrant)
    (hlen : a'.watches.length = a.watches.length) : a'.Orderly where
  free ho := by
    obtain ⟨h1, h2, h3, h4⟩ := h.free (howner ▸ ho)
    refine ⟨hpend.trans h1, hre.trans h2, ?_, ?_⟩
    · by_contra hc
      rw [hclean (by simpa using hc)] at h3
      cases h3
    · rw [h4] at hout
      exact List.sublist_nil.1 hout
  known o ho := by
    have := h.known o (howner ▸ ho)
    unfold knows at this ⊢
    rw [hlen]
    exact this
  pending p hp := by
    obtain ⟨h1, h2, h3, h4⟩ := h.pending p (hpend ▸ hp)
    unfold knows at h1 ⊢
    rw [hlen, howner, hre]
    exact ⟨h1, h2, h3, h4⟩
  nodup := h.nodup.sublist hout
  issued g hg := hlast ▸ h.issued g (hout.subset hg)

/-- New grants go to an owner for whom nothing waits. -/
theorem Orderly.grant (h : a.Orderly) {o : Tenant} (cs : List DataClass) (howner : a'.owner = some o)
    (hknown : a.knows o = true) (hpend : a'.pending = none)
    (hlast : a'.lastGrant = a.lastGrant + cs.length)
    (hout : a'.outstanding = a.outstanding ++ grantsFrom a.lastGrant cs)
    (hlen : a'.watches.length = a.watches.length) : a'.Orderly where
  free ho := by
    rw [howner] at ho
    cases ho
  known o' ho' := by
    rw [howner, Option.some.injEq] at ho'
    unfold knows at hknown ⊢
    rw [hlen, ← ho']
    exact hknown
  pending p hp := by
    rw [hpend] at hp
    cases hp
  nodup := by
    rw [hout]
    refine List.Nodup.append h.nodup (nodup_grantsFrom _ _) fun g hg hg' => ?_
    have h1 := h.issued g hg
    have h2 := (serial_of_mem_grantsFrom hg').1
    omega
  issued g hg := by
    rw [hout, List.mem_append] at hg
    rw [hlast]
    rcases hg with hg | hg
    · exact Nat.le_trans (h.issued g hg) (Nat.le_add_right _ _)
    · exact (serial_of_mem_grantsFrom hg).2

/-- An arbiter that waits for the answer to a grant has nothing to settle. -/
theorem settled_of_outstanding (h : a.outstanding ≠ []) : a.Settled :=
  ⟨fun _ _ _ => h, fun _ _ _ => .inr (.inr h)⟩

/-- An arbiter without an owner has nothing to settle. -/
theorem settled_of_free (h : a.owner = none) : a.Settled where
  idle o ho := by
    rw [h] at ho
    cases ho
  waits o ho := by
    rw [h] at ho
    cases ho

theorem grantsFrom_ne_nil {n : Nat} {cs : List DataClass} (h : cs ≠ []) : grantsFrom n cs ≠ [] := by
  intro heq
  have := congrArg List.length heq
  rw [length_grantsFrom] at this
  exact h (List.eq_nil_of_length_eq_zero this)

theorem idle_of_owner {o : Tenant} (howner : a.owner = some o) (hphase : a.phaseOf? o = some .idle) :
    ∀ o', a.owner = some o' → a.phaseOf? o' = some .idle := by
  intro o' ho'
  rw [howner, Option.some.injEq] at ho'
  exact ho' ▸ hphase

/-! ## Settling -/

/-- The owner gets back what it asked for. -/
theorem turn_connectedAgain (h : a.Orderly) {o : Tenant} (howner : a.owner = some o)
    (hpending : a.pending = none) (hsome : ∃ c, c ∈ a.reacquire) :
    Turn 0 a (a.connectedAgain o) (sendings (connectsFrom o a.lastGrant a.reacquire.toList)) [] where
  watches := rfl
  outstanding := by
    rw [map_grant_connectsFrom]
    rfl
  owner := .inl rfl
  sending e he := by
    rw [tenant_of_mem_connectsFrom he]
    exact howner
  asking := by simp
  once := by simp
  live := by simp
  requested hc := .inl ⟨rfl, hc⟩
  debt := by simp [debt, connectedAgain, hpending]
  orderly := h.grant _ howner (h.known o howner) hpending rfl rfl rfl
  settled := by
    refine settled_of_outstanding ?_
    have := grantsFrom_ne_nil (n := a.lastGrant) (ClassSet.toList_ne_nil hsome)
    simp [connectedAgain, this]

/-- A live owner is asked to clean up. -/
theorem turn_cleaning (h : a.Orderly) {o : Tenant} (howner : a.owner = some o)
    (hphase : ∃ p : Phase, a.phaseOf? o = some p ∧ p.isLive = true) :
    Turn 0 a (a.cleaning o) [] [o] where
  watches := rfl
  outstanding := by simp [cleaning]
  owner := .inl rfl
  sending := by simp
  asking := by simpa [cleaning] using howner
  once := by simp
  live _ := by simpa using hphase
  requested _ := .inr ⟨o, by simp⟩
  debt := by simp [debt, cleaning]
  orderly := by
    refine ⟨fun ho => ?_, h.known, h.pending, h.nodup, h.issued⟩
    have ho' : a.owner = none := ho
    rw [howner] at ho'
    cases ho'
  settled := by
    refine ⟨fun o' ho' hi => ?_, fun _ _ _ => .inr (.inl rfl)⟩
    obtain ⟨p, hp, hlive⟩ := hphase
    have ho'' : a.owner = some o' := ho'
    rw [howner, Option.some.injEq] at ho''
    have hi' : a.phaseOf? o' = some .idle := hi
    rw [← ho'', hp, Option.some.injEq] at hi'
    rw [hi'] at hlive
    cases hlive

/-- The data path of an idle owner without grants is let go, and nobody waits any longer. -/
theorem turn_vacated (h : a.Orderly) (hidle : ∀ o, a.owner = some o → a.phaseOf? o = some .idle)
    (hnone : a.outstanding = []) (howner : a'.owner = none) (hpending : a'.pending = none)
    (hreacquire : a'.reacquire = ∅) (hclean : a'.cleanupRequested = false)
    (hout : a'.outstanding = a.outstanding) (hwatches : a'.watches = a.watches) :
    Turn 0 a a' [] [] where
  watches := hwatches
  outstanding := by simpa using hout
  owner := .inr ⟨hnone, hidle⟩
  sending := by simp
  asking := by simp
  once := by simp
  live := by simp
  requested hc := by
    rw [hclean] at hc
    cases hc
  debt := by simp [debt, hpending, hreacquire]
  orderly := by
    refine ⟨fun _ => ⟨hpending, hreacquire, hclean, hout.trans hnone⟩, ?_, ?_, ?_, ?_⟩
    · rw [howner]
      simp
    · rw [hpending]
      simp
    · rw [hout]
      exact h.nodup
    · rw [hout, hnone]
      simp
  settled := settled_of_free howner

/-- Who waits gets the data path of an idle owner without grants. -/
theorem turn_granted (h : a.Orderly) (hidle : ∀ o, a.owner = some o → a.phaseOf? o = some .idle)
    (hnone : a.outstanding = []) {p : Pending} (hpending : a.pending = some p) :
    Turn 0 a (a.granted p) (sendings (connectsFrom p.tenant a.lastGrant p.classes.toList)) [] where
  watches := rfl
  outstanding := by
    rw [map_grant_connectsFrom]
    rfl
  owner := .inr ⟨hnone, hidle⟩
  sending e he := by
    rw [tenant_of_mem_connectsFrom he]
    rfl
  asking := by simp
  once := by simp
  live := by simp
  requested hc := by cases hc
  debt := by simp [debt, granted, hpending]
  orderly := h.grant _ rfl (h.pending p hpending).1 rfl rfl rfl rfl
  settled := by
    refine settled_of_outstanding ?_
    obtain ⟨-, -, hsome, -⟩ := h.pending p hpending
    have := grantsFrom_ne_nil (n := a.lastGrant) (ClassSet.toList_ne_nil hsome)
    simp [granted, this]

/-- Settling is a turn that adds nothing to what the arbiter owes. -/
theorem Settles.turn (h : a.Orderly) (hs : Settles a a') :
    ∃ new, a'.outbox = a.outbox ++ new ∧ Turn 0 a a' (sendings new) (cleaned new) := by
  cases hs with
  | rests hidle hwaits =>
    exact ⟨[], by simp, rfl, by simp, .inl rfl, by simp, by simp, by simp, by simp,
      fun hc => .inl ⟨rfl, hc⟩, by simp, h, ⟨hidle, hwaits⟩⟩
  | again o howner hpending hsome hphase =>
    refine ⟨connectsFrom o a.lastGrant a.reacquire.toList, rfl, ?_⟩
    rw [cleaned_connectsFrom]
    exact turn_connectedAgain h howner hpending hsome
  | cleans o howner hpending hnot hphase =>
    exact ⟨[.cleanupAll o], rfl, turn_cleaning h howner hphase⟩
  | frees o howner hphase hnone hpending =>
    exact ⟨[.event (.ownerChanged a.owner none)], rfl,
      turn_vacated h (idle_of_owner howner hphase) hnone rfl rfl rfl rfl rfl rfl⟩
  | refuses o p howner hphase hnone hpending hoff =>
    refine ⟨[.event (.ownerChanged a.owner none)] ++ p.classes.toList.map fun c =>
      .event (.activationRejected p.tenant c (.radioOff p.tenant)), by simp [refused, freed], ?_⟩
    have hturn : Turn 0 a (a.refused p) [] [] :=
      turn_vacated h (idle_of_owner howner hphase) hnone rfl rfl rfl rfl rfl rfl
    simpa using hturn
  | grants o p howner hphase hnone hpending =>
    refine ⟨.event (.ownerChanged a.owner (some p.tenant)) ::
      connectsFrom p.tenant a.lastGrant p.classes.toList, by simp [granted], ?_⟩
    rw [sendings_event, cleaned_event, cleaned_connectsFrom]
    exact turn_granted h (idle_of_owner howner hphase) hnone hpending

end DataPath.Arbiter
