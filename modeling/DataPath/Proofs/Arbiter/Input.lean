import DataPath.Proofs.Arbiter.Turn
import DataPath.Proofs.Switch.Step

/-!
# What the arbiter does with its input

Every input of the arbiter leads to a turn.  Activations may add a class to what the
arbiter owes (`activate_turn`), and so may a radio that comes back; nothing else does.

Before an answer or a notice leads to a turn, it changes the records: a grant is not
outstanding any more, a clean-up is not requested any more, or what is known of a tenant is
something else (`Notes`).
-/

namespace DataPath

/-- The phase of a switch after a notice, for somebody who knew it before. -/
def Notice.after (p : Phase) : Notice → Phase
  | .enteredIdle .. => .idle
  | .updated s => s.phase
  | .radioChanged .. => p

/-- Whether a notice tells of the radio. -/
def Notice.isRadio : Notice → Bool
  | .radioChanged .. => true
  | _ => false

namespace Arbiter

variable {a a' : Arbiter}

/-! ## Activations -/

/-- Nothing is sent, and a settled arbiter is left with less to wait for. -/
theorem Turn.still (horderly : a'.Orderly) (hsettled : a'.Settled) (hwatches : a'.watches = a.watches)
    (howner : a'.owner = a.owner) (hout : a'.outstanding = a.outstanding)
    (hclean : a'.cleanupRequested = true → a.cleanupRequested = true) {more : Nat}
    (hdebt : a'.debt ≤ a.debt + more) : Turn more a a' [] [] where
  watches := hwatches
  outstanding := by simpa using hout
  owner := .inl howner
  sending := nofun
  asking := nofun
  once := by simp
  live _ := nofun
  requested h := .inl ⟨howner, hclean h⟩
  debt := by simpa using hdebt
  orderly := horderly
  settled := hsettled

theorem debt_of_none (h : a.pending = none) : a.debt = a.reacquire.toList.length := by
  simp [debt, h]

/-- A tenant gets a new grant. -/
theorem Turn.forward (h : a.Orderly) {t : Tenant} {c : DataClass} (howner : a'.owner = some t)
    (hfrom : a.owner = some t ∨ a.owner = none) (hknown : a.knows t = true)
    (hpend : a'.pending = none) (hre : a'.reacquire.toList.length ≤ a.reacquire.toList.length)
    (hlast : a'.lastGrant = a.lastGrant + 1)
    (hout : a'.outstanding = a.outstanding ++ [⟨a.lastGrant + 1⟩])
    (hclean : a'.cleanupRequested = true → a.cleanupRequested = true ∧ a.owner = some t)
    (hwatches : a'.watches = a.watches) :
    Turn 1 a a' [⟨t, c, ⟨a.lastGrant + 1⟩⟩] [] where
  watches := hwatches
  outstanding := by simpa using hout
  owner := by
    rcases hfrom with ho | ho
    · exact .inl (howner.trans ho.symm)
    · refine .inr ⟨(h.free ho).2.2.2, fun o ho' => ?_⟩
      rw [ho] at ho'
      cases ho'
  sending e he := by
    rw [List.mem_singleton] at he
    rw [he]
    exact howner
  asking := nofun
  once := by simp
  live _ := nofun
  requested hc := .inl ⟨howner.trans (hclean hc).2.symm, (hclean hc).1⟩
  debt := by
    rw [debt_of_none hpend]
    unfold Arbiter.debt
    simp only [List.length_singleton]
    omega
  orderly := h.grant [c] howner hknown hpend hlast hout (congrArg List.length hwatches)
  settled := settled_of_outstanding (by simp [hout])

theorem knows_of_lastSeen {t : Tenant} {m : Snapshot} (h : a.lastSeen? t = some m) :
    a.knows t = true := by
  unfold lastSeen? watch? at h
  by_contra hn
  simp only [knows, decide_eq_true_eq, Nat.not_lt] at hn
  rw [List.getElem?_eq_none hn] at h
  cases h

theorem knows_of_refusal {t : Tenant} {c : DataClass} (h : a.refusal? t c = none) :
    a.knows t = true := by
  unfold refusal? at h
  split at h
  · cases h
  · next hm => exact knows_of_lastSeen hm

/-- What becomes of an activation: how it is answered, or under which grant it is sent on,
and what is sent besides. -/
def Decided (a : Arbiter) (t : Tenant) (c : DataClass) (a' : Arbiter) (verdict : Verdict) : Prop :=
  ∃ new sent, a'.outbox = a.outbox ++ new ∧ Turn 1 a a' sent (cleaned new) ∧
    ((∃ o, verdict = .reply o ∧ sent = sendings new) ∨
      ∃ g, verdict = .forward (some g) ∧ sendings new = [] ∧ sent = [⟨t, c, g⟩])

theorem decided_reject (h : a.Orderly) (hs : a.Settled) (t : Tenant) (c : DataClass)
    (reason : Refusal) : Decided a t c (a.reject t c reason).1 (a.reject t c reason).2 := by
  refine ⟨[.event (.activationRejected t c reason)], [], rfl, ?_, .inl ⟨_, rfl, rfl⟩⟩
  have horderly : (a.reject t c reason).1.Orderly := ⟨h.free, h.known, h.pending, h.nodup, h.issued⟩
  have hwatches : (a.reject t c reason).1.watches = a.watches := rfl
  exact Turn.still horderly ⟨hs.idle, hs.waits⟩ hwatches rfl rfl (fun hc => hc)
    (Nat.le_add_right _ _)

/-- Turns that begin with other records, which owe one class more. -/
theorem Turn.before {mid : Arbiter} {sent : List Sending} {asked : List Tenant}
    (h : Turn 0 mid a' sent asked) (hwatches : mid.watches = a.watches)
    (hout : mid.outstanding = a.outstanding) (howner : mid.owner = a.owner)
    (hclean : mid.cleanupRequested = a.cleanupRequested) (hdebt : mid.debt ≤ a.debt + 1) :
    Turn 1 a a' sent asked where
  watches := h.watches.trans hwatches
  outstanding := hout ▸ h.outstanding
  owner := by
    rcases h.owner with ho | ⟨ho, hidle⟩
    · exact .inl (ho.trans howner)
    · refine .inr ⟨hout ▸ ho, fun o hown => ?_⟩
      have := hidle o (howner.trans hown)
      unfold phaseOf? lastSeen? watch? at this ⊢
      rw [← hwatches]
      exact this
  sending := h.sending
  asking t ht := ⟨howner ▸ (h.asking t ht).1, (h.asking t ht).2⟩
  once := h.once
  live := nofun
  requested hc := by
    rw [← howner, ← hclean]
    exact h.requested hc
  debt := by
    have := h.debt
    omega
  orderly := h.orderly
  settled := h.settled

/-- The owner asks for something, and nobody else waits. -/
theorem Orderly.queued (h : a.Orderly) {t : Tenant} (howner : a.owner = some t)
    (reacquire : ClassSet) (outbox : List Effect) :
    ({ a with reacquire := reacquire, pending := none, outbox := outbox } : Arbiter).Orderly := by
  refine ⟨fun ho => ?_, h.known, nofun, h.nodup, h.issued⟩
  have ho' : a.owner = none := ho
  rw [howner] at ho'
  cases ho'

theorem decided_activateOwner (h : a.Orderly) {t : Tenant} (c : DataClass)
    (howner : a.owner = some t) :
    Decided a t c (a.activateOwner t c).1 (a.activateOwner t c).2 := by
  unfold activateOwner
  split
  · next hwait =>
    simp only
    have hinsert := ClassSet.length_toList_insert_le a.reacquire c
    have horderly := h.queued howner (a.reacquire.insert c)
    cases hp : a.pending with
    | none =>
      obtain ⟨new, hout, hturn⟩ := (settles (horderly a.outbox)).turn (horderly a.outbox)
      refine ⟨new, _, by simpa using hout, ?_, .inl ⟨_, rfl, rfl⟩⟩
      refine Turn.before hturn rfl rfl rfl rfl ?_
      simp only [debt, hp, Option.elim_none]
      omega
    | some p =>
      have ho := horderly (a.outbox ++ [.event (.pendingReplaced p.tenant t)])
      obtain ⟨new, hout, hturn⟩ := (settles ho).turn ho
      refine ⟨.event (.pendingReplaced p.tenant t) :: new, _, ?_, ?_, .inl ⟨_, rfl, rfl⟩⟩
      · simp only [publish, emit]
        rw [hout]
        simp
      · rw [sendings_event, cleaned_event]
        refine Turn.before hturn rfl rfl rfl rfl ?_
        simp only [debt, hp, Option.elim_none, Option.elim_some]
        omega
  · next hnot =>
    have hpend : a.pending = none := by
      by_contra hn
      exact hnot (.inr (.inr (Option.isSome_iff_ne_none.2 hn)))
    refine ⟨[], _, by simp [forwardConnect, issueGrant], ?_, .inr ⟨_, rfl, rfl, rfl⟩⟩
    exact Turn.forward h howner (.inl howner) (h.known t howner) hpend (Nat.le_refl _) rfl rfl
      (fun hc => ⟨hc, howner⟩) rfl

/-- What waits after another activation, which may displace what waited before. -/
theorem await_eq (a : Arbiter) (t : Tenant) (c : DataClass) :
    ∃ (p : Pending) (events : List Event), a.await t c = { a with
        pending := some p, outbox := a.outbox ++ events.map fun e => .event e } ∧
      p.tenant = t ∧ c ∈ p.classes ∧
      p.classes.toList.length ≤ (a.pending.elim 0 fun p => p.classes.toList.length) + 1 ∧
      ∀ e ∈ events, ∃ u, e = .pendingReplaced u t := by
  have hempty := ClassSet.length_toList_insert_le ∅ c
  rw [ClassSet.toList_empty, List.length_nil] at hempty
  have hfresh : c ∈ ClassSet.empty.insert c := ClassSet.mem_insert.2 (.inl rfl)
  unfold await
  cases hp : a.pending with
  | none =>
    exact ⟨⟨t, ClassSet.empty.insert c⟩, [], by simp, rfl, hfresh, hempty, nofun⟩
  | some p =>
    by_cases hpt : p.tenant = t
    · have hmem : c ∈ p.classes.insert c := ClassSet.mem_insert.2 (.inl rfl)
      refine ⟨⟨t, p.classes.insert c⟩, [], by simp [hpt], rfl, hmem, ?_, nofun⟩
      exact ClassSet.length_toList_insert_le p.classes c
    · refine ⟨⟨t, ClassSet.empty.insert c⟩, [.pendingReplaced p.tenant t], ?_, rfl, hfresh, ?_,
        by simp⟩
      · simp [hpt, publish, emit]
      · exact Nat.le_trans hempty (Nat.succ_le_succ (Nat.zero_le _))

/-- Somebody else than the owner waits. -/
theorem Orderly.awaits (h : a.Orderly) {o : Tenant} {p : Pending} (howner : a.owner = some o)
    (hne : o ≠ p.tenant) (hknown : a.knows p.tenant = true) (hsome : ∃ c, c ∈ p.classes)
    (howner' : a'.owner = a.owner) (hlen : a'.watches.length = a.watches.length)
    (hout : a'.outstanding = a.outstanding) (hlast : a'.lastGrant = a.lastGrant)
    (hpend : a'.pending = some p) (hre : a'.reacquire = ∅) : a'.Orderly where
  free hn := by
    rw [howner', howner] at hn
    cases hn
  known o' ho' := by
    have hk := h.known o' (howner' ▸ ho')
    unfold knows at hk ⊢
    rw [hlen]
    exact hk
  pending q hq := by
    rw [hpend, Option.some.injEq] at hq
    subst hq
    refine ⟨?_, fun heq => hne ?_, hsome, hre⟩
    · unfold knows at hknown ⊢
      rw [hlen]
      exact hknown
    · rw [howner', howner] at heq
      simpa using heq
  nodup := by
    rw [hout]
    exact h.nodup
  issued g hg := by
    rw [hout] at hg
    rw [hlast]
    exact h.issued g hg

/-- Somebody waits, and the owner is asked to clean up, now or already before. -/
theorem Turn.awaits (h : a.Orderly) (hs : a.Settled) {o : Tenant} {p : Pending}
    {asked : List Tenant} (howner : a.owner = some o) (hne : o ≠ p.tenant)
    (hknown : a.knows p.tenant = true) (hsome : ∃ c, c ∈ p.classes) (howner' : a'.owner = a.owner)
    (hwatches : a'.watches = a.watches) (hout : a'.outstanding = a.outstanding)
    (hlast : a'.lastGrant = a.lastGrant) (hpend : a'.pending = some p) (hre : a'.reacquire = ∅)
    (hclean : a'.cleanupRequested = true)
    (hasked : asked = [] ∧ a.cleanupRequested = true ∨ asked = [o])
    (hlen : p.classes.toList.length ≤ (a.pending.elim 0 fun q => q.classes.toList.length) + 1) :
    Turn 1 a a' [] asked where
  watches := hwatches
  outstanding := by simpa using hout
  owner := .inl howner'
  sending := nofun
  asking t ht := by
    rw [howner', howner]
    rcases hasked with ⟨hnil, -⟩ | hone
    · rw [hnil] at ht
      cases ht
    · rw [hone, List.mem_singleton] at ht
      rw [ht]
      exact ⟨rfl, rfl⟩
  once := by
    rcases hasked with ⟨hnil, -⟩ | hone
    · simp [hnil]
    · simp [hone]
  live := nofun
  requested _ := by
    rcases hasked with ⟨-, hc⟩ | hone
    · exact .inl ⟨howner', hc⟩
    · exact .inr ⟨o, by simp [hone]⟩
  debt := by
    have hzero : a'.reacquire.toList.length = 0 := by simp [hre]
    unfold Arbiter.debt
    rw [hpend, hzero]
    simp only [List.length_nil, Option.elim_some]
    omega
  orderly := h.awaits howner hne hknown hsome howner' (congrArg List.length hwatches) hout hlast
    hpend hre
  settled := by
    refine ⟨fun o' ho' hi => ?_, fun _ _ _ => .inr (.inl hclean)⟩
    rw [hout]
    refine hs.idle o' (howner' ▸ ho') ?_
    unfold phaseOf? lastSeen? watch? at hi ⊢
    rw [← hwatches]
    exact hi

/-- An activation of somebody else than the owner waits. -/
theorem decided_await (h : a.Orderly) (hs : a.Settled) {t o : Tenant} (c : DataClass)
    (howner : a.owner = some o) (hne : o ≠ t) (hknown : a.knows t = true) :
    Decided a t c (({ a.await t c with reacquire := ∅ } : Arbiter).requestCleanup o)
      (.reply .started) := by
  obtain ⟨p, events, heq, rfl, hmem, hlen, -⟩ := a.await_eq t c
  rw [heq]
  unfold requestCleanup
  split
  · next hclean =>
    refine ⟨events.map fun e => .event e, [], rfl, ?_,
      .inl ⟨_, rfl, (sendings_map_event (fun e => e) events).symm⟩⟩
    rw [cleaned_map_event fun e => e]
    exact Turn.awaits h hs howner hne hknown ⟨c, hmem⟩ rfl rfl rfl rfl rfl rfl hclean
      (.inl ⟨rfl, hclean⟩) hlen
  · have hsent : sendings ((events.map fun e => .event e) ++ [.cleanupAll o]) = [] := by
      rw [sendings_append, sendings_map_event fun e => e]
      rfl
    refine ⟨(events.map fun e => .event e) ++ [.cleanupAll o], [], by simp [emit], ?_,
      .inl ⟨_, rfl, hsent.symm⟩⟩
    rw [cleaned_append, cleaned_map_event fun e => e]
    exact Turn.awaits h hs howner hne hknown ⟨c, hmem⟩ rfl rfl rfl rfl rfl rfl rfl (.inr rfl) hlen

/-- Every activation leads to a turn. -/
theorem activate_turn (h : a.Orderly) (hs : a.Settled) (t : Tenant) (c : DataClass) :
    Decided a t c (a.activate t c).1 (a.activate t c).2 := by
  unfold activate
  split
  · exact decided_reject h hs t c _
  · next hno =>
    have hknown := knows_of_refusal hno
    split
    · next hfree =>
      obtain ⟨hpend, hre, hclean, hout⟩ := h.free hfree
      have hne : a.owner ≠ some t := by simp [hfree]
      rw [setOwner_eq _ hne]
      refine ⟨[.event (.ownerChanged a.owner (some t))], _, rfl, ?_, .inr ⟨_, rfl, rfl, rfl⟩⟩
      exact Turn.forward h rfl (.inr hfree) hknown hpend (by simp [hre, forwardConnect, issueGrant])
        rfl rfl nofun rfl
    · next o howner =>
      split
      · next heq =>
        subst heq
        exact decided_activateOwner h c howner
      · next hne => exact decided_await h hs c howner hne hknown

/-! ## Other commands -/

/-- What a withdrawal does: nothing, or the last class of who waits is withdrawn, or another
one. -/
theorem withdraw_cases (a : Arbiter) (t : Tenant) (c : DataClass) :
    a.withdraw t c = a ∨
    (∃ p, a.pending = some p ∧ p.tenant = t ∧ a.withdraw t c = { a with pending := none }) ∨
    ∃ p, a.pending = some p ∧ p.tenant = t ∧ (∃ d, d ∈ p.classes.erase c) ∧
      a.withdraw t c = { a with pending := some ⟨t, p.classes.erase c⟩ } := by
  unfold withdraw
  split
  · next p hp =>
    split
    · next hc =>
      simp only
      split
      · exact .inr (.inl ⟨p, hp, hc.1, rfl⟩)
      · next hne => exact .inr (.inr ⟨p, hp, hc.1, ClassSet.exists_mem_of_not_isEmpty hne, rfl⟩)
    · exact .inl rfl
  · exact .inl rfl

/-- Nobody waits where nobody waited, and nothing is asked for where nothing was. -/
theorem still_nothing {pending : Option Pending} {reacquire : ClassSet}
    (hpend : ∀ p, pending = some p → ∃ q, a.pending = some q ∧ q.tenant = p.tenant ∧
      (∃ d, d ∈ p.classes) ∧ p.classes.toList.length ≤ q.classes.toList.length)
    (hre : ∀ c ∈ reacquire, c ∈ a.reacquire) :
    (a.pending = none → pending = none) ∧ (a.reacquire = ∅ → reacquire = ∅) := by
  refine ⟨fun hn => ?_, fun he => ClassSet.eq_empty_iff.2 fun c hc => ?_⟩
  · cases pending with
    | none => rfl
    | some p =>
      obtain ⟨q, hq, -⟩ := hpend p rfl
      rw [hn] at hq
      cases hq
  · have hc' := hre c hc
    rw [he] at hc'
    exact ClassSet.not_mem_empty c hc'

/-- The records stay orderly when there is less to wait for. -/
theorem Orderly.less (h : a.Orderly) {pending : Option Pending} {reacquire : ClassSet}
    (hpend : ∀ p, pending = some p → ∃ q, a.pending = some q ∧ q.tenant = p.tenant ∧
      (∃ d, d ∈ p.classes) ∧ p.classes.toList.length ≤ q.classes.toList.length)
    (hre : ∀ c ∈ reacquire, c ∈ a.reacquire) :
    ({ a with pending := pending, reacquire := reacquire } : Arbiter).Orderly := by
  obtain ⟨hnone, hempty⟩ := still_nothing hpend hre
  refine ⟨fun ho => ?_, h.known, fun p hp => ?_, h.nodup, h.issued⟩
  · obtain ⟨h1, h2, h3, h4⟩ := h.free ho
    exact ⟨hnone h1, hempty h2, h3, h4⟩
  · obtain ⟨q, hq, htenant, hsome, -⟩ := hpend p hp
    obtain ⟨h1, h2, -, h4⟩ := h.pending q hq
    rw [htenant] at h1 h2
    exact ⟨h1, h2, hsome, hempty h4⟩

/-- An orderly and settled arbiter that is left with less to wait for. -/
theorem Turn.less (h : a.Orderly) (hs : a.Settled) {pending : Option Pending} {reacquire : ClassSet}
    (hpend : ∀ p, pending = some p → ∃ q, a.pending = some q ∧ q.tenant = p.tenant ∧
      (∃ d, d ∈ p.classes) ∧ p.classes.toList.length ≤ q.classes.toList.length)
    (hre : ∀ c ∈ reacquire, c ∈ a.reacquire) :
    Turn 0 a { a with pending := pending, reacquire := reacquire } [] [] := by
  obtain ⟨hnone, hempty⟩ := still_nothing hpend hre
  have hwatches : ({ a with pending := pending, reacquire := reacquire } : Arbiter).watches =
    a.watches := rfl
  refine Turn.still (h.less hpend hre) ?_ hwatches rfl rfl (fun hc => hc) ?_
  · refine ⟨hs.idle, fun o ho hwait => hs.waits o ho ?_⟩
    rcases hwait with hwait | hwait
    · exact .inl fun hn => hwait (hnone hn)
    · exact .inr fun he => hwait (hempty he)
  · have hlen := ClassSet.length_toList_le_of_subset hre
    unfold Arbiter.debt
    cases pending with
    | none =>
      simp only [Option.elim_none]
      omega
    | some p =>
      obtain ⟨q, hq, -, -, hle⟩ := hpend p rfl
      rw [hq]
      simp only [Option.elim_some]
      omega

/-- Nothing was taken back. -/
theorem Turn.refl (h : a.Orderly) (hs : a.Settled) : Turn 0 a a [] [] :=
  Turn.still h hs rfl rfl rfl (fun hc => hc) (Nat.le_refl _)

/-- After a withdrawal nobody waits with more classes than before. -/
theorem withdraw_less (h : a.Orderly) (t : Tenant) (c : DataClass) :
    ∃ pending, a.withdraw t c = { a with pending := pending } ∧
      ∀ p, pending = some p → ∃ q, a.pending = some q ∧ q.tenant = p.tenant ∧
        (∃ d, d ∈ p.classes) ∧ p.classes.toList.length ≤ q.classes.toList.length := by
  rcases a.withdraw_cases t c with heq | ⟨p, hp, -, heq⟩ | ⟨p, hp, htenant, hsome, heq⟩
  · exact ⟨a.pending, heq, fun p hp => ⟨p, hp, rfl, (h.pending p hp).2.2.1, Nat.le_refl _⟩⟩
  · exact ⟨none, heq, nofun⟩
  · refine ⟨_, heq, fun q hq => ?_⟩
    rw [Option.some.injEq] at hq
    rw [← hq]
    exact ⟨p, hp, htenant, hsome, ClassSet.length_toList_erase_le _ _⟩

/-- A deactivation makes nobody wait, and goes on to the switch, if there is one. -/
theorem deactivate_turn (h : a.Orderly) (hs : a.Settled) (t : Tenant) (c : DataClass) :
    Turn 0 a (a.deactivate t c).1 [] [] ∧ (a.deactivate t c).1.outbox = a.outbox ∧
      ((∃ o, (a.deactivate t c).2 = .reply o) ∨ (a.deactivate t c).2 = .forward none) := by
  unfold deactivate
  split
  · exact ⟨Turn.refl h hs, rfl, .inl ⟨_, rfl⟩⟩
  · obtain ⟨pending, heq, hpend⟩ := withdraw_less h t c
    rw [heq]
    refine ⟨?_, ?_, .inr rfl⟩
    · simp only
      split
      · exact Turn.less h hs hpend fun d hd => (ClassSet.mem_erase.1 hd).2
      · exact Turn.less h hs hpend fun d hd => hd
    · simp only
      split
      · rfl
      · rfl

/-- Changing the default tenant changes nothing else. -/
theorem setDefaultTenant_turn (h : a.Orderly) (hs : a.Settled) {t : Option Tenant}
    (heq : a.setDefaultTenant t = .ok a') : Turn 0 a a' [] [] ∧ a'.outbox = a.outbox := by
  have hconfig : ∃ config, a' = { a with config := config } := by
    unfold setDefaultTenant at heq
    split at heq
    · split at heq
      · simp only [Except.ok.injEq] at heq
        exact ⟨_, heq.symm⟩
      · cases heq
    · simp only [Except.ok.injEq] at heq
      exact ⟨_, heq.symm⟩
  obtain ⟨config, rfl⟩ := hconfig
  have hwatches : ({ a with config := config } : Arbiter).watches = a.watches := rfl
  refine ⟨Turn.still ?_ ?_ hwatches rfl rfl (fun hc => hc) (Nat.le_refl _), rfl⟩
  · exact ⟨h.free, h.known, h.pending, h.nodup, h.issued⟩
  · exact ⟨hs.idle, hs.waits⟩

/-! ## Answers -/

/-- The arbiter without a grant that was answered. -/
def without (a : Arbiter) (grant : Grant) : Arbiter :=
  { a with outstanding := a.outstanding.erase grant }

/-- The arbiter after its request to clean up has come to nothing. -/
def unasked (a : Arbiter) : Arbiter := { a with cleanupRequested := false }

/-- Correcting what is known of a tenant leaves the records orderly. -/
theorem Orderly.amend (h : a.Orderly) (t : Tenant) (f : Watch → Watch) : (a.amend t f).Orderly :=
  h.of_eq rfl rfl rfl (fun hc => hc) (List.Sublist.refl _) rfl (List.length_modify ..)

theorem Orderly.without (h : a.Orderly) (g : Grant) : (a.without g).Orderly :=
  h.of_eq rfl rfl rfl (fun hc => hc) List.erase_sublist rfl rfl

theorem Orderly.unasked (h : a.Orderly) : a.unasked.Orderly :=
  h.of_eq rfl rfl rfl (fun hc => nomatch hc) (List.Sublist.refl _) rfl rfl

/-- The answer to a grant leads to a turn of the arbiter without it. -/
theorem grantAnswered_turn (h : a.Orderly) (hs : a.Settled) (g : Grant) :
    ∃ new, (a.grantAnswered g).outbox = a.outbox ++ new ∧
      Turn 0 (a.without g) (a.grantAnswered g) (sendings new) (cleaned new) := by
  unfold grantAnswered
  split
  · exact (settles (h.without g)).turn (h.without g)
  · next hg =>
    have hwithout : a.without g = a := by
      unfold without
      rw [List.erase_of_not_mem hg]
    rw [hwithout]
    exact ⟨[], by simp, Turn.refl h hs⟩

/-- The answer to a request to clean up leads to a turn, of the arbiter that has not asked
for that any more when there was nothing to let go. -/
theorem cleanupAnswered_turn (h : a.Orderly) (hs : a.Settled) (t : Tenant) (outcome : Outcome) :
    ∃ mid new, (a.cleanupAnswered t outcome).outbox = a.outbox ++ new ∧
      Turn 0 mid (a.cleanupAnswered t outcome) (sendings new) (cleaned new) ∧
      (a.owner = some t ∧ outcome = .alreadyInactive ∧ mid = a.unasked ∨
        ¬(a.owner = some t ∧ outcome = .alreadyInactive) ∧ mid = a) := by
  unfold cleanupAnswered
  split
  · next hc =>
    obtain ⟨new, hout, hturn⟩ := (settles h.unasked).turn h.unasked
    exact ⟨_, new, hout, hturn, .inl ⟨hc.1, hc.2, rfl⟩⟩
  · next hc => exact ⟨a, [], by simp, Turn.refl h hs, .inr ⟨hc, rfl⟩⟩

/-- Before that turn such an answer leaves the records as they were, but for the request itself. -/
theorem exists_eq_of_cleanupAnswered {t : Tenant} {outcome : Outcome} {mid : Arbiter}
    (h : a.owner = some t ∧ outcome = .alreadyInactive ∧ mid = a.unasked ∨
      ¬(a.owner = some t ∧ outcome = .alreadyInactive) ∧ mid = a) :
    ∃ asked, mid = { a with cleanupRequested := asked } := by
  rcases h with ⟨-, -, rfl⟩ | ⟨-, rfl⟩
  · exact ⟨false, rfl⟩
  · exact ⟨_, rfl⟩

/-! ## Notices -/

/-- What a notice changes in the records before the arbiter acts on it. -/
structure Notes (n : Notice) (a mid : Arbiter) : Prop where
  owner : mid.owner = a.owner
  pending : mid.pending = a.pending
  reacquire : mid.reacquire = a.reacquire
  outstanding : mid.outstanding = a.outstanding
  lastGrant : mid.lastGrant = a.lastGrant
  length : mid.watches.length = a.watches.length
  phase : ∀ t, mid.phaseOf? t =
    (a.phaseOf? t).map fun p => if t = n.tenant then n.after p else p
  cleanup : mid.cleanupRequested = true → a.cleanupRequested = true ∧
    ∀ t replaying, n = .enteredIdle t replaying → a.owner ≠ some t

theorem Notes.orderly {n : Notice} {mid : Arbiter} (hn : Notes n a mid) (h : a.Orderly) :
    mid.Orderly :=
  h.of_eq hn.owner hn.pending hn.reacquire (fun hc => (hn.cleanup hc).1)
    (hn.outstanding ▸ List.Sublist.refl _) hn.lastGrant hn.length

theorem Notes.knows {n : Notice} {mid : Arbiter} (hn : Notes n a mid) (t : Tenant) :
    mid.knows t = a.knows t := by
  unfold Arbiter.knows
  rw [hn.length]

theorem Notes.debt {n : Notice} {mid : Arbiter} (hn : Notes n a mid) : mid.debt = a.debt := by
  unfold Arbiter.debt
  rw [hn.pending, hn.reacquire]

/-- A notice that leaves a settled arbiter settled: the owner does not become idle by it,
and does not leave a release. -/
theorem Notes.settled {n : Notice} {mid : Arbiter} (hn : Notes n a mid) (hs : a.Settled)
    (hclean : mid.cleanupRequested = a.cleanupRequested)
    (hfollows : ∀ o p, a.owner = some o → a.phaseOf? o = some p → o = n.tenant →
      p.Follows (n.after p)) : mid.Settled := by
  have hphase : ∀ o q, a.owner = some o → mid.phaseOf? o = some q →
      ∃ p, a.phaseOf? o = some p ∧ p.Follows q := by
    intro o q ho hq
    rw [hn.phase] at hq
    cases hp : a.phaseOf? o with
    | none =>
      rw [hp] at hq
      cases hq
    | some p =>
      rw [hp, Option.map_some, Option.some.injEq] at hq
      refine ⟨p, rfl, ?_⟩
      split at hq
      · next heq => exact hq ▸ hfollows o p ho hp heq
      · exact hq ▸ Phase.Follows.refl p
  refine ⟨fun o ho hi => ?_, fun o ho hwait => ?_⟩
  · rw [hn.owner] at ho
    obtain ⟨p, hp, hf⟩ := hphase o _ ho hi
    rw [hn.outstanding]
    exact hs.idle o ho (hf.1 rfl ▸ hp)
  · rw [hn.owner] at ho
    rw [hn.pending, hn.reacquire] at hwait
    rw [hn.outstanding, hclean]
    rcases hs.waits o ho hwait with hrel | hother
    · refine .inl ?_
      rw [hn.phase, hrel, Option.map_some]
      split
      · next heq => exact congrArg some ((hfollows o _ ho hrel heq).2 rfl)
      · rfl
    · exact .inr hother

theorem amend_amend (a : Arbiter) (t : Tenant) (f g : Watch → Watch) :
    (a.amend t f).amend t g = a.amend t fun w => g (f w) := by
  unfold amend
  simp only [List.modify_modify_eq]
  rfl

/-- What is known of a tenant after it was corrected for another, or the same. -/
theorem phaseOf_amend (a : Arbiter) (t u : Tenant) (f : Watch → Watch) (q : Phase → Phase)
    (hf : ∀ w, (f w).lastSeen.phase = q w.lastSeen.phase) :
    (a.amend t f).phaseOf? u = (a.phaseOf? u).map fun p => if u = t then q p else p := by
  have hslot : u = t ↔ t.slot = u.slot := by
    cases t
    cases u
    simp [eq_comm]
  unfold phaseOf? lastSeen? watch? amend
  simp only [List.getElem?_modify]
  cases hw : a.watches[u.slot]? with
  | none => simp
  | some w =>
    by_cases heq : u = t
    · simp [heq, ← hf, hslot.1 heq]
    · have hne : t.slot ≠ u.slot := fun h => heq (hslot.2 h)
      simp [heq, hne]

/-- Correcting what is known of the tenant of a notice. -/
theorem notes_amend (a : Arbiter) (n : Notice) (f : Watch → Watch)
    (hf : ∀ w, (f w).lastSeen.phase = n.after w.lastSeen.phase)
    (hn : ∀ t replaying, n = .enteredIdle t replaying → a.owner ≠ some t) :
    Notes n a (a.amend n.tenant f) where
  owner := rfl
  pending := rfl
  reacquire := rfl
  outstanding := rfl
  lastGrant := rfl
  length := List.length_modify ..
  phase t := a.phaseOf_amend n.tenant t f n.after hf
  cleanup hc := ⟨hc, hn⟩

/-- Correcting what is known of the radio of a tenant. -/
theorem notes_radio (a : Arbiter) (t : Tenant) (source radio : Radio) (f : Watch → Watch)
    (hf : ∀ w, (f w).lastSeen.phase = w.lastSeen.phase) :
    Notes (.radioChanged t source radio) a (a.amend t f) :=
  a.notes_amend (.radioChanged t source radio) f hf nofun

/-- The default tenant is activated because nobody owns the data path. -/
theorem autoActivate_turn (h : a.Orderly) {t : Tenant} (hfree : a.owner = none)
    (hknown : a.knows t = true) :
    ∃ new, (a.autoActivate t).outbox = a.outbox ++ new ∧ cleaned new = [] ∧
      Turn 1 a (a.autoActivate t) (sendings new) (cleaned new) := by
  obtain ⟨hpend, hre, hclean, hout⟩ := h.free hfree
  have hne : a.owner ≠ some t := by simp [hfree]
  unfold autoActivate
  rw [setOwner_eq _ hne]
  refine ⟨[.event (.ownerChanged a.owner (some t)), .event (.autoActivation t a.config.defaultClass),
    .connect t a.config.defaultClass ⟨a.lastGrant + 1⟩], by simp [publish, sendConnect, emit, issueGrant],
    rfl, ?_⟩
  refine Turn.forward h rfl (.inr hfree) hknown hpend
    (by simp [hre, publish, sendConnect, emit, issueGrant]) rfl rfl ?_ rfl
  intro hc
  cases hc

theorem hearRadio_turn (h : a.Orderly) (hs : a.Settled) (t : Tenant) (source radio : Radio) :
    ∃ mid new, (a.hearRadio t radio).outbox = a.outbox ++ new ∧
      Notes (.radioChanged t source radio) a mid ∧ cleaned new = [] ∧
      Turn 1 mid (a.hearRadio t radio) (sendings new) (cleaned new) := by
  have hkeep : ∀ {mid : Arbiter}, mid.outbox = a.outbox → mid.cleanupRequested = a.cleanupRequested →
      Notes (.radioChanged t source radio) a mid →
      ∃ mid' new, mid.outbox = a.outbox ++ new ∧ Notes (.radioChanged t source radio) a mid' ∧
        cleaned new = [] ∧ Turn 1 mid' mid (sendings new) (cleaned new) := by
    intro mid hout hclean hnotes
    refine ⟨mid, [], by simpa using hout, hnotes, rfl, ?_⟩
    have hsettled := hnotes.settled hs hclean fun _ p _ _ _ => Phase.Follows.refl p
    exact Turn.still (hnotes.orderly h) hsettled rfl rfl rfl (fun hc => hc) (Nat.le_add_right _ _)
  unfold hearRadio
  split
  · refine hkeep rfl rfl ⟨rfl, rfl, rfl, rfl, rfl, rfl, fun u => ?_, fun hc => ⟨hc, nofun⟩⟩
    simp [Notice.after]
  · next w hw =>
    simp only
    have hseen : ∀ f : Watch → Watch, (∀ w, (f w).lastSeen.phase = w.lastSeen.phase) →
        Notes (.radioChanged t source radio) a
          ((a.amend t fun w => { w with lastSeen := { w.lastSeen with radio := radio } }).amend t f) := by
      intro f hf
      rw [amend_amend]
      exact a.notes_radio t source radio _ fun w => hf _
    split
    · exact hkeep rfl rfl (hseen _ fun _ => rfl)
    · split
      · have hnotes := hseen (fun w => { w with recovering := false }) fun _ => rfl
        split
        · next hauto =>
          have hfree : a.owner = none := by simpa using hauto.2.1
          have hknown : a.knows t = true :=
            knows_of_lastSeen (congrArg (Option.map Watch.lastSeen) hw)
          obtain ⟨new, hout, hnone, hturn⟩ := autoActivate_turn (hnotes.orderly h) (t := t) hfree
            (by rw [hnotes.knows]; exact hknown)
          exact ⟨_, new, hout, hnotes, hnone, hturn⟩
        · exact hkeep rfl rfl hnotes
      · exact hkeep rfl rfl (a.notes_radio t source radio _ fun _ => rfl)

/-- Settling asks nobody to clean up when the owner is idle. -/
theorem Turn.asked_eq_nil {sent : List Sending} {asked : List Tenant} (h : Turn 0 a a' sent asked)
    (hidle : ∀ o, a.owner = some o → a.phaseOf? o = some .idle) : asked = [] := by
  rw [List.eq_nil_iff_forall_not_mem]
  intro t ht
  obtain ⟨p, hp, hlive⟩ := h.live rfl t ht
  rw [hidle t (h.asking t ht).1, Option.some.injEq] at hp
  rw [← hp] at hlive
  cases hlive

/-- Every notice leads to a turn of the arbiter that has taken note of it.  A notice on the
radio may lead to an activation, and no notice leads to a request to clean up. -/
theorem hear_turn (h : a.Orderly) (hs : a.Settled) (n : Notice)
    (hfollows : (∀ t replaying, n ≠ .enteredIdle t replaying) →
      ∀ p, a.phaseOf? n.tenant = some p → p.Follows (n.after p)) :
    ∃ mid new, (a.hear n).outbox = a.outbox ++ new ∧ Notes n a mid ∧ cleaned new = [] ∧
      Turn (if n.isRadio then 1 else 0) mid (a.hear n) (sendings new) (cleaned new) := by
  cases n with
  | updated s =>
    have hnotes : Notes (.updated s) a (a.hearUpdated s) :=
      a.notes_amend (.updated s) _ (fun _ => rfl) nofun
    have hsettled := hnotes.settled hs rfl fun o p ho hp heq => by
      rw [heq] at hp
      exact hfollows nofun p hp
    refine ⟨a.hearUpdated s, [], by simp [hear, hearUpdated, amend], hnotes, rfl, ?_⟩
    exact Turn.still (hnotes.orderly h) hsettled rfl rfl rfl (fun hc => hc) (Nat.le_refl _)
  | radioChanged t source radio => exact hearRadio_turn h hs t source radio
  | enteredIdle t replaying =>
    unfold hear hearIdle
    simp only
    split
    · next howner =>
      have hnotes : Notes (.enteredIdle t replaying) a
          { a.amend t fun w =>
            { w with lastSeen :=
              { w.lastSeen with phase := .idle, classes := ∅, connected := ∅, deferred := 0 } }
            with cleanupRequested := false } :=
        ⟨rfl, rfl, rfl, rfl, rfl, List.length_modify .., fun u =>
          a.phaseOf_amend t u _ (fun _ => .idle) fun _ => rfl, nofun⟩
      obtain ⟨new, hout, hturn⟩ := (settles (hnotes.orderly h)).turn (hnotes.orderly h)
      refine ⟨_, new, hout, hnotes, hturn.asked_eq_nil fun o ho => ?_, hturn⟩
      have hself : a.owner = some o := ho
      rw [howner, Option.some.injEq] at hself
      obtain ⟨p, hp⟩ := exists_phaseOf (h.known t howner)
      rw [hnotes.phase, ← hself, hp]
      exact congrArg some (if_pos rfl)
    · next hne =>
      have hnotes := a.notes_amend (.enteredIdle t replaying)
        (fun w => { w with lastSeen :=
          { w.lastSeen with phase := .idle, classes := ∅, connected := ∅, deferred := 0 } })
        (fun _ => rfl) (by rintro t' replaying' ⟨⟩; exact hne)
      have hsettled := hnotes.settled hs rfl fun o p ho _ heq => by
        rw [heq] at ho
        exact absurd ho hne
      refine ⟨_, [], by simp [amend], hnotes, rfl, ?_⟩
      exact Turn.still (hnotes.orderly h) hsettled rfl rfl rfl (fun hc => hc) (Nat.le_refl _)

end Arbiter

end DataPath
