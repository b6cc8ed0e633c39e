import DataPath.Proofs.Arbiter.Discipline
import Mathlib.Data.List.DropRight

/-!
# The last requester wins

While a tenant owns the data path, others may call for it, one after the other and as often as
they like.  No call is decided at once: each caller is told that the activation is started, the
owner is asked to clean up once, and a call of another tenant than the one before displaces what
waited.

* One call is described by `activate_eq`, with everything that it changes and emits.
* What waits after a list of calls is what the calls of the last caller ask for, back to the last
  call of anybody else (`exists_waiting_of_calls`).
* When the owner has become idle, who waits then gets the data path with exactly these classes
  (`wins_of_idle`).

`last_wins` puts this together, after any run and for any list of calls.
-/

namespace DataPath.Arbiter

variable {a a' : Arbiter} {o t u : Tenant} {c : DataClass} {p : Pending} {calls : List Call}

/-- A call to activate a class on a tenant. -/
structure Call where
  tenant : Tenant
  dataClass : DataClass
  deriving DecidableEq, Repr

/-- The operation that a call is. -/
def Call.operation (call : Call) : Operation := .activate call.tenant call.dataClass

/-- No call of a list is refused when its turn comes. -/
def Accepts (a : Arbiter) : List Call → Prop
  | [] => True
  | call :: calls =>
    a.refusal? call.tenant call.dataClass = none ∧ (a.after call.operation).Accepts calls

/-- What each call of a list is answered and what it emits, in the order of the calls. -/
def replies (a : Arbiter) : List Call → List (Verdict × List Effect)
  | [] => []
  | call :: calls =>
    ((a.activate call.tenant call.dataClass).2, a.emitted call.operation) ::
      (a.after call.operation).replies calls

/-! ## One call -/

/-- What waits after a call: the class of the call, with those that the same tenant waited for
already. -/
def joined : Option Pending → Call → Pending
  | some p, call =>
    if p.tenant = call.tenant then ⟨call.tenant, p.classes.insert call.dataClass⟩
    else ⟨call.tenant, ClassSet.empty.insert call.dataClass⟩
  | none, call => ⟨call.tenant, ClassSet.empty.insert call.dataClass⟩

@[simp] theorem joined_tenant (waiting : Option Pending) (call : Call) :
    (joined waiting call).tenant = call.tenant := by
  unfold joined
  split
  · split <;> rfl
  · rfl

/-- A call of another tenant than the one before displaces what waited. -/
def displacement (t u : Tenant) : List Effect :=
  if t = u then [] else [.event (.pendingReplaced t u)]

/-- What a call emits while somebody else owns the data path. -/
def contention (a : Arbiter) (o : Tenant) (call : Call) : List Effect :=
  (a.pending.elim [] fun p => displacement p.tenant call.tenant) ++
    if a.cleanupRequested then [] else [.cleanupAll o]

/-- A call while somebody else owns the data path. -/
theorem activate_eq (howner : a.owner = some o) {call : Call} (hother : call.tenant ≠ o)
    (haccepted : a.refusal? call.tenant call.dataClass = none) :
    a.activate call.tenant call.dataClass =
      ({ a with
        pending := some (joined a.pending call)
        reacquire := ∅
        cleanupRequested := true
        outbox := a.outbox ++ a.contention o call }, .reply .started) := by
  have hne : o ≠ call.tenant := Ne.symm hother
  rw [activate, haccepted]
  simp only [howner, if_neg hne, Prod.mk.injEq, and_true]
  unfold requestCleanup await contention joined displacement
  cases hp : a.pending with
  | none => by_cases hclean : a.cleanupRequested <;> simp [hclean, emit, howner]
  | some p =>
    by_cases hsame : p.tenant = call.tenant <;> by_cases hclean : a.cleanupRequested <;>
      simp [hsame, hclean, emit, publish, howner]

theorem emitted_call (howner : a.owner = some o) {call : Call} (hother : call.tenant ≠ o)
    (haccepted : a.refusal? call.tenant call.dataClass = none) :
    a.emitted call.operation = a.contention o call := by
  refine emitted_eq ?_
  rw [Call.operation, after, activate_eq howner hother haccepted]
  rfl

/-! ## Many calls -/

/-- While somebody waits, every call is answered at once, and emits only that another tenant is
displaced. -/
theorem replies_of_pending {before : Call} (howner : a.owner = some o)
    (hpending : a.pending = some p) (hbefore : p.tenant = before.tenant)
    (hclean : a.cleanupRequested = true) (hother : ∀ call ∈ calls, call.tenant ≠ o)
    (haccepts : a.Accepts calls) :
    a.replies calls = List.zipWith
      (fun x y => (.reply .started, displacement x.tenant y.tenant)) (before :: calls) calls := by
  induction calls generalizing a p before with
  | nil => rfl
  | cons call calls ih =>
    obtain ⟨haccepted, hrest⟩ := haccepts
    obtain ⟨hne, hothers⟩ := List.forall_mem_cons.1 hother
    have heq := activate_eq howner hne haccepted
    have hafter : a.after call.operation = _ := congrArg Prod.fst heq
    have hemits : a.emitted call.operation = displacement before.tenant call.tenant := by
      rw [emitted_call howner hne haccepted, contention, hpending, hclean, Option.elim_some,
        hbefore]
      exact List.append_nil _
    rw [replies, List.zipWith_cons_cons, heq, hemits]
    refine congrArg _ (ih ?_ ?_ (joined_tenant a.pending call) ?_ hothers hrest) <;> rw [hafter]
    exact howner

/-- The calls of others than the owner, when nobody waits before the first: each is answered at
once, the first asks the owner to clean up, and each of the others displaces the one before it
if that was of another tenant. -/
theorem replies_eq (howner : a.owner = some o) (hnobody : a.pending = none) {first : Call}
    (hother : ∀ call ∈ first :: calls, call.tenant ≠ o) (haccepts : a.Accepts (first :: calls)) :
    a.replies (first :: calls) =
      (.reply .started, if a.cleanupRequested then [] else [.cleanupAll o]) ::
        List.zipWith (fun x y => (.reply .started, displacement x.tenant y.tenant))
          (first :: calls) calls := by
  obtain ⟨haccepted, hrest⟩ := haccepts
  obtain ⟨hne, hothers⟩ := List.forall_mem_cons.1 hother
  have heq := activate_eq howner hne haccepted
  have hafter : a.after first.operation = _ := congrArg Prod.fst heq
  have hemits : a.emitted first.operation = if a.cleanupRequested then [] else [.cleanupAll o] := by
    rw [emitted_call howner hne haccepted, contention, hnobody]
    rfl
  rw [replies, heq, hemits]
  refine congrArg _ (replies_of_pending ?_ ?_ (joined_tenant a.pending first) ?_ hothers hrest) <;>
    rw [hafter]
  exact howner

/-- A list of calls leaves the owner, and one after the other joins what waits. -/
theorem foldl_after_calls (howner : a.owner = some o) (hother : ∀ call ∈ calls, call.tenant ≠ o)
    (haccepts : a.Accepts calls) :
    ((calls.map Call.operation).foldl after a).owner = some o ∧
      ((calls.map Call.operation).foldl after a).pending =
        calls.foldl (fun waiting call => some (joined waiting call)) a.pending := by
  induction calls generalizing a with
  | nil => exact ⟨howner, rfl⟩
  | cons call calls ih =>
    obtain ⟨haccepted, hrest⟩ := haccepts
    obtain ⟨hne, hothers⟩ := List.forall_mem_cons.1 hother
    have hafter : a.after call.operation = _ :=
      congrArg Prod.fst (activate_eq howner hne haccepted)
    have howner' : (a.after call.operation).owner = some o := by
      rw [hafter]
      exact howner
    have hpending : (a.after call.operation).pending = some (joined a.pending call) := by
      rw [hafter]
    rw [List.map_cons, List.foldl_cons, List.foldl_cons, ← hpending]
    exact ih howner' hothers hrest

/-- After some calls the last caller waits, for the classes that it called for since anybody else
called. -/
theorem exists_waiting_of_calls (hne : calls ≠ []) :
    ∃ p, calls.foldl (fun waiting call => some (joined waiting call)) none = some p ∧
      p.tenant = (calls.getLast hne).tenant ∧
      ∀ c, c ∈ p.classes ↔ ⟨p.tenant, c⟩ ∈ calls.rtakeWhile fun call => call.tenant = p.tenant := by
  induction calls using List.reverseRecOn with
  | nil => exact absurd rfl hne
  | append_singleton calls call ih =>
    simp only [List.foldl_append, List.foldl_cons, List.foldl_nil, List.getLast_append_singleton,
      Option.some.injEq, exists_eq_left', joined_tenant, true_and]
    intro c
    rw [List.rtakeWhile_concat_pos _ _ _ (by simp), List.mem_append, List.mem_singleton,
      Call.mk.injEq]
    by_cases hsame : ∃ h : calls ≠ [], (calls.getLast h).tenant = call.tenant
    · obtain ⟨hsome, htenant⟩ := hsame
      obtain ⟨p, hp, hlast, hclasses⟩ := ih hsome
      have heq : p.tenant = call.tenant := hlast.trans htenant
      rw [hp, joined, if_pos heq, ← heq, ← hclasses, ClassSet.mem_insert]
      simp [or_comm]
    · have hnone : (calls.rtakeWhile fun x => x.tenant = call.tenant) = [] := by
        rw [List.rtakeWhile_eq_nil_iff]
        intro h hlast
        exact hsame ⟨h, by simpa using hlast⟩
      have hjoined : joined (calls.foldl (fun waiting call => some (joined waiting call)) none)
          call = ⟨call.tenant, ClassSet.empty.insert call.dataClass⟩ := by
        by_cases hsome : calls = []
        · rw [hsome]
          rfl
        · obtain ⟨p, hp, hlast, -⟩ := ih hsome
          have hother : p.tenant ≠ call.tenant := fun heq => hsame ⟨hsome, hlast ▸ heq⟩
          rw [hp, joined, if_neg hother]
      rw [hjoined, hnone]
      simp [ClassSet.mem_insert, show c ∉ ClassSet.empty from ClassSet.not_mem_empty c]

/-! ## The end of the contest -/

/-- The data path of an idle owner goes to who waits, if its radio is not off. -/
theorem settle_eq_granted (h : a.Orderly) (howner : a.owner = some o)
    (hphase : a.phaseOf? o = some .idle) (hnone : a.outstanding = [])
    (hpending : a.pending = some p)
    (hradio : ∃ m, a.lastSeen? p.tenant = some m ∧ m.radio.isOff = false) :
    a.settle = a.granted p := by
  have hsettles := settles h
  generalize a.settle = a' at hsettles ⊢
  cases hsettles with
  | rests hidle => exact absurd hnone (hidle o howner hphase)
  | again _ _ hnobody | frees _ _ _ _ hnobody =>
    rw [hpending] at hnobody
    cases hnobody
  | cleans o' howner' _ _ hlive =>
    obtain ⟨q, hq, hlive⟩ := hlive
    rw [howner, Option.some.injEq] at howner'
    rw [← howner', hphase, Option.some.injEq] at hq
    rw [← hq] at hlive
    cases hlive
  | refuses _ q _ _ _ hq hoff =>
    obtain ⟨m, hm, hon⟩ := hradio
    rw [hpending, Option.some.injEq] at hq
    subst hq
    rw [hoff m hm] at hon
    cases hon
  | grants _ q _ _ _ hq =>
    rw [hpending, Option.some.injEq] at hq
    rw [hq]

/-- Who waits wins the data path in the last operation of a run, with its classes and nobody
else. -/
structure Wins (config : ArbiterConfig) (ops : List Operation) (op : Operation) (p : Pending) :
    Prop where
  owner : ((run config ops).after op).owner = some p.tenant
  nobody : ((run config ops).after op).pending = none
  /-- Every class is connected once, and nothing else is. -/
  connects : ∀ t c, connectCount t c ((run config ops).emitted op) =
    if t = p.tenant ∧ c ∈ p.classes then 1 else 0
  /-- The connects are in the order of the labels. -/
  ordered : ((sendings ((run config ops).emitted op)).map fun e => e.dataClass.label).Pairwise
    (· < ·)
  /-- They carry different grants. -/
  once : ((sendings ((run config ops).emitted op)).map Sending.grant).Nodup
  /-- None of the grants was handed out before. -/
  fresh : ∀ e ∈ sendings ((run config ops).emitted op),
    ∀ later, ¬Handed config ops e.grant later

theorem map_label_connectsFrom (t : Tenant) (n : Nat) (cs : List DataClass) :
    (sendings (connectsFrom t n cs)).map (fun e => e.dataClass.label) = cs.map DataClass.label := by
  induction cs generalizing n with
  | nil => rfl
  | cons c cs ih => simpa [connectsFrom] using ih (n + 1)

/-- Who waits wins when the owner becomes idle with no grant outstanding. -/
theorem wins_of_idle {config : ArbiterConfig} {ops : List Operation} (replaying : List DataClass)
    (howner : (run config ops).owner = some o) (hpending : (run config ops).pending = some p)
    (hnone : (run config ops).outstanding = [])
    (hradio : ∃ m, (run config ops).lastSeen? p.tenant = some m ∧ m.radio.isOff = false) :
    Wins config ops (.hear (.enteredIdle o replaying)) p := by
  have h := orderly_run config ops
  have hne : p.tenant ≠ o := fun heq => (h.pending p hpending).2.1 (heq ▸ howner)
  obtain ⟨phase, hphase⟩ := exists_phaseOf (h.known o howner)
  -- The arbiter that has noted that the owner is idle, right before it settles.
  let mid := ((run config ops).absorb (.hear (.enteredIdle o replaying))).unasked
  have hmid : mid.Orderly := (h.amend o _).unasked
  have hidle : mid.phaseOf? o = some .idle := by
    have hamend := (run config ops).phaseOf_amend o o
      (fun w => w.correct (.enteredIdle o replaying)) (fun _ => .idle) fun _ => rfl
    rw [hphase, Option.map_some, if_pos rfl] at hamend
    exact hamend
  have hseen : mid.lastSeen? p.tenant = (run config ops).lastSeen? p.tenant :=
    lastSeen?_amend_of_ne hne _
  have hafter : (run config ops).after (.hear (.enteredIdle o replaying)) = mid.granted p := by
    have hsettles : (run config ops).after (.hear (.enteredIdle o replaying)) = mid.settle :=
      if_pos howner
    rw [hsettles]
    exact settle_eq_granted hmid howner hidle hnone hpending (hseen ▸ hradio)
  have hemits : (run config ops).emitted (.hear (.enteredIdle o replaying)) =
      .event (.ownerChanged (some o) (some p.tenant)) ::
        connectsFrom p.tenant mid.lastGrant p.classes.toList := by
    refine emitted_eq ?_
    rw [hafter, ← howner]
    simp [granted, mid, unasked, absorb_owner]
  have hgrants : (run config ops).handedOut (.hear (.enteredIdle o replaying)) =
      (sendings ((run config ops).emitted (.hear (.enteredIdle o replaying)))).map
        Sending.grant := List.append_nil _
  refine ⟨by rw [hafter]; rfl, by rw [hafter]; rfl, fun t c => ?_, ?_, ?_, fun e he later => ?_⟩
  · rw [hemits, connectCount_event, connectCount_toList]
  · rw [hemits, sendings_event, map_label_connectsFrom, List.pairwise_map]
    exact p.classes.pairwise_toList
  · rw [← hgrants]
    exact nodup_handedOut h _
  · have hmem : e.grant ∈ (run config ops).handedOut (.hear (.enteredIdle o replaying)) := by
      rw [hgrants]
      exact List.mem_map_of_mem he
    exact not_handed_of_handedOut hmem

/-! ## The contest -/

/-- After any run that leaves an owner and nobody who waits, tenants other than the owner call
for the data path, and no call is refused.  Every call is answered at once.  The first one asks
the owner to clean up, unless that was asked before, and a later one emits just that the tenant
before is displaced, if it was another.  Then the last caller waits for the classes of its last
calls in a row.  It wins the data path with these classes when the owner becomes idle, at once or
after other operations, if no grant is outstanding then and its radio is not off. -/
theorem last_wins (config : ArbiterConfig) (ops : List Operation) (calls : List Call)
    (hne : calls ≠ []) (o : Tenant) (howner : (run config ops).owner = some o)
    (hnobody : (run config ops).pending = none) (hother : ∀ call ∈ calls, call.tenant ≠ o)
    (haccepts : (run config ops).Accepts calls) :
    (run config ops).replies calls =
        (.reply .started, if (run config ops).cleanupRequested then [] else [.cleanupAll o]) ::
          List.zipWith (fun x y => (.reply .started, displacement x.tenant y.tenant))
            calls calls.tail ∧
      (run config (ops ++ calls.map Call.operation)).owner = some o ∧
      ∃ p, (run config (ops ++ calls.map Call.operation)).pending = some p ∧
        p.tenant = (calls.getLast hne).tenant ∧
        (∀ c, c ∈ p.classes ↔
          ⟨p.tenant, c⟩ ∈ calls.rtakeWhile fun call => call.tenant = p.tenant) ∧
        ∀ between replaying,
          let later := ops ++ calls.map Call.operation ++ between
          (run config later).owner = some o → (run config later).pending = some p →
          (run config later).outstanding = [] →
          (∃ m, (run config later).lastSeen? p.tenant = some m ∧ m.radio.isOff = false) →
            Wins config later (.hear (.enteredIdle o replaying)) p := by
  have hrun : run config (ops ++ calls.map Call.operation) =
      (calls.map Call.operation).foldl after (run config ops) := List.foldl_append
  obtain ⟨hstays, hjoined⟩ := foldl_after_calls howner hother haccepts
  refine ⟨?_, hrun ▸ hstays, ?_⟩
  · cases calls with
    | nil => exact absurd rfl hne
    | cons first calls => exact replies_eq howner hnobody hother haccepts
  · obtain ⟨p, hp, htenant, hclasses⟩ := exists_waiting_of_calls hne
    refine ⟨p, ?_, htenant, hclasses, fun between replaying => wins_of_idle replaying⟩
    rw [hrun, hjoined, hnobody, hp]

/-- The first of three slots owns the data path and is active. -/
def firstActive : List Operation :=
  [.activate ⟨0⟩ .default,
    .hear (.updated { Snapshot.idle ⟨0⟩ with
      phase := .active, classes := .ofList [.default], connected := .ofList [.default] }),
    .grantAnswered ⟨1⟩]

/-- The other two slots call for the data path by turns. -/
def byTurns : List Call :=
  [⟨⟨1⟩, .mms⟩, ⟨⟨2⟩, .ims⟩, ⟨⟨1⟩, .supl⟩, ⟨⟨1⟩, .dun⟩]

/-- The second slot called last, and wins with the two classes it called for since the third slot
did. -/
theorem last_wins_by_turns :
    Wins { tenantCount := 3 } (firstActive ++ byTurns.map Call.operation)
      (.hear (.enteredIdle ⟨0⟩ [])) ⟨⟨1⟩, .ofList [.dun, .supl]⟩ := by
  obtain ⟨-, -, p, hp, -, -, hwins⟩ := last_wins { tenantCount := 3 } firstActive byTurns (by decide)
    ⟨0⟩ (by decide +kernel) (by decide +kernel) (by decide)
    ⟨by decide +kernel, by decide +kernel, by decide +kernel, by decide +kernel, trivial⟩
  have hpending : (run { tenantCount := 3 } (firstActive ++ byTurns.map Call.operation)).pending =
      some ⟨⟨1⟩, .ofList [.dun, .supl]⟩ := by decide +kernel
  rw [hpending, Option.some.injEq] at hp
  subst hp
  have hlater := hwins [] []
  rw [List.append_nil] at hlater
  exact hlater (by decide +kernel) hpending (by decide +kernel)
    ⟨Snapshot.idle ⟨1⟩, by decide +kernel, by decide⟩

end DataPath.Arbiter
