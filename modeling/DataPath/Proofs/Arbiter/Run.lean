import DataPath.Proofs.Arbiter.Input
import Mathlib.Data.List.Induction

/-!
# Runs of the arbiter alone

An arbiter is asked for one operation after the other: callers activate and deactivate
classes, switches answer and send notices, and the effects are fetched with a `drain`.
Nothing is assumed here of who asks.  Notices may tell of any phase, answers may come
twice or for grants that were never given, and tenants need not be configured.  So nothing
may rest on `Settled`, which needs notices in good order; `Orderly` is enough.

An operation goes in two steps.  First the arbiter *absorbs* what the operation tells it: an
answered grant is not outstanding any more, and what is known of a tenant is corrected.  Then
it acts.  What acting can change is said once, by `Acts`, and holds of every operation
(`acts`).

* Grants become outstanding as they are handed out, and all of them are later ones than any
  before.
* The owner changes only when it was last seen idle and no grant is outstanding, or when
  there was none; the change is published, and nothing else is published about owners.
* Connects, requests to clean up and forwarded activations go to the owner.
-/

namespace DataPath.Arbiter

variable {a a' mid : Arbiter}

/-! ## Operations -/

/-- What an arbiter can be asked for. -/
inductive Operation where
  /-- A class is to be activated on a tenant. -/
  | activate (tenant : Tenant) (dataClass : DataClass)
  /-- A class is to be deactivated on a tenant. -/
  | deactivate (tenant : Tenant) (dataClass : DataClass)
  /-- The preferred tenant changes. -/
  | setDefaultTenant (tenant : Option Tenant)
  /-- A connect that carried this grant was answered. -/
  | grantAnswered (grant : Grant)
  /-- A request to clean up was answered. -/
  | cleanupAnswered (tenant : Tenant) (outcome : Outcome)
  /-- A switch sent a notice. -/
  | hear (notice : Notice)
  /-- The effects are fetched. -/
  | drain
  deriving DecidableEq, Repr

/-- The arbiter after an operation.  A preferred tenant that is refused changes nothing. -/
def after (a : Arbiter) : Operation → Arbiter
  | .activate t c => (a.activate t c).1
  | .deactivate t c => (a.deactivate t c).1
  | .setDefaultTenant t => (a.setDefaultTenant t).toOption.getD a
  | .grantAnswered g => a.grantAnswered g
  | .cleanupAnswered t outcome => a.cleanupAnswered t outcome
  | .hear n => a.hear n
  | .drain => a.drain.2

/-- The arbiter after a list of operations, from its start. -/
def run (config : ArbiterConfig) (ops : List Operation) : Arbiter :=
  ops.foldl after (start config)

@[simp] theorem run_nil (config : ArbiterConfig) : run config [] = start config := rfl

@[simp] theorem run_append (config : ArbiterConfig) (ops : List Operation) (op : Operation) :
    run config (ops ++ [op]) = (run config ops).after op := by
  simp [run]

/-- What is known of a slot after a notice about its tenant. -/
def Watch.correct (w : Watch) : Notice → Watch
  | .updated s => { w with lastSeen := s }
  | .radioChanged _ _ radio =>
    { w with
      lastSeen := { w.lastSeen with radio := radio }
      recovering := radio.isOff || (w.recovering && radio ≠ .on) }
  | .enteredIdle .. =>
    { w with lastSeen :=
      { w.lastSeen with phase := .idle, classes := ∅, connected := ∅, deferred := 0 } }

/-- The arbiter that has taken in what an operation tells, and has not yet acted on it. -/
def absorb (a : Arbiter) : Operation → Arbiter
  | .grantAnswered g => a.without g
  | .hear n => a.amend n.tenant fun w => w.correct n
  | .drain => a.drain.2
  | .activate .. | .deactivate .. | .setDefaultTenant _ | .cleanupAnswered .. => a

/-- The effects of an operation, oldest first. -/
def emitted (a : Arbiter) (op : Operation) : List Effect :=
  (a.after op).outbox.drop (a.absorb op).outbox.length

/-- What an operation adds to the effects is what it emits. -/
theorem emitted_eq {op : Operation} {new : List Effect}
    (h : (a.after op).outbox = (a.absorb op).outbox ++ new) : a.emitted op = new := by
  rw [emitted, h, List.drop_left]

/-- The grants that a verdict carries. -/
def Verdict.grants : Verdict → List Grant
  | .forward (some g) => [g]
  | .forward none | .reply _ => []

/-- The tenants to whose switches an operation forwards a connect, with the grants. -/
def passedOn (a : Arbiter) : Operation → List (Tenant × Grant)
  | .activate t c => (a.activate t c).2.grants.map fun g => (t, g)
  | .deactivate t c => (a.deactivate t c).2.grants.map fun g => (t, g)
  | .setDefaultTenant _ | .grantAnswered _ | .cleanupAnswered .. | .hear _ | .drain => []

/-- The grants in effects and in what is forwarded. -/
def grantsIn (new : List Effect) (passed : List (Tenant × Grant)) : List Grant :=
  (sendings new).map Sending.grant ++ passed.map Prod.snd

/-- The grants that an operation hands out. -/
def handedOut (a : Arbiter) (op : Operation) : List Grant :=
  grantsIn (a.emitted op) (a.passedOn op)

/-! ## Changes of owner -/

/-- The change of owner that an effect publishes, from and to whom. -/
def Effect.move? : Effect → Option (Option Tenant × Option Tenant)
  | .event (.ownerChanged source target) => some (source, target)
  | _ => none

/-- The changes of owner that effects publish. -/
def moves (es : List Effect) : List (Option Tenant × Option Tenant) :=
  es.filterMap Effect.move?

@[simp] theorem moves_nil : moves [] = [] := rfl

@[simp] theorem moves_append (es fs : List Effect) : moves (es ++ fs) = moves es ++ moves fs :=
  List.filterMap_append

@[simp] theorem moves_ownerChanged (source target : Option Tenant) (es : List Effect) :
    moves (.event (.ownerChanged source target) :: es) = (source, target) :: moves es := rfl

@[simp] theorem moves_connectsFrom (t : Tenant) (n : Nat) (cs : List DataClass) :
    moves (connectsFrom t n cs) = [] := by
  induction cs generalizing n with
  | nil => rfl
  | cons c cs ih => exact ih (n + 1)

theorem moves_map_event {α : Type} {f : α → Event} {l : List α}
    (h : ∀ x ∈ l, Effect.move? (.event (f x)) = none) :
    moves (l.map fun x => .event (f x)) = [] := by
  rw [moves, List.filterMap_map, List.filterMap_eq_nil_iff]
  exact h

/-! ## Acting -/

/-- What an arbiter may do once it has absorbed an operation. -/
structure Acts (a a' : Arbiter) (new : List Effect) (passed : List (Tenant × Grant)) :
    Prop where
  orderly : a'.Orderly
  watches : a'.watches = a.watches
  outbox : a'.outbox = a.outbox ++ new
  outstanding : a'.outstanding = a.outstanding ++ grantsIn new passed
  fresh : ∀ g ∈ grantsIn new passed, a.lastGrant < g.serial
  lastGrant : a.lastGrant ≤ a'.lastGrant
  owner : a'.owner = a.owner ∨
    a.outstanding = [] ∧ ∀ o, a.owner = some o → a.phaseOf? o = some .idle
  moves : moves new = if a.owner = a'.owner then [] else [(a.owner, a'.owner)]
  sending : ∀ e ∈ sendings new, a'.owner = some e.tenant
  asking : ∀ t ∈ cleaned new, a'.owner = some t
  forwarding : ∀ p ∈ passed, a'.owner = some p.1

/-- A turn that gives out later grants than any before, and publishes a change of owner. -/
theorem Turn.acts {more : Nat} {new : List Effect} {sent : List Sending} {asked : List Tenant}
    (h : Turn more a a' sent asked) (hsent : sendings new = sent) (hasked : cleaned new = asked)
    (hout : a'.outbox = a.outbox ++ new)
    (hfresh : ∀ g ∈ sent.map Sending.grant, a.lastGrant < g.serial)
    (hlast : a.lastGrant ≤ a'.lastGrant)
    (hmoves : Arbiter.moves new = if a.owner = a'.owner then [] else [(a.owner, a'.owner)]) :
    Acts a a' new [] where
  orderly := h.orderly
  watches := h.watches
  outbox := hout
  outstanding := by simpa [grantsIn, hsent] using h.outstanding
  fresh := by simpa [grantsIn, hsent] using hfresh
  lastGrant := hlast
  owner := h.owner
  moves := hmoves
  sending := hsent ▸ h.sending
  asking t ht := (h.asking t (hasked ▸ ht)).2
  forwarding := nofun

/-- Nothing is handed out, and the owner stays. -/
theorem Acts.noted {new : List Effect} (horderly : a'.Orderly) (hwatches : a'.watches = a.watches)
    (hout : a'.outbox = a.outbox ++ new) (hgrants : a'.outstanding = a.outstanding)
    (hlast : a'.lastGrant = a.lastGrant) (howner : a'.owner = a.owner)
    (hmoves : Arbiter.moves new = []) (hsent : sendings new = [])
    (hasked : ∀ t ∈ cleaned new, a'.owner = some t) : Acts a a' new [] where
  orderly := horderly
  watches := hwatches
  outbox := hout
  outstanding := by simpa [grantsIn, hsent] using hgrants
  fresh := by simp [grantsIn, hsent]
  lastGrant := Nat.le_of_eq hlast.symm
  owner := .inl howner
  moves := by rw [hmoves, if_pos howner.symm]
  sending := by simp [hsent]
  asking := hasked
  forwarding := nofun

theorem Acts.refl (h : a.Orderly) : Acts a a [] [] :=
  Acts.noted h rfl (by simp) rfl rfl rfl rfl rfl nofun

/-- Publishing something that is not about owners, and then acting. -/
theorem Acts.before {new : List Effect} {fwd : List (Tenant × Grant)} (h : Acts mid a' new fwd)
    (events : List Event) (hout : mid.outbox = a.outbox ++ events.map fun e => .event e)
    (hevents : ∀ e ∈ events, Effect.move? (.event e) = none) (hwatches : mid.watches = a.watches)
    (hgrants : mid.outstanding = a.outstanding) (hlast : mid.lastGrant = a.lastGrant)
    (howner : mid.owner = a.owner) :
    Acts a a' ((events.map fun e => .event e) ++ new) fwd where
  orderly := h.orderly
  watches := h.watches.trans hwatches
  outbox := by rw [h.outbox, hout, List.append_assoc]
  outstanding := by
    have := h.outstanding
    simpa [grantsIn, sendings_map_event fun e => e, hgrants] using this
  fresh := by
    have := h.fresh
    simpa [grantsIn, sendings_map_event fun e => e, hlast] using this
  lastGrant := hlast ▸ h.lastGrant
  owner := by
    rcases h.owner with ho | ⟨hnone, hidle⟩
    · exact .inl (ho.trans howner)
    · refine .inr ⟨hgrants ▸ hnone, fun o ho => ?_⟩
      have hphase := hidle o (howner.trans ho)
      unfold phaseOf? lastSeen? watch? at hphase ⊢
      rw [← hwatches]
      exact hphase
  moves := by
    rw [moves_append, moves_map_event hevents, List.nil_append, h.moves, howner]
  sending := by simpa [sendings_map_event fun e => e] using h.sending
  asking := by simpa [cleaned_map_event fun e => e] using h.asking
  forwarding := h.forwarding

/-- A grant is forwarded to a tenant that owns the data path, or gets it from nobody. -/
theorem Acts.forward (h : a.Orderly) {t : Tenant} {new : List Effect} (hknown : a.knows t = true)
    (howner : a'.owner = some t) (hfrom : a.owner = some t ∧ new = [] ∨
      a.owner = none ∧ new = [.event (.ownerChanged none (some t))])
    (hpend : a'.pending = none) (hwatches : a'.watches = a.watches)
    (hout : a'.outbox = a.outbox ++ new) (hlast : a'.lastGrant = a.lastGrant + 1)
    (hgrants : a'.outstanding = a.outstanding ++ [⟨a.lastGrant + 1⟩]) :
    Acts a a' new [(t, ⟨a.lastGrant + 1⟩)] := by
  have hsent : sendings new = [] := by
    rcases hfrom with ⟨-, rfl⟩ | ⟨-, rfl⟩
    · rfl
    · rfl
  have hasked : cleaned new = [] := by
    rcases hfrom with ⟨-, rfl⟩ | ⟨-, rfl⟩
    · rfl
    · rfl
  refine ⟨h.grant [.default] howner hknown hpend hlast hgrants (congrArg List.length hwatches),
    hwatches, hout, by simpa [grantsIn, hsent] using hgrants, by simp [grantsIn, hsent],
    by omega, ?_, ?_, by simp [hsent], by simp [hasked], by simpa using howner⟩
  · rcases hfrom with ⟨ho, -⟩ | ⟨ho, -⟩
    · exact .inl (howner.trans ho.symm)
    · refine .inr ⟨(h.free ho).2.2.2, fun o ho' => ?_⟩
      rw [ho] at ho'
      cases ho'
  · rcases hfrom with ⟨ho, rfl⟩ | ⟨ho, rfl⟩
    · rw [ho, howner, if_pos rfl]
      rfl
    · rw [ho, howner]
      rfl

/-! ## Settling -/

theorem lt_serial_connectsFrom (t : Tenant) (n : Nat) (cs : List DataClass) :
    ∀ g ∈ (sendings (connectsFrom t n cs)).map Sending.grant, n < g.serial := by
  rw [map_grant_connectsFrom]
  exact fun g hg => (serial_of_mem_grantsFrom hg).1

/-- Settling acts, from any orderly records. -/
theorem Settles.acts (h : a.Orderly) (hs : Settles a a') : ∃ new, Acts a a' new [] := by
  cases hs with
  | rests => exact ⟨[], Acts.refl h⟩
  | again o howner hpending hsome hphase =>
    refine ⟨connectsFrom o a.lastGrant a.reacquire.toList,
      (turn_connectedAgain h howner hpending hsome).acts rfl (cleaned_connectsFrom ..) rfl
        (lt_serial_connectsFrom o _ _) (Nat.le_add_right _ _) ?_⟩
    rw [moves_connectsFrom]
    exact (if_pos rfl).symm
  | cleans o howner hpending hnot hphase =>
    exact ⟨[.cleanupAll o], (turn_cleaning h howner hphase).acts rfl rfl rfl nofun (Nat.le_refl _)
      (if_pos rfl).symm⟩
  | frees o howner hphase hnone hpending =>
    have hturn : Turn 0 a a.freed [] [] :=
      turn_vacated h (idle_of_owner howner hphase) hnone rfl rfl rfl rfl rfl rfl
    refine ⟨[.event (.ownerChanged a.owner none)], hturn.acts rfl rfl rfl nofun (Nat.le_refl _) ?_⟩
    simp [freed, howner]
  | refuses o p howner hphase hnone hpending hoff =>
    have hturn : Turn 0 a (a.refused p) [] [] :=
      turn_vacated h (idle_of_owner howner hphase) hnone rfl rfl rfl rfl rfl rfl
    refine ⟨.event (.ownerChanged a.owner none) :: p.classes.toList.map fun c =>
      .event (.activationRejected p.tenant c (.radioOff p.tenant)),
      hturn.acts (by simp) (by simp) (by simp [refused, freed]) nofun (Nat.le_refl _) ?_⟩
    rw [moves_ownerChanged, moves_map_event fun _ _ => rfl]
    simp [refused, freed, howner]
  | grants o p howner hphase hnone hpending =>
    have hne : a.owner ≠ some p.tenant := (h.pending p hpending).2.1
    refine ⟨.event (.ownerChanged a.owner (some p.tenant)) ::
      connectsFrom p.tenant a.lastGrant p.classes.toList,
      (turn_granted h (idle_of_owner howner hphase) hnone hpending).acts (sendings_event ..)
        (by simp) (by simp [granted]) (lt_serial_connectsFrom p.tenant _ _) (Nat.le_add_right _ _)
        ?_⟩
    rw [moves_ownerChanged, moves_connectsFrom]
    exact (if_neg hne).symm

/-! ## Callers -/

/-- The owner's activation is forwarded, or it waits and what that means is settled. -/
theorem acts_activateOwner (h : a.Orderly) {t : Tenant} (c : DataClass)
    (howner : a.owner = some t) :
    ∃ new, Acts a (a.activateOwner t c).1 new
      ((a.activateOwner t c).2.grants.map fun g => (t, g)) := by
  unfold activateOwner
  split
  · have horderly := h.queued howner (a.reacquire.insert c)
    simp only
    cases hp : a.pending with
    | none =>
      obtain ⟨new, hacts⟩ := (settles (horderly a.outbox)).acts (horderly a.outbox)
      exact ⟨new, hacts.before [] (by simp) nofun rfl rfl rfl rfl⟩
    | some p =>
      obtain ⟨new, hacts⟩ := (settles (horderly (a.outbox ++ [.event (.pendingReplaced p.tenant t)]))).acts
        (horderly _)
      exact ⟨_, hacts.before [.pendingReplaced p.tenant t] rfl (by simp [Effect.move?]) rfl rfl
        rfl rfl⟩
  · next hnot =>
    have hpend : a.pending = none := by
      by_contra hn
      exact hnot (.inr (.inr (Option.isSome_iff_ne_none.2 hn)))
    exact ⟨[], Acts.forward h (h.known t howner) howner (.inl ⟨howner, rfl⟩) hpend rfl
      (by simp [forwardConnect, issueGrant]) rfl rfl⟩

/-- Somebody else than the owner waits, and the owner is asked to clean up if it was not. -/
theorem acts_await (h : a.Orderly) {t o : Tenant} (c : DataClass) (howner : a.owner = some o)
    (hne : o ≠ t) (hknown : a.knows t = true) :
    ∃ new, Acts a (({ a.await t c with reacquire := ∅ } : Arbiter).requestCleanup o) new [] := by
  obtain ⟨p, events, heq, rfl, hmem, -, hreplaced⟩ := a.await_eq t c
  have hmoves : moves (events.map fun e => .event e) = [] := moves_map_event fun e he => by
    obtain ⟨u, rfl⟩ := hreplaced e he
    rfl
  have horderly : ∀ {a' : Arbiter}, a'.owner = a.owner → a'.watches.length = a.watches.length →
      a'.outstanding = a.outstanding → a'.lastGrant = a.lastGrant → a'.pending = some p →
      a'.reacquire = ∅ → a'.Orderly :=
    h.awaits howner hne hknown ⟨c, hmem⟩
  rw [heq]
  unfold requestCleanup
  split
  · exact ⟨_, Acts.noted (horderly rfl rfl rfl rfl rfl rfl) rfl rfl rfl rfl rfl hmoves
      (sendings_map_event (fun e => e) events) (by simp [cleaned_map_event fun e => e])⟩
  · refine ⟨(events.map fun e => .event e) ++ [.cleanupAll o],
      Acts.noted (horderly rfl rfl rfl rfl rfl rfl) rfl (by simp [emit]) rfl rfl rfl ?_ ?_ ?_⟩
    · rw [moves_append, hmoves]
      rfl
    · rw [sendings_append, sendings_map_event fun e => e]
      rfl
    · simpa [cleaned_map_event fun e => e, emit] using howner

/-- Every activation acts. -/
theorem acts_activate (h : a.Orderly) (t : Tenant) (c : DataClass) :
    ∃ new, Acts a (a.activate t c).1 new ((a.activate t c).2.grants.map fun g => (t, g)) := by
  unfold activate
  split
  · next reason _ =>
    exact ⟨[.event (.activationRejected t c reason)],
      Acts.noted ⟨h.free, h.known, h.pending, h.nodup, h.issued⟩ rfl rfl rfl rfl rfl rfl rfl
        nofun⟩
  · next hno =>
    have hknown := knows_of_refusal hno
    split
    · next hfree =>
      have hne : a.owner ≠ some t := by simp [hfree]
      rw [setOwner_eq _ hne]
      refine ⟨[.event (.ownerChanged none (some t))], Acts.forward h hknown rfl
        (.inr ⟨hfree, rfl⟩) (h.free hfree).1 rfl ?_ rfl rfl⟩
      rw [← hfree]
      rfl
    · next o howner =>
      split
      · next heq =>
        subst heq
        exact acts_activateOwner h c howner
      · next hne => exact acts_await h c howner hne hknown

/-- A deactivation hands out nothing. -/
theorem acts_deactivate (h : a.Orderly) (t : Tenant) (c : DataClass) :
    ∃ new, Acts a (a.deactivate t c).1 new ((a.deactivate t c).2.grants.map fun g => (t, g)) := by
  unfold deactivate
  split
  · exact ⟨[], Acts.refl h⟩
  · obtain ⟨pending, heq, hpend⟩ := withdraw_less h t c
    rw [heq]
    refine ⟨[], ?_⟩
    simp only
    split
    · exact Acts.noted (h.less hpend fun d hd => (ClassSet.mem_erase.1 hd).2) rfl
        (List.append_nil _).symm rfl rfl rfl rfl rfl nofun
    · exact Acts.noted (h.less hpend fun d hd => hd) rfl (List.append_nil _).symm rfl rfl rfl rfl
        rfl nofun

/-- A change of the preferred tenant changes the configuration only. -/
theorem exists_setDefaultTenant_eq (a : Arbiter) (t : Option Tenant) :
    ∃ config, (a.setDefaultTenant t).toOption.getD a = { a with config := config } := by
  unfold setDefaultTenant
  split
  · split
    · exact ⟨_, rfl⟩
    · exact ⟨a.config, rfl⟩
  · exact ⟨_, rfl⟩

theorem acts_setDefaultTenant (h : a.Orderly) (t : Option Tenant) :
    Acts a ((a.setDefaultTenant t).toOption.getD a) [] [] := by
  obtain ⟨config, heq⟩ := a.exists_setDefaultTenant_eq t
  rw [heq]
  exact Acts.noted ⟨h.free, h.known, h.pending, h.nodup, h.issued⟩ rfl (List.append_nil _).symm rfl
    rfl rfl rfl rfl nofun

/-! ## Switches -/

/-- The answer to a grant that is outstanding is settled; any other changes nothing. -/
theorem acts_grantAnswered (h : a.Orderly) (g : Grant) :
    ∃ new, Acts (a.without g) (a.grantAnswered g) new [] := by
  unfold grantAnswered
  split
  · exact (settles (h.without g)).acts (h.without g)
  · next hg =>
    have hwithout : a.without g = a := by
      unfold without
      rw [List.erase_of_not_mem hg]
    rw [hwithout]
    exact ⟨[], Acts.refl h⟩

/-- An answer that there was nothing to let go is settled; any other changes nothing. -/
theorem acts_cleanupAnswered (h : a.Orderly) (t : Tenant) (outcome : Outcome) :
    ∃ new, Acts a (a.cleanupAnswered t outcome) new [] := by
  unfold cleanupAnswered
  split
  · obtain ⟨new, hacts⟩ := (settles h.unasked).acts h.unasked
    exact ⟨_, hacts.before [] (by simp [unasked]) nofun rfl rfl rfl rfl⟩
  · exact ⟨[], Acts.refl h⟩

/-- What is known of other tenants stays when what is known of one is corrected. -/
theorem lastSeen?_amend_of_ne {t u : Tenant} (hne : u ≠ t) (f : Watch → Watch) :
    (a.amend t f).lastSeen? u = a.lastSeen? u := by
  have hslot : t.slot ≠ u.slot := by
    cases t
    cases u
    simpa [eq_comm] using hne
  have hwatch : (a.watches.modify t.slot f)[u.slot]? = a.watches[u.slot]? := by
    simp [hslot]
  exact congrArg (Option.map Watch.lastSeen) hwatch

/-- Only what is known of the tenant matters for a correction. -/
theorem amend_congr {t : Tenant} {f g : Watch → Watch} (h : ∀ w, a.watch? t = some w → f w = g w) :
    a.amend t f = a.amend t g := by
  have hwatches : a.watches.modify t.slot f = a.watches.modify t.slot g := by
    refine List.ext_getElem? fun i => ?_
    rw [List.getElem?_modify, List.getElem?_modify]
    split
    · next heq =>
      subst heq
      cases hw : a.watches[t.slot]? with
      | none => rfl
      | some w => exact congrArg some (h w hw)
    · rfl
  unfold amend
  rw [hwatches]

theorem autoActivate_eq (a : Arbiter) {t : Tenant} (h : a.owner ≠ some t) :
    a.autoActivate t =
      { a with
        owner := some t
        cleanupRequested := false
        reacquire := ∅
        lastGrant := a.lastGrant + 1
        outstanding := a.outstanding ++ [⟨a.lastGrant + 1⟩]
        outbox := a.outbox ++ [.event (.ownerChanged a.owner (some t)),
          .event (.autoActivation t a.config.defaultClass),
          .connect t a.config.defaultClass ⟨a.lastGrant + 1⟩] } := by
  rw [autoActivate, setOwner_eq _ h]
  simp [publish, sendConnect, emit, issueGrant]

/-- The default tenant is activated because nobody owns the data path. -/
theorem acts_autoActivate (h : a.Orderly) {t : Tenant} (hfree : a.owner = none)
    (hknown : a.knows t = true) : ∃ new, Acts a (a.autoActivate t) new [] := by
  have hne : a.owner ≠ some t := by simp [hfree]
  obtain ⟨hpend, hre, -, -⟩ := h.free hfree
  have heq := a.autoActivate_eq hne
  have hturn : Turn 1 a (a.autoActivate t) [⟨t, a.config.defaultClass, ⟨a.lastGrant + 1⟩⟩] [] := by
    rw [heq]
    exact Turn.forward h rfl (.inr hfree) hknown hpend (by simp [hre]) rfl rfl nofun rfl
  rw [heq] at hturn ⊢
  exact ⟨_, hturn.acts rfl rfl rfl (by simp) (Nat.le_succ _) (if_neg hne).symm⟩

/-- Whether a change of radio brings the default tenant back: the radio went off before and is on
again, nobody owns the data path, and the configuration says so. -/
def bringsBack (a : Arbiter) (t : Tenant) (radio : Radio) : Bool :=
  radio = .on ∧ (a.watch? t).any Watch.recovering ∧ a.config.autoRecoverDefault ∧
    a.owner.isNone ∧ a.config.defaultTenant = some t

/-- A change of the radio is noted, and that is all unless it brings the default tenant back. -/
theorem hearRadio_eq (a : Arbiter) (t : Tenant) (source radio : Radio) :
    a.hearRadio t radio =
      if a.bringsBack t radio then
        (a.absorb (.hear (.radioChanged t source radio))).autoActivate t
      else a.absorb (.hear (.radioChanged t source radio)) := by
  -- Only what is done to the watch of the tenant matters, and there the two accounts agree.
  have hnoted : ∀ {f : Watch → Watch}, (∀ w, a.watch? t = some w →
      f w = w.correct (.radioChanged t source radio)) →
      a.amend t f = a.absorb (.hear (.radioChanged t source radio)) := fun hf => amend_congr hf
  unfold hearRadio bringsBack
  cases hw : a.watch? t with
  | none =>
    have hsame : a.amend t id = a := by
      unfold amend
      rw [List.modify_id]
    have hid := hnoted (f := id) fun w hw' => by
      rw [hw] at hw'
      cases hw'
    simpa [hsame] using hid
  | some w =>
    have hone : ∀ {f : Watch → Watch}, f w = w.correct (.radioChanged t source radio) →
        a.amend t f = a.absorb (.hear (.radioChanged t source radio)) := by
      intro f hf
      refine hnoted fun w' hw' => ?_
      rw [hw, Option.some.injEq] at hw'
      exact hw' ▸ hf
    simp only [amend_amend]
    by_cases hoff : radio.isOff = true
    · have hnot : radio ≠ .on := by
        rintro rfl
        cases hoff
      simp only [hoff, hnot, if_true, false_and, decide_false, Bool.false_eq_true, if_false]
      exact hone (by simp [Watch.correct, hoff])
    · simp only [hoff, Bool.false_eq_true, if_false]
      by_cases hback : radio = .on ∧ w.recovering = true
      · rw [if_pos hback, hone (by simp [Watch.correct, hback.1, Radio.isOff])]
        simp [hback.1, hback.2]
      · have hrecovering : w.recovering = (radio.isOff || (w.recovering && radio ≠ .on)) := by
          by_cases hon : radio = .on
          · have hkept : w.recovering = false := by simpa [hon] using hback
            simp [hkept, hoff]
          · simp [hon, hoff]
        rw [if_neg hback, hone (congrArg (Watch.mk _) hrecovering), if_neg]
        simpa using fun hon hrec => absurd ⟨hon, hrec⟩ hback

/-- Absorbing an operation makes no tenant known or unknown. -/
theorem knows_absorb (a : Arbiter) (op : Operation) (t : Tenant) :
    (a.absorb op).knows t = a.knows t := by
  cases op with
  | hear n =>
    unfold knows absorb amend
    rw [List.length_modify]
  | activate | deactivate | setDefaultTenant | grantAnswered | cleanupAnswered | drain => rfl

/-- What is known of a tenant after a notice is corrected if the notice is about it. -/
theorem watch?_absorb_hear (a : Arbiter) (n : Notice) (t : Tenant) :
    (a.absorb (.hear n)).watch? t =
      (a.watch? t).map fun w => if n.tenant = t then w.correct n else w := by
  show (a.watches.modify n.tenant.slot fun w => w.correct n)[t.slot]? = _
  rw [List.getElem?_modify]
  by_cases hsame : n.tenant = t
  · subst hsame
    simp [watch?]
  · have hslot : n.tenant.slot ≠ t.slot := fun heq => hsame (congrArg Tenant.mk heq)
    simp [watch?, hslot, hsame]

/-- A change of the radio is noted, and may activate the default tenant. -/
theorem acts_hearRadio (h : a.Orderly) (t : Tenant) (source radio : Radio) :
    ∃ new, Acts (a.absorb (.hear (.radioChanged t source radio))) (a.hearRadio t radio) new [] := by
  have horderly : (a.absorb (.hear (.radioChanged t source radio))).Orderly := h.amend t _
  rw [a.hearRadio_eq t source radio]
  split
  · next hback =>
    obtain ⟨-, hrecovering, -, hfree, -⟩ := of_decide_eq_true hback
    have hknown : a.knows t = true := by
      cases hw : a.watch? t with
      | none => simp [hw] at hrecovering
      | some w => exact knows_of_lastSeen (congrArg (Option.map Watch.lastSeen) hw)
    refine acts_autoActivate horderly (Option.isNone_iff_eq_none.1 hfree) ?_
    rwa [knows_absorb]
  · exact ⟨[], Acts.refl horderly⟩

/-- A notice is noted, and what idleness of the owner means is settled. -/
theorem acts_hear (h : a.Orderly) (n : Notice) :
    ∃ new, Acts (a.absorb (.hear n)) (a.hear n) new [] := by
  cases n with
  | updated s => exact ⟨[], Acts.refl (h.amend s.tenant _)⟩
  | radioChanged t source radio => exact acts_hearRadio h t source radio
  | enteredIdle t replaying =>
    have horderly : (a.absorb (.hear (.enteredIdle t replaying))).Orderly := h.amend t _
    unfold hear hearIdle
    simp only
    split
    · obtain ⟨new, hacts⟩ := (settles horderly.unasked).acts horderly.unasked
      exact ⟨_, hacts.before [] (by simp [unasked]) nofun rfl rfl rfl rfl⟩
    · exact ⟨[], Acts.refl horderly⟩

/-! ## Every operation -/

/-- An arbiter with orderly records absorbs an operation, and acts. -/
theorem acts (h : a.Orderly) (op : Operation) :
    Acts (a.absorb op) (a.after op) (a.emitted op) (a.passedOn op) := by
  have hacts : ∃ new, Acts (a.absorb op) (a.after op) new (a.passedOn op) := by
    cases op with
    | activate t c => exact acts_activate h t c
    | deactivate t c => exact acts_deactivate h t c
    | setDefaultTenant t => exact ⟨[], acts_setDefaultTenant h t⟩
    | grantAnswered g => exact acts_grantAnswered h g
    | cleanupAnswered t outcome => exact acts_cleanupAnswered h t outcome
    | hear n => exact acts_hear h n
    | drain => exact ⟨[], Acts.refl ⟨h.free, h.known, h.pending, h.nodup, h.issued⟩⟩
  obtain ⟨new, hacts⟩ := hacts
  rw [emitted_eq hacts.outbox]
  exact hacts

theorem orderly_start (config : ArbiterConfig) : (start config).Orderly :=
  ⟨fun _ => ⟨rfl, rfl, rfl, rfl⟩, nofun, nofun, List.nodup_nil, nofun⟩

/-- The records are orderly at any time. -/
theorem orderly_run (config : ArbiterConfig) (ops : List Operation) : (run config ops).Orderly := by
  induction ops using List.reverseRecOn with
  | nil => exact orderly_start config
  | append_singleton ops op ih =>
    rw [run_append]
    exact (acts ih op).orderly

end DataPath.Arbiter
