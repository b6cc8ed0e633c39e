import DataPath.Proofs.Arbiter.Waiting
import DataPath.Proofs.Service.Decree
import DataPath.Proofs.Service.Quiet

/-!
# What becomes of who waits for the data path

A tenant that asks for the data path while another owns it waits, with its classes.  Whatever the
service does, a class goes on waiting until one of four things happens, and each of them is seen
outside (`Fate`).

* The data path is handed over, and every class that waits is connected, under a new grant.
* The radio of the tenant is off, and every class that waits is refused.
* Another tenant asks for the data path: the one who asked last wins.  The arbiter has only now come
  to a request that was on its way before.
* The class is withdrawn by a deactivation.

When nothing is left to do, nobody waits any more.  So in every run that ends with nothing left to
do, every class that waited has met its fate (`fate_of_run`).

The theorem leaves out the runs in which the class is overtaken by a connect that the switch of the
owner has sent on (`Overtaken`).  Such a connect may have been parked during the release, and so be
older than the request that waits; it goes before it all the same (`overtaken_by_parked`).
-/

namespace DataPath.Service

/-- The next command is a connect that the switch of the owner has sent on. -/
def ownerAsksNext (s : Service) : Bool :=
  match s.commands with
  | .activate _ _ (.ask t _ _) :: _ => s.arbiter.owner = some t
  | _ => false

/-- The arbiter serves a connect that the switch of the owner has sent on: one that had been parked
until then, or one that found the switch idle. -/
def OwnerAsks (s s' : Service) : Prop :=
  s.ownerAsksNext = true ∧ ∃ time, (s.later time).move? .command = some s'

/-- A class does not wait any more, since the switch of the owner has asked. -/
structure Overtaken (t : Tenant) (c : DataClass) (s s' : Service) : Prop where
  asks : OwnerAsks s s'
  gone : ¬s'.arbiter.Waits t c

/-- What becomes of a class with which a tenant waits for the data path, when the service makes a
step. -/
inductive Fate (t : Tenant) (c : DataClass) (s s' : Service) : Prop where
  /-- The data path is handed over, with a connect for every class that waits. -/
  | granted (p : Arbiter.Pending) (hpending : s.arbiter.pending = some p) (htenant : p.tenant = t)
      (hc : c ∈ p.classes) (howner : s'.arbiter.owner = some t)
      (hevents : s'.journal.events =
        s.journal.events ++ [.ownerChanged s.arbiter.owner (some t)])
      (hsent : s'.requests t = s.requests t ++ List.zipWith .acquire p.classes.toList
        (Arbiter.grantsFrom s.arbiter.lastGrant p.classes.toList))
  /-- Every class that waits is refused. -/
  | refused (p : Arbiter.Pending) (hpending : s.arbiter.pending = some p) (htenant : p.tenant = t)
      (hc : c ∈ p.classes) (howner : s'.arbiter.owner = none)
      (hevents : s'.journal.events = s.journal.events ++ .ownerChanged s.arbiter.owner none ::
        p.classes.toList.map fun d => .activationRejected t d (.radioOff t))
  /-- An activation of another tenant is served, but not one that the switch of the owner has sent
  on. -/
  | displaced (u : Tenant) (d : DataClass) (client : Client) (rest : List (Arbiter.Command Client))
      (hcommands : s.commands = .activate u d client :: rest) (hne : u ≠ t)
      (hask : s.ownerAsksNext = false)
      (hgone : s'.arbiter.pendingOwner ≠ some t)
      (hevents : ∃ more, s'.journal.events =
        s.journal.events ++ .pendingReplaced t u :: more)
  /-- A deactivation of the class is served. -/
  | withdrawn (client : Client) (rest : List (Arbiter.Command Client))
      (hcommands : s.commands = .deactivate t c client :: rest)
      (hgone : ¬s'.arbiter.Waits t c)

variable {s s' s₀ : Service} {t : Tenant} {c : DataClass} {a : Arbiter}

/-- The requests in a mailbox after the arbiter has sent letters. -/
theorem requests_resume (hopen : s.AllOpen) (hp : ∃ p, s.post? t = some p)
    (acts : List (Arbiter.Action Client)) (hto : ∀ l ∈ letters acts, l.tenant = t) :
    (s.resume (a, acts)).requests t = s.requests t ++ (letters acts).map Letter.request := by
  have hknown : ∀ l ∈ letters acts, l.tenant.slot < s.posts.length := by
    intro l hl
    obtain ⟨p, hp⟩ := hp
    rw [hto l hl]
    exact lt_of_post? hp
  have hstill := still_resume hopen a acts hknown
  have hrequests : (s.resume (a, acts)).requests t = (s.resume (a, acts)).still.requests t := rfl
  have hdeliver := requests_deliver (s := { s.still with arbiter := a }) (t := t) hp (letters acts)
  have hall : (letters acts).filter (·.tenant = t) = letters acts :=
    List.filter_eq_self.2 fun l hl => decide_eq_true (hto l hl)
  rw [hall] at hdeliver
  rw [hrequests, hstill]
  exact hdeliver

/-- Connects of some classes are requests with the next grants. -/
theorem letterOf_connectsFrom (t : Tenant) (n : Nat) (cs : List DataClass) :
    ((Arbiter.connectsFrom t n cs).filterMap letterOf).map Letter.request =
        List.zipWith .acquire cs (Arbiter.grantsFrom n cs) ∧
      ∀ l ∈ (Arbiter.connectsFrom t n cs).filterMap letterOf, l.tenant = t := by
  induction cs generalizing n with
  | nil => exact ⟨rfl, nofun⟩
  | cons c cs ih =>
    obtain ⟨h1, h2⟩ := ih (n + 1)
    rw [Arbiter.connectsFrom, List.filterMap_cons_some (letterOf_connect t c ⟨n + 1⟩)]
    refine ⟨?_, fun l hl => ?_⟩
    · rw [List.map_cons, h1]
      rfl
    · rcases List.mem_cons.1 hl with rfl | hl
      · rfl
      · exact h2 l hl

/-! ## One step -/

/-- Who gets the data path is sent a connect for every class that waits. -/
theorem requests_of_granted (h : Invariant s) (hposts : s₀.posts = s.posts) {p : Arbiter.Pending}
    (hp : s.arbiter.pending = some p) {e : Event} {new : List Arbiter.Effect}
    (hnew : new = .event e ::
      Arbiter.connectsFrom p.tenant s.arbiter.lastGrant p.classes.toList) :
    (s₀.resume (a, new.map Arbiter.perform)).requests p.tenant =
      s.requests p.tenant ++ List.zipWith .acquire p.classes.toList
        (Arbiter.grantsFrom s.arbiter.lastGrant p.classes.toList) := by
  obtain ⟨hrequests, hto⟩ := letterOf_connectsFrom p.tenant s.arbiter.lastGrant p.classes.toList
  have hletters : letters (new.map Arbiter.perform) =
      (Arbiter.connectsFrom p.tenant s.arbiter.lastGrant p.classes.toList).filterMap
        letterOf := by
    rw [letters_map_perform, hnew, List.filterMap_cons_none (letterOf_event _)]
  have hopen : s₀.AllOpen := fun q hq => h.wired.allOpen q (hposts ▸ hq)
  have hpost : ∃ q, s₀.post? p.tenant = some q := by
    refine Wired.exists_post ?_
    rw [hposts]
    exact (h.wired.knows_iff p.tenant).1 (h.orderly.pending p hp).1
  have hsame : s₀.requests p.tenant = s.requests p.tenant := by
    unfold requests post?
    rw [hposts]
  have hsent := requests_resume (a := a) hopen hpost (new.map Arbiter.perform) (hletters ▸ hto)
  rw [hletters, hrequests, hsame] at hsent
  exact hsent

/-- Who waits goes on waiting or meets its fate when the arbiter takes a notice or an answer. -/
theorem waits_or_fate_of_keptOrServed (h : Invariant s) (hw : s.arbiter.Waits t c)
    (hposts : s₀.posts = s.posts) (hevents : s₀.journal.events = s.journal.events)
    (hk : ∀ p, s.arbiter.pending = some p → Arbiter.KeptOrServed s.arbiter p a) :
    (s₀.resume (a.conclude [])).arbiter.Waits t c ∨ Fate t c s (s₀.resume (a.conclude [])) := by
  obtain ⟨p, hp, rfl, hc⟩ := hw
  obtain ⟨new, hout, hcase⟩ := hk p hp
  rw [h.wired.outbox, List.nil_append] at hout
  have hconclude := conclude_eq hout []
  rw [List.nil_append] at hconclude
  rw [hconclude]
  have hpublished := events_resume s₀ { a with outbox := [] } (new.map Arbiter.perform)
  rw [filterMap_event_perform, hevents] at hpublished
  rcases hcase with hpending | hserved
  · refine .inl ⟨p, ?_, rfl, hc⟩
    rw [arbiter_resume]
    exact hpending
  · refine .inr ?_
    cases hserved with
    | granted howner hnew =>
      have hnews : Arbiter.published new = [.ownerChanged s.arbiter.owner (some p.tenant)] := by
        rw [hnew, Arbiter.published_event, Arbiter.published_connectsFrom]
      rw [hnews] at hpublished
      refine .granted p hp rfl hc ?_ hpublished (requests_of_granted h hposts hp hnew)
      rw [arbiter_resume]
      exact howner
    | refused howner hnew =>
      have hnews : Arbiter.published new = .ownerChanged s.arbiter.owner none ::
          p.classes.toList.map fun d => .activationRejected p.tenant d (.radioOff p.tenant) := by
        rw [hnew, Arbiter.published_event, Arbiter.published_map_event]
      rw [hnews] at hpublished
      refine .refused p hp rfl hc ?_ hpublished
      rw [arbiter_resume]
      exact howner

theorem waits_resume {s₀ : Service} {a : Arbiter} (h : a.Waits t c)
    (acts : List (Arbiter.Action Client)) : (s₀.resume (a.conclude acts)).arbiter.Waits t c := by
  rw [conclude_eq rfl, arbiter_resume]
  exact h

/-- Who waits goes on waiting when the arbiter serves an activation, or is displaced by it. -/
theorem waits_or_fate_of_activate (h : Invariant s) (hw : s.arbiter.Waits t c) {u : Tenant}
    {d : DataClass} {client : Client} {rest : List (Arbiter.Command Client)}
    (hcommands : s.commands = .activate u d client :: rest) (hask : s.ownerAsksNext = false) :
    (({ s with commands := rest } : Service).serve (.activate u d client)).arbiter.Waits t c ∨
      Fate t c s (({ s with commands := rest } : Service).serve (.activate u d client)) := by
  have hserve : ({ s with commands := rest } : Service).serve (.activate u d client) =
      ({ s with commands := rest } : Service).resume ((s.arbiter.activate u d).1.conclude
        [Arbiter.execute u (Arbiter.forwarded d) client (s.arbiter.activate u d).2]) := rfl
  rw [hserve]
  rcases Arbiter.activate_waits h.orderly hw u d with hstill | hgone
  · exact .inl (waits_resume hstill _)
  · obtain ⟨more, hout⟩ := hgone.outbox
    rw [h.wired.outbox, List.nil_append] at hout
    have hverdict : (Arbiter.execute u (Arbiter.forwarded d) client
        (s.arbiter.activate u d).2).event? = none := by
      cases (s.arbiter.activate u d).2 <;> rfl
    have hpublished := events_resume { s with commands := rest }
      { (s.arbiter.activate u d).1 with outbox := [] }
      (Arbiter.execute u (Arbiter.forwarded d) client (s.arbiter.activate u d).2 ::
        (Arbiter.Effect.event (.pendingReplaced t u) :: more).map Arbiter.perform)
    rw [List.filterMap_cons_none hverdict, filterMap_event_perform,
      Arbiter.published_event] at hpublished
    rw [conclude_eq hout]
    refine .inr (.displaced u d client rest hcommands hgone.ne hask ?_ ⟨_, hpublished⟩)
    rw [arbiter_resume]
    exact hgone.gone

/-- Who waits goes on waiting when the arbiter serves a deactivation, or has withdrawn by it. -/
theorem waits_or_fate_of_deactivate (hw : s.arbiter.Waits t c) {u : Tenant} {d : DataClass}
    {client : Client} {rest : List (Arbiter.Command Client)}
    (hcommands : s.commands = .deactivate u d client :: rest) :
    (({ s with commands := rest } : Service).serve (.deactivate u d client)).arbiter.Waits t c ∨
      Fate t c s (({ s with commands := rest } : Service).serve (.deactivate u d client)) := by
  have hserve : ({ s with commands := rest } : Service).serve (.deactivate u d client) =
      ({ s with commands := rest } : Service).resume ((s.arbiter.deactivate u d).1.conclude
        [Arbiter.execute u (fun _ => .disconnect d) client (s.arbiter.deactivate u d).2]) := rfl
  rw [hserve]
  rcases Arbiter.deactivate_waits hw u d with hstill | ⟨rfl, rfl, hgone⟩
  · exact .inl (waits_resume hstill _)
  · refine .inr (.withdrawn client rest hcommands ?_)
    rw [conclude_eq rfl, arbiter_resume]
    exact hgone

/-- Who waits goes on waiting or meets its fate when the arbiter serves a command. -/
theorem waits_or_fate_of_serve (h : Invariant s) (hw : s.arbiter.Waits t c)
    {command : Arbiter.Command Client} {rest : List (Arbiter.Command Client)}
    (hcommands : s.commands = command :: rest) (hask : s.ownerAsksNext = false) :
    (({ s with commands := rest } : Service).serve command).arbiter.Waits t c ∨
      Fate t c s (({ s with commands := rest } : Service).serve command) := by
  cases command with
  | activate => exact waits_or_fate_of_activate h hw hcommands hask
  | deactivate => exact waits_or_fate_of_deactivate hw hcommands
  | status client => exact .inl (waits_resume hw [.answer client (.status s.arbiter.status)])
  | setDefaultTenant u client =>
    refine .inl ?_
    unfold serve Arbiter.serve
    simp only
    split
    · next a hset =>
      exact waits_resume ((Arbiter.waits_congr (Arbiter.setDefaultTenant_pending hset)).2 hw) _
    · exact waits_resume hw _
  | shutdown => exact absurd rfl (h.wired.commands _ (hcommands ▸ List.mem_cons_self))

/-- Who waits goes on waiting or meets its fate, whatever move is made. -/
theorem waits_or_fate_of_move (h : Invariant s) (hw : s.arbiter.Waits t c) {move : Move}
    (hm : s.move? move = some s') (hask : move = .command → s.ownerAsksNext = false) :
    s'.arbiter.Waits t c ∨ Fate t c s s' := by
  cases hmove : move.isOfArbiter with
  | false =>
    rw [move_arbiter hmove hm]
    exact .inl hw
  | true =>
    cases move with
    | notice =>
      obtain ⟨n, rest, hnotices, rfl⟩ := exists_notice h.wired hm
      exact waits_or_fate_of_keptOrServed (a := s.arbiter.hear n) h hw rfl rfl
        fun p hp => Arbiter.hear_keptOrServed h.orderly hp n
    | tidings =>
      obtain ⟨⟨u, tracked, outcome⟩, rest, hnotices, htidings, rfl⟩ := exists_tidings hm
      cases tracked with
      | grant g =>
        exact waits_or_fate_of_keptOrServed (a := s.arbiter.grantAnswered g) h hw rfl rfl
          fun p hp => Arbiter.grantAnswered_keptOrServed h.orderly hp g
      | cleanup =>
        exact waits_or_fate_of_keptOrServed (a := s.arbiter.cleanupAnswered u outcome) h hw rfl rfl
          fun p hp => Arbiter.cleanupAnswered_keptOrServed h.orderly hp u outcome
    | command =>
      obtain ⟨command, rest, hnotices, htidings, hcommands, rfl⟩ := exists_command hm
      exact waits_or_fate_of_serve h hw hcommands (hask rfl)
    | _ => cases hmove

/-- Who waits goes on waiting or meets its fate in every step, unless the switch of the owner
asks. -/
theorem waits_or_fate (h : Invariant s) (hw : s.arbiter.Waits t c) (hs : Step s s')
    (hown : ¬OwnerAsks s s') : s'.arbiter.Waits t c ∨ Fate t c s s' := by
  obtain ⟨time, move, hm⟩ := hs
  have hask : move = .command → (s.later time).ownerAsksNext = false := by
    rintro rfl
    exact Bool.eq_false_iff.2 fun hnext => hown ⟨hnext, time, hm⟩
  refine (waits_or_fate_of_move (h.later time) hw hm hask).imp_right fun hfate => ?_
  -- the time is nothing that a fate depends on
  cases hfate with
  | granted p hpending htenant hc howner hevents hsent =>
    exact .granted p hpending htenant hc howner hevents hsent
  | refused p hpending htenant hc howner hevents =>
    exact .refused p hpending htenant hc howner hevents
  | displaced u d client rest hcommands hne hask hgone hevents =>
    exact .displaced u d client rest hcommands hne hask hgone hevents
  | withdrawn client rest hcommands hgone => exact .withdrawn client rest hcommands hgone

/-! ## Whole runs -/

/-- What was decided between two states: the events on the ownership, and those that report a
failure. -/
def decided (s s' : Service) : List Event :=
  (s'.journal.events.drop s.journal.events.length).filter fun e => e.isOwnership || e.isFailure

/-- A tenant waits with a class, and the service comes to rest by itself, with these decisions. -/
structure RestsWith (config : ArbiterConfig) (modem : ModemConfig) (t : Tenant) (c : DataClass)
    (decisions : List Event) (run : Nat → Service) (n : Nat) : Prop where
  reachable : Reachable config modem (run 0)
  steps : ∀ i < n, Step (run i) (run (i + 1))
  quiet : IsQuiet (run n)
  waits : (run 0).arbiter.Waits t c
  decided : decided (run 0) (run n) = decisions

/-- A tenant waits with a class, and the service comes to rest by itself, with these decisions.  The
switch of the owner asks for nothing meanwhile. -/
def RestsAfter (config : ArbiterConfig) (modem : ModemConfig) (t : Tenant) (c : DataClass)
    (decisions : List Event) : Prop :=
  ∃ (run : Nat → Service) (n : Nat), RestsWith config modem t c decisions run n ∧
    ∀ i < n, ¬OwnerAsks (run i) (run (i + 1))

/-- Moves that are made one after the other are a run. -/
theorem exists_run {moves : List Move} (h : s.follow? moves = some s') :
    ∃ run : Nat → Service, run 0 = s ∧ run moves.length = s' ∧
      ∀ (i : Nat) (hi : i < moves.length), s.follow? (moves.take i) = some (run i) ∧
        (run i).move? moves[i] = some (run (i + 1)) := by
  induction moves generalizing s with
  | nil => exact ⟨fun _ => s, rfl, Option.some.inj h, nofun⟩
  | cons move moves ih =>
    obtain ⟨mid, hmid, hrest⟩ := Option.bind_eq_some_iff.1 h
    obtain ⟨run, hfirst, hlast, hrun⟩ := ih hrest
    refine ⟨fun i => i.casesOn s run, rfl, hlast, fun i hi => ?_⟩
    cases i with
    | zero => exact ⟨rfl, hmid.trans (congrArg some hfirst.symm)⟩
    | succ i =>
      obtain ⟨hfollow, hmove⟩ := hrun i (Nat.lt_of_succ_lt_succ hi)
      refine ⟨?_, hmove⟩
      rw [List.take_succ_cons, follow?, hmid]
      exact hfollow

/-- Who waits after some moves; and what is decided by more moves after these, if nothing is left to
do at the end. -/
def report? (s : Service) (before after : List Move) : Option (Option Arbiter.Pending × List Event) :=
  (s.follow? before).bind fun mid => (mid.follow? after).bind fun last =>
    if IsQuiet last then some (mid.arbiter.pending, decided mid last) else none

/-- What can be seen of a state that is met. -/
theorem any_follow? {moves : List Move} (h : s.follow? moves = some s') (p : Service → Bool) :
    (s.follow? moves).any p = p s' := by
  rw [h, Option.any_some]

section Report

variable {config : ArbiterConfig} {modem : ModemConfig}

/-- A run that can be followed, from a state that can be reached. -/
theorem exists_restsWith (h : Reachable config modem s) (before after : List Move)
    (classes : ClassSet) (decisions : List Event)
    (hreport : s.report? before after = some (some ⟨t, classes⟩, decisions)) (hc : c ∈ classes) :
    ∃ run : Nat → Service, RestsWith config modem t c decisions run after.length ∧
      ∀ (i : Nat) (hi : i < after.length), s.follow? (before ++ after.take i) = some (run i) ∧
        (run i).move? after[i] = some (run (i + 1)) := by
  obtain ⟨mid, hmid, hafter⟩ := Option.bind_eq_some_iff.1 hreport
  obtain ⟨last, hlast, heq⟩ := Option.bind_eq_some_iff.1 hafter
  obtain ⟨run, rfl, rfl, hrun⟩ := exists_run hlast
  split at heq
  · next hquiet =>
    simp only [Option.some.injEq, Prod.mk.injEq] at heq
    have hsteps : ∀ i < after.length, Step (run i) (run (i + 1)) :=
      fun i hi => step_of_move (hrun i hi).2
    refine ⟨run, ⟨h.follow hmid, hsteps, hquiet, ⟨_, heq.1, rfl, hc⟩, heq.2⟩, fun i hi => ?_⟩
    rw [follow?_append, hmid]
    exact hrun i hi
  · cases heq

/-- A run that can be followed, and in which the switch of the owner never asks. -/
theorem restsAfter_of_report (h : Reachable config modem s) (before after : List Move)
    (classes : ClassSet) {decisions : List Event}
    (hreport : s.report? before after = some (some ⟨t, classes⟩, decisions)) (hc : c ∈ classes)
    (hasks : ∀ i < after.length, (s.follow? (before ++ after.take i)).any ownerAsksNext = false) :
    RestsAfter config modem t c decisions := by
  obtain ⟨run, hrests, hrun⟩ := exists_restsWith h before after classes _ hreport hc
  refine ⟨run, after.length, hrests, fun i hi hown => ?_⟩
  have hnext := (any_follow? (hrun i hi).1 ownerAsksNext).symm.trans (hasks i hi)
  rw [hown.1] at hnext
  cases hnext

end Report

/-- Nobody waits when nothing is left to do. -/
theorem Content.not_waits (h : Content s) (t : Tenant) (c : DataClass) : ¬s.arbiter.Waits t c := by
  rintro ⟨p, hp, -, -⟩
  rw [h.pending] at hp
  cases hp

/-- Every class that waits meets its fate in every run that the service makes by itself until
nothing is left to do, and it waits until then, unless it is overtaken. -/
theorem fate_of_run {config : ArbiterConfig} {modem : ModemConfig} {run : Nat → Service} {n : Nat}
    (h : Reachable config modem (run 0)) (hrun : ∀ i < n, Step (run i) (run (i + 1)))
    (hquiet : IsQuiet (run n)) (hw : (run 0).arbiter.Waits t c)
    (hown : ∀ i < n, (∀ j ≤ i, (run j).arbiter.Waits t c) → ¬Overtaken t c (run i) (run (i + 1))) :
    ∃ i < n, (∀ j ≤ i, (run j).arbiter.Waits t c) ∧ Fate t c (run i) (run (i + 1)) := by
  have hreach : ∀ i ≤ n, Reachable config modem (run i) := by
    intro i hi
    induction i with
    | zero => exact h
    | succ i ih => exact (ih (Nat.le_of_succ_le hi)).step (hrun i hi)
  by_contra hno
  -- a class that never meets its fate waits for ever
  have hwaits : ∀ i ≤ n, ∀ j ≤ i, (run j).arbiter.Waits t c := by
    intro i
    induction i with
    | zero =>
      intro _ j hj
      rw [Nat.le_zero.1 hj]
      exact hw
    | succ i ih =>
      intro hi j hj
      have hbefore := ih (Nat.le_of_succ_le hi)
      rcases Nat.le_succ_iff.1 hj with hj | rfl
      · exact hbefore j hj
      · by_contra hgone
        have hasks : ¬OwnerAsks (run i) (run (i + 1)) := fun hask => hown i hi hbefore ⟨hask, hgone⟩
        have hinv := (hreach i (Nat.le_of_succ_le hi)).invariant
        have hcase := waits_or_fate hinv (hbefore i (Nat.le_refl i)) (hrun i hi) hasks
        exact hno ⟨i, hi, hbefore, hcase.resolve_left hgone⟩
  exact ((hreach n (Nat.le_refl n)).invariant.content hquiet).not_waits t c
    (hwaits n (Nat.le_refl n) n (Nat.le_refl n))

/-- Two slots, of which the first is active.  The second has to wait, and gets the data path. -/
theorem fate_contended : ∃ (run : Nat → Service) (n : Nat),
    RestsWith {} (promptModem 2) ⟨1⟩ .mms [.ownerChanged (some ⟨0⟩) (some ⟨1⟩)] run n ∧
      (∀ i < n, ¬OwnerAsks (run i) (run (i + 1))) ∧
      ∃ i < n, (∀ j ≤ i, (run j).arbiter.Waits ⟨1⟩ .mms) ∧ Fate ⟨1⟩ .mms (run i) (run (i + 1)) := by
  have hstart : Service.start {} (promptModem 2) = .ok (ofConfig {} (promptModem 2)) := rfl
  have hreach := ((Reachable.start hstart).accept 0 (.activate ⟨0⟩ .default) rfl).run.accept 1
    (.activate ⟨1⟩ .mms) rfl
  have hrests : RestsAfter {} (promptModem 2) ⟨1⟩ .mms [.ownerChanged (some ⟨0⟩) (some ⟨1⟩)] :=
    restsAfter_of_report hreach [.command]
      [.read ⟨0⟩, .execute, .notice, .hear ⟨0⟩, .notice, .notice, .read ⟨1⟩, .execute, .notice,
        .hear ⟨1⟩, .hear ⟨1⟩, .notice, .carry (.relay ⟨0⟩ 2), .tidings, .carry (.relay ⟨1⟩ 1),
        .tidings]
      (ClassSet.empty.insert .mms) (by decide +kernel) (by decide) (by decide +kernel)
  obtain ⟨run, n, hrests, hown⟩ := hrests
  exact ⟨run, n, hrests, hown,
    fate_of_run hrests.reachable hrests.steps hrests.quiet hrests.waits
      fun i hi _ hover => hown i hi hover.asks⟩

/-- A class can be overtaken.  The first slot is active, is told to let go of its class, and is then
sent a connect, which its switch parks.  The second slot asks after that, and is displaced by the
connect, for which the switch asks again. -/
theorem overtaken_by_parked : ∃ (run : Nat → Service) (n : Nat),
    RestsWith {} (promptModem 2) ⟨1⟩ .default [.pendingReplaced ⟨1⟩ ⟨0⟩] run n ∧
      ∃ i < n, Overtaken ⟨1⟩ .default (run i) (run (i + 1)) := by
  have hstart : Service.start {} (promptModem 2) = .ok (ofConfig {} (promptModem 2)) := rfl
  have hactive := ((Reachable.start hstart).accept 0 (.activate ⟨0⟩ .default) rfl).run
  have hreach := ((hactive.accept 1 (.call ⟨0⟩ (.disconnect .default)) rfl).accept 2
    (.activate ⟨0⟩ .mms) rfl).accept 3 (.activate ⟨1⟩ .default) rfl
  obtain ⟨run, hrests, hrun⟩ := exists_restsWith (t := ⟨1⟩) (c := .default) hreach
    [.command, .command]
    [.read ⟨0⟩, .read ⟨0⟩, .read ⟨0⟩, .execute, .execute, .notice, .notice, .hear ⟨0⟩, .hear ⟨0⟩,
      .notice, .notice, .carry (.relay ⟨0⟩ 4), .tidings, .carry (.ask ⟨0⟩ 3), .command,
      .carry (.ask ⟨0⟩ 3), .carry (.relay ⟨0⟩ 3), .tidings, .read ⟨0⟩, .execute, .notice,
      .hear ⟨0⟩, .hear ⟨0⟩, .notice, .carry (.relay ⟨0⟩ 5), .tidings]
    (ClassSet.empty.insert .default) [.pendingReplaced ⟨1⟩ ⟨0⟩] (by decide +kernel) (by decide)
  -- The connect is served by the move number 14.
  have hnext : (run 14).ownerAsksNext = true :=
    (any_follow? (hrun 14 (by decide)).1 ownerAsksNext).symm.trans (by decide +kernel)
  have hserved : ((run 14).later 0).move? .command = some (run 15) := by
    rw [later_zero]
    exact (hrun 14 (by decide)).2
  have hnone : (run 15).arbiter.pending.isNone = true :=
    (any_follow? (hrun 15 (by decide)).1 fun s => s.arbiter.pending.isNone).symm.trans
      (by decide +kernel)
  refine ⟨run, _, hrests, 14, by decide, ⟨hnext, 0, hserved⟩, ?_⟩
  rintro ⟨p, hp, -⟩
  rw [hp] at hnone
  cases hnone

/-- The second slot waits in vain: the service comes to rest by itself, and the second slot has
neither got the data path nor been refused.  The switch of the owner does not ask.

* A connect of a third slot was on its way.
* The deactivation was on its way. -/
theorem waits_in_vain :
    RestsAfter { tenantCount := 3 } (promptModem 3) ⟨1⟩ .default
      [.pendingReplaced ⟨1⟩ ⟨2⟩, .ownerChanged (some ⟨0⟩) (some ⟨2⟩)] ∧
    RestsAfter {} (promptModem 2) ⟨1⟩ .default [.ownerChanged (some ⟨0⟩) none] := by
  have htwo : Service.start {} (promptModem 2) = .ok (ofConfig {} (promptModem 2)) := rfl
  have hthree : Service.start { tenantCount := 3 } (promptModem 3) =
      .ok (ofConfig { tenantCount := 3 } (promptModem 3)) := rfl
  have hactive := ((Reachable.start htwo).accept 0 (.activate ⟨0⟩ .default) rfl).run
  have hactive' := ((Reachable.start hthree).accept 0 (.activate ⟨0⟩ .default) rfl).run
  refine ⟨?_, ?_⟩
  · have hreach := (hactive'.accept 1 (.activate ⟨1⟩ .default) rfl).accept 2
      (.call ⟨2⟩ (.connect .default)) rfl
    exact restsAfter_of_report hreach [.command]
      [.read ⟨2⟩, .carry (.ask ⟨2⟩ 1), .command, .read ⟨0⟩, .execute, .notice, .hear ⟨0⟩, .notice,
        .notice, .read ⟨2⟩, .execute, .notice, .hear ⟨2⟩, .hear ⟨2⟩, .notice, .carry (.ask ⟨2⟩ 1),
        .carry (.relay ⟨0⟩ 2), .tidings, .carry (.relay ⟨2⟩ 2), .tidings]
      (ClassSet.empty.insert .default) (by decide +kernel) (by decide) (by decide +kernel)
  · have hreach := (hactive.accept 1 (.activate ⟨1⟩ .default) rfl).accept 2
      (.deactivate ⟨1⟩ .default) rfl
    exact restsAfter_of_report hreach [.command]
      [.command, .read ⟨0⟩, .execute, .notice, .hear ⟨0⟩, .notice, .notice, .read ⟨1⟩,
        .carry (.relay ⟨0⟩ 2), .tidings, .carry (.relay ⟨1⟩ 1)]
      (ClassSet.empty.insert .default) (by decide +kernel) (by decide) (by decide +kernel)

end DataPath.Service
