import DataPath.Proofs.Arbiter.Record
import DataPath.Proofs.Switch.Told

/-!
# Observers of a station

Subscribers come and go while a station runs, some of them want to be told everything, and the
arbiter is one of these.  What such an observer believes of the switch is right.

A run is a list of occasions, on each of which the station takes in a message or a signal and then
carries out everything that its switch wants done.  What the switch tells its subscribers on an
occasion is read off its outbox, round by round (`told`), and not off what the station sends.

* Whoever subscribes is sent, in order, what is told from then until the subscription is given up,
  as far as it passes the filter; and an observer of everything is sent the present state first
  (`delivered_of_subscribed`).
* What is told in a run reports how the state has changed (`ready_takeAll`), so the last notice that
  such an observer has been sent is the present state.
* An arbiter that has heard these notices about the tenant, and no others since, knows the tenant
  as it is, no matter what else it was asked for (`lastSeen?_of_heardAbout`).

All three are put together in `observers_of_run`.
-/

namespace DataPath

namespace Station

variable {ρ σ : Type} {world : Surroundings σ} {st : Station ρ σ}

/-! ## Runs -/

/-- What a station takes in: a message out of its mailbox, or a signal of the modem. -/
inductive Input (ρ σ : Type) where
  | message (message : Message ρ σ)
  | signal (signal : Signal)
  deriving DecidableEq, Repr

/-- Something that a station takes in, and what it finds around it then. -/
structure Occasion (ρ σ : Type) where
  world : Surroundings σ
  input : Input ρ σ

/-- Take what an occasion brings. -/
def take (st : Station ρ σ) (o : Occasion ρ σ) : Station ρ σ × List (Action ρ σ) :=
  match o.input with
  | .message message => st.receive o.world message
  | .signal signal => st.hear o.world signal

/-- Take what one occasion after the other brings. -/
def takeAll (st : Station ρ σ) : List (Occasion ρ σ) → Station ρ σ × List (Action ρ σ)
  | [] => (st, [])
  | o :: os =>
    let (st, now) := st.take o
    let (st, later) := st.takeAll os
    (st, now ++ later)

theorem takeAll_append (st : Station ρ σ) (os os' : List (Occasion ρ σ)) :
    st.takeAll (os ++ os') =
      (((st.takeAll os).1.takeAll os').1, (st.takeAll os).2 ++ ((st.takeAll os).1.takeAll os').2) := by
  induction os generalizing st with
  | nil => simp [takeAll]
  | cons o os ih => simp [takeAll, ih]

/-- The notices that the switch emits on an occasion, in order. -/
def told (st : Station ρ σ) (o : Occasion ρ σ) : List Notice :=
  match o.input with
  | .message (.request id request handle) =>
    (st.switch.handle id request handle).tellings o.world.accepts
  | .message _ => []
  | .signal signal => (st.switch.hear signal).tellings o.world.accepts

/-- The notices that the switch emits on one occasion after the other. -/
def toldAll (st : Station ρ σ) : List (Occasion ρ σ) → List Notice
  | [] => []
  | o :: os => st.told o ++ (st.take o).1.toldAll os

/-! ## What is told -/

/-- Everything that the switch of a station wanted done is carried out. -/
structure Ready (st : Station ρ σ) : Prop where
  sound : st.switch.Sound
  outbox : st.switch.outbox = []

theorem ready_start (tenant : Tenant) (arbitrated : Bool) :
    (start tenant arbitrated : Station ρ σ).Ready :=
  ⟨Switch.sound_start tenant arbitrated, rfl⟩

theorem switch_settle (world : Surroundings σ) (st : Station ρ σ) :
    (st.settle world).1.switch = (st.switch.carryOut world.accepts).1 :=
  switch_performAll world _ _

/-- Carrying out everything leaves a station ready, and reports what has changed. -/
theorem ready_settle (hsound : st.switch.Sound) (hissued : st.switch.Issued) {before : Snapshot}
    (hreports : Switch.Reports before (Switch.notices st.switch.outbox) st.switch.snapshot) :
    (st.settle world).1.Ready ∧ Switch.Reports before (st.switch.tellings world.accepts)
      (st.settle world).1.switch.snapshot := by
  refine ⟨⟨?_, ?_⟩, ?_⟩ <;> rw [switch_settle]
  · exact hsound.carryOut world.accepts
  · exact Switch.outbox_carryOut hsound hissued world.accepts
  · exact Switch.reports_tellings hsound hissued hreports

/-- Whatever an occasion brings, the station is ready afterwards, and what was told reports what
has changed. -/
theorem ready_take (h : st.Ready) (o : Occasion ρ σ) :
    (st.take o).1.Ready ∧
      Switch.Reports st.switch.snapshot (st.told o) (st.take o).1.switch.snapshot := by
  -- What joins an empty outbox is all there is to be carried out.
  have hreports : ∀ {s : Switch ρ}, Switch.Tells st.switch s →
      Switch.Reports st.switch.snapshot (Switch.notices s.outbox) s.snapshot := by
    rintro s ⟨new, hout, hnew⟩
    rw [hout, h.outbox]
    exact hnew
  have hnothing : st.Ready ∧ Switch.Reports st.switch.snapshot [] st.switch.snapshot :=
    ⟨h, Switch.Reports.refl _⟩
  obtain ⟨world, input⟩ := o
  cases input with
  | message message =>
    cases message with
    | request id request handle =>
      exact ready_settle (h.sound.handle id request handle)
        ((Switch.grows_handle st.switch id request handle).issued h.outbox)
        (hreports (Switch.tells_handle st.switch id request handle))
    | subscribe filter sink handle => exact ⟨⟨h.sound, h.outbox⟩, hnothing.2⟩
    | unsubscribe id handle => exact ⟨⟨h.sound, h.outbox⟩, hnothing.2⟩
    | shutdown => exact hnothing
  | signal signal =>
    exact ready_settle (h.sound.hear signal)
      ((Switch.grows_hear st.switch signal).issued h.outbox)
      (hreports (Switch.tells_hear st.switch signal))

theorem ready_takeAll (h : st.Ready) (os : List (Occasion ρ σ)) :
    (st.takeAll os).1.Ready ∧
      Switch.Reports st.switch.snapshot (st.toldAll os) (st.takeAll os).1.switch.snapshot := by
  induction os generalizing st with
  | nil => exact ⟨h, Switch.Reports.refl _⟩
  | cons o os ih =>
    obtain ⟨hready, hreports⟩ := ready_take h o
    obtain ⟨hready', hreports'⟩ := ih hready
    exact ⟨hready', hreports.trans hreports'⟩

/-! ## What is sent to a subscriber -/

/-- The notices that subscriptions let pass, once for each. -/
def passing (subs : List (Subscriber σ)) (ns : List Notice) : List Notice :=
  ns.flatMap fun n => (subs.filter fun sub => n.passes sub.filter).map fun _ => n

@[simp] theorem passing_nil (ns : List Notice) : passing ([] : List (Subscriber σ)) ns = [] := by
  simp [passing]

@[simp] theorem passing_singleton (sub : Subscriber σ) (ns : List Notice) :
    passing [sub] ns = ns.filter fun n => n.passes sub.filter := by
  induction ns with
  | nil => rfl
  | cons n ns ih =>
    have hcons : passing [sub] (n :: ns) =
        (([sub].filter fun x => n.passes x.filter).map fun _ => n) ++ passing [sub] ns := rfl
    rw [hcons, ih, List.filter_cons]
    cases hn : n.passes sub.filter <;> simp [hn]

variable [DecidableEq σ] {sink : σ}

/-- The notices sent to a subscriber, in order. -/
def delivered (sink : σ) (actions : List (Action ρ σ)) : List Notice :=
  actions.filterMap fun
    | .deliver target notice => if target = sink then some notice else none
    | _ => none

@[simp] theorem delivered_nil (sink : σ) : delivered sink ([] : List (Action ρ σ)) = [] := rfl

@[simp] theorem delivered_append (sink : σ) (as bs : List (Action ρ σ)) :
    delivered sink (as ++ bs) = delivered sink as ++ delivered sink bs := List.filterMap_append

/-- The subscriptions of a subscriber. -/
def own (st : Station ρ σ) (sink : σ) : List (Subscriber σ) :=
  st.subscribers.filter fun sub => sub.sink = sink

/-- A notice goes to the subscriptions that let it pass, and a subscriber who listens stays. -/
theorem notify_own (hlive : st.own sink = [] ∨ world.listens sink = true) (n : Notice) :
    (st.notify world n).1.own sink = st.own sink ∧
      delivered sink (st.notify world n).2 = passing (st.own sink) [n] := by
  have hlistens : ∀ sub ∈ st.own sink, world.listens sub.sink = true := by
    intro sub hsub
    have hsink : sub.sink = sink := by simpa using (List.mem_filter.1 hsub).2
    rw [hsink]
    exact hlive.resolve_left fun hnone => by simp [hnone] at hsub
  constructor
  · have hcomm : (st.notify world n).1.own sink = (st.own sink).filter fun sub =>
        !n.passes sub.filter || world.listens sub.sink := List.filter_comm ..
    rw [hcomm, List.filter_eq_self]
    intro sub hsub
    simp [hlistens sub hsub]
  · have htakers : ∀ subs : List (Subscriber σ),
        delivered sink (subs.map fun sub => (.deliver sub.sink n : Action ρ σ)) =
          (subs.filter fun sub => sub.sink = sink).map fun _ => n := by
      intro subs
      induction subs with
      | nil => rfl
      | cons sub subs ih =>
        have hcons : delivered sink ((sub :: subs).map fun sub => (.deliver sub.sink n : Action ρ σ)) =
            (if sub.sink = sink then [n] else []) ++
              delivered sink (subs.map fun sub => (.deliver sub.sink n : Action ρ σ)) := by
          by_cases hsink : sub.sink = sink <;> simp [delivered, hsink]
        rw [hcons, ih]
        by_cases hsink : sub.sink = sink <;> simp [hsink]
    have hcomm : delivered sink (st.notify world n).2 = ((st.own sink).filter fun sub =>
        n.passes sub.filter && world.listens sub.sink).map fun _ => n := by
      rw [notify, htakers, List.filter_comm]
      rfl
    have hpass : ((st.own sink).filter fun sub => n.passes sub.filter && world.listens sub.sink) =
        (st.own sink).filter fun sub => n.passes sub.filter :=
      List.filter_congr fun sub hsub => by simp [hlistens sub hsub]
    rw [hcomm, hpass]
    simp [passing]

/-- Whatever is performed, a subscriber who listens stays and is sent the notices that pass. -/
theorem performAll_own (st : Station ρ σ) (hlive : st.own sink = [] ∨ world.listens sink = true)
    (es : List (Switch.Effect ρ)) :
    (st.performAll world es).1.own sink = st.own sink ∧
      delivered sink (st.performAll world es).2 =
        passing (st.own sink) (Switch.notices es) := by
  induction es generalizing st with
  | nil => exact ⟨rfl, rfl⟩
  | cons e es ih =>
    have hone : (st.perform world e).1.own sink = st.own sink ∧
        delivered sink (st.perform world e).2 = passing (st.own sink) e.notice?.toList := by
      cases e with
      | notice n => exact notify_own hlive n
      | submit token command =>
        refine ⟨rfl, ?_⟩
        unfold perform
        simp only
        split <;> rfl
      | event event => exact ⟨rfl, rfl⟩
      | reply handle reply => exact ⟨rfl, rfl⟩
      | askOwnership id c handle => exact ⟨rfl, rfl⟩
    obtain ⟨hown, hsent⟩ := hone
    obtain ⟨howns, hsents⟩ := ih _ (hown ▸ hlive)
    refine ⟨howns.trans hown, ?_⟩
    have hboth : delivered sink (st.performAll world (e :: es)).2 =
        delivered sink (st.perform world e).2 ++
          delivered sink ((st.perform world e).1.performAll world es).2 := delivered_append ..
    rw [hboth, hsent, hsents, hown, Switch.notices_cons]
    exact List.flatMap_append.symm

/-- Carrying out what the switch wants sends a subscriber what the switch tells. -/
theorem settle_own (st : Station ρ σ) (hlive : st.own sink = [] ∨ world.listens sink = true) :
    (st.settle world).1.own sink = st.own sink ∧
      delivered sink (st.settle world).2 =
        passing (st.own sink) (st.switch.tellings world.accepts) := by
  have htold : Switch.notices (st.switch.carryOut world.accepts).2 =
      st.switch.tellings world.accepts := Switch.notices_carryOutFor _ _ _
  rw [← htold]
  exact performAll_own { st with switch := (st.switch.carryOut world.accepts).1 } hlive _

/-! ## Subscriptions -/

/-- Whether somebody subscribes under this sink. -/
def Occasion.subscribes (o : Occasion ρ σ) (sink : σ) : Bool :=
  match o.input with
  | .message (.subscribe _ target _) => target = sink
  | _ => false

/-- Whether the subscription with this number is given up. -/
def Occasion.unsubscribes (o : Occasion ρ σ) (id : Nat) : Bool :=
  match o.input with
  | .message (.unsubscribe k _) => k = id
  | _ => false

/-- Giving up a subscription gives up no other. -/
theorem own_unsubscribe (world : Surroundings σ) (st : Station ρ σ) (id : Nat) (handle : ρ) :
    (st.receive world (.unsubscribe id handle)).1.own sink =
      (st.own sink).filter fun sub => sub.id ≠ id := List.filter_comm ..

/-- On every occasion a subscriber who listens is sent what is told and passes, and keeps the
subscriptions that are not given up. -/
theorem take_own {o : Occasion ρ σ} (hother : o.subscribes sink = false)
    (hlive : st.own sink = [] ∨ o.world.listens sink = true) :
    (st.take o).1.own sink = (st.own sink).filter (fun sub => !o.unsubscribes sub.id) ∧
      delivered sink (st.take o).2 = passing (st.own sink) (st.told o) := by
  obtain ⟨world, input⟩ := o
  have hkept : ∀ {st' : Station ρ σ}, st'.own sink = st.own sink →
      st'.own sink = (st.own sink).filter fun _ => !false := by
    intro st' heq
    simpa using heq
  cases input with
  | message message =>
    cases message with
    | request id request handle =>
      obtain ⟨hown, hsent⟩ := settle_own
        { st with switch := st.switch.handle id request handle } hlive
      exact ⟨hkept hown, hsent⟩
    | subscribe filter target handle =>
      have hne : target ≠ sink := by simpa [Occasion.subscribes] using hother
      refine ⟨hkept ?_, ?_⟩
      · simp [take, receive, subscribe, own, hne]
      · have hgreeting : delivered sink (st.take ⟨world, .message (.subscribe filter target
            handle)⟩).2 = [] := by
          simp only [take, receive, subscribe, delivered_append]
          split <;> simp [delivered, hne]
        rw [hgreeting]
        rfl
    | unsubscribe id handle =>
      refine ⟨(own_unsubscribe world st id handle).trans ?_, rfl⟩
      refine List.filter_congr fun sub _ => ?_
      simp [Occasion.unsubscribes, eq_comm]
    | shutdown => exact ⟨hkept rfl, rfl⟩
  | signal signal =>
    obtain ⟨hown, hsent⟩ := settle_own
      { st with switch := st.switch.hear signal } hlive
    exact ⟨hkept hown, hsent⟩

/-- Who has no subscription is sent nothing. -/
theorem delivered_of_gone (st : Station ρ σ) {os : List (Occasion ρ σ)} (hgone : st.own sink = [])
    (hother : ∀ o ∈ os, o.subscribes sink = false) :
    (st.takeAll os).1.own sink = [] ∧ delivered sink (st.takeAll os).2 = [] := by
  induction os generalizing st with
  | nil => exact ⟨hgone, rfl⟩
  | cons o os ih =>
    obtain ⟨ho, hos⟩ := List.forall_mem_cons.1 hother
    obtain ⟨hown, hsent⟩ := take_own ho (.inl hgone)
    rw [hgone] at hown hsent
    obtain ⟨hgone', hsent'⟩ := ih _ hown hos
    refine ⟨hgone', ?_⟩
    rw [takeAll, delivered_append, hsent, hsent']
    simp

/-- Who has a subscription is sent what is told and passes, until it is given up. -/
theorem delivered_of_subscribed {os : List (Occasion ρ σ)} {id : Nat} {filter : NoticeFilter}
    (hown : st.own sink = [⟨id, filter, sink⟩]) (hother : ∀ o ∈ os, o.subscribes sink = false)
    (hlive : ∀ o ∈ os.takeWhile (fun o => !o.unsubscribes id), o.world.listens sink = true) :
    delivered sink (st.takeAll os).2 =
      (st.toldAll (os.takeWhile fun o => !o.unsubscribes id)).filter fun n => n.passes filter := by
  induction os generalizing st with
  | nil => rfl
  | cons o os ih =>
    obtain ⟨ho, hos⟩ := List.forall_mem_cons.1 hother
    cases hleaves : o.unsubscribes id with
    | true =>
      rw [List.takeWhile_cons_of_neg (by simp [hleaves])]
      obtain ⟨world, input⟩ := o
      rcases input with (_ | _ | ⟨k, handle⟩ | _) | _
      case message.unsubscribe =>
        have hid : k = id := by simpa [Occasion.unsubscribes] using hleaves
        have hgone : (st.receive world (.unsubscribe k handle)).1.own sink = [] := by
          rw [own_unsubscribe, hown, hid]
          simp
        exact (delivered_of_gone _ hgone hos).2
      all_goals cases hleaves
    | false =>
      rw [List.takeWhile_cons_of_pos (by simp [hleaves])] at hlive ⊢
      obtain ⟨hlistens, hlives⟩ := List.forall_mem_cons.1 hlive
      obtain ⟨hstays, hsent⟩ := take_own ho (.inr hlistens)
      rw [hown] at hstays hsent
      have hown' : (st.take o).1.own sink = [⟨id, filter, sink⟩] := by simpa [hleaves] using hstays
      rw [takeAll, delivered_append, hsent, passing_singleton, ih hown' hos hlives, toldAll,
        List.filter_append]

/-- Who subscribes has the next subscription, and an observer of everything is sent the present
state. -/
theorem subscribe_own (hnone : st.own sink = []) (hlistens : world.listens sink = true)
    (filter : NoticeFilter) (handle : ρ) :
    (st.subscribe world filter sink handle).1.own sink = [⟨st.nextSubscription, filter, sink⟩] ∧
      delivered sink (st.subscribe world filter sink handle).2 =
        if filter = .all then [.updated st.switch.snapshot] else [] := by
  have hnone' : st.subscribers.filter (fun sub => sub.sink = sink) = [] := hnone
  constructor
  · simp [subscribe, own, hnone']
  · cases filter <;> simp [subscribe, delivered, hlistens]

end Station

/-! ## The mirror of the arbiter -/

namespace Arbiter

variable {a a' : Arbiter} {t : Tenant}

/-- The notices about a tenant that an arbiter hears in a list of operations. -/
def heardAbout (t : Tenant) (ops : List Operation) : List Notice :=
  ops.filterMap fun
    | .hear n => if n.tenant = t then some n else none
    | _ => none

theorem lastSeen?_congr (h : a'.watches = a.watches) : a'.lastSeen? t = a.lastSeen? t := by
  unfold lastSeen? watch?
  rw [h]

/-- The last state that an arbiter has heard of a tenant is the state it knows, whatever else it
was asked for. -/
theorem lastSeen?_of_heardAbout {config : ArbiterConfig} {m : Snapshot}
    (hslot : m.tenant.slot < config.tenantCount) (ops ops' : List Operation)
    (h : (heardAbout m.tenant ops').getLast? = some (.updated m)) :
    (run config (ops ++ ops')).lastSeen? m.tenant = some m := by
  induction ops' using List.reverseRecOn with
  | nil => cases h
  | append_singleton ops' op ih =>
    rw [heardAbout, List.filterMap_append, List.getLast?_append] at h
    have horderly := orderly_run config (ops ++ ops')
    rw [← List.append_assoc, run_append, lastSeen?_congr (acts horderly op).watches]
    cases op with
    | hear n =>
      by_cases hn : n.tenant = m.tenant
      · have hlast : n = .updated m := by simpa [hn] using h
        subst hlast
        have hlt : m.tenant.slot < (run config (ops ++ ops')).watches.length := by
          rw [(placed_run config _).2]
          exact hslot
        simp [absorb, amend, lastSeen?, watch?, Notice.tenant, Watch.correct, hlt]
      · have hother : m.tenant ≠ n.tenant := Ne.symm hn
        rw [absorb, lastSeen?_amend_of_ne hother]
        exact ih (by simpa [hn, heardAbout] using h)
    | activate t c => exact ih (by simpa [heardAbout] using h)
    | deactivate t c => exact ih (by simpa [heardAbout] using h)
    | setDefaultTenant t => exact ih (by simpa [heardAbout] using h)
    | grantAnswered g => exact ih (by simpa [heardAbout] using h)
    | cleanupAnswered t outcome => exact ih (by simpa [heardAbout] using h)
    | drain => exact ih (by simpa [heardAbout] using h)

end Arbiter

/-! ## Observers -/

namespace Station

variable {ρ σ : Type}

/-- What the notices that an observer of everything has received are worth, once the effects of the
switch are carried out. -/
structure Informed (tenant : Tenant) (received : List Notice) (s : Switch ρ) : Prop where
  /-- No effect is left to be carried out. -/
  drained : s.outbox = []
  /-- All the notices are about the tenant. -/
  about : ∀ n ∈ received, n.tenant = tenant
  /-- The last one tells the present state. -/
  last : received.getLast? = some (.updated s.snapshot)
  /-- An arbiter that hears them, and meanwhile anything else but notices about the tenant, knows
  the present state of the switch. -/
  mirror : ∀ (config : ArbiterConfig) (ops ops' : List Arbiter.Operation),
    tenant.slot < config.tenantCount → Arbiter.heardAbout tenant ops' = received →
      (Arbiter.run config (ops ++ ops')).lastSeen? tenant = some s.snapshot

/-- Who was told a state and then all that has changed is informed. -/
theorem informed_of_reports {s : Switch ρ} {before : Snapshot} {ns : List Notice}
    (hout : s.outbox = []) (h : Switch.Reports before ns s.snapshot) :
    Informed before.tenant (.updated before :: ns) s := by
  have hlast : (Notice.updated before :: ns).getLast? = some (.updated s.snapshot) := by
    rcases h.last with ⟨rfl, hsame⟩ | hlast
    · rw [hsame]
      rfl
    · rw [List.getLast?_cons, hlast]
      rfl
  refine ⟨hout, fun n hn => ?_, hlast, fun config ops ops' hslot hheard => ?_⟩
  · rcases List.mem_cons.1 hn with rfl | hn
    · rfl
    · exact h.about n hn
  · rw [← hheard, ← h.tenant] at hlast
    rw [← h.tenant] at hslot ⊢
    exact Arbiter.lastSeen?_of_heardAbout hslot ops ops' hlast

variable [DecidableEq σ]

/-- Somebody subscribes in the course of any run, under a sink of their own, and listens for as long
as the subscription lasts.  In the whole run they are sent what is told while it lasts, in order and
as far as it passes the filter, and an observer of everything is sent the state at the beginning
before that.  Such an observer is informed, as long as the subscription lasts. -/
theorem observers_of_run (tenant : Tenant) (arbitrated : Bool)
    (earlier later : List (Occasion ρ σ)) (world : Surroundings σ) (filter : NoticeFilter)
    (sink : σ) (handle : ρ) (hown : ∀ o ∈ earlier ++ later, o.subscribes sink = false)
    (hlistens : world.listens sink = true) :
    let st := ((start tenant arbitrated).takeAll earlier).1
    let entry : Occasion ρ σ := ⟨world, .message (.subscribe filter sink handle)⟩
    let during := later.takeWhile fun o => !o.unsubscribes st.nextSubscription
    let whole := (start tenant arbitrated).takeAll (earlier ++ entry :: later)
    (∀ o ∈ during, o.world.listens sink = true) →
      delivered sink whole.2 = (if filter = .all then [.updated st.switch.snapshot] else []) ++
          ((st.take entry).1.toldAll during).filter (fun n => n.passes filter) ∧
        (filter = .all → during = later →
          Informed tenant (delivered sink whole.2) whole.1.switch) := by
  intro st entry during whole hlive
  obtain ⟨hearlier, hlater⟩ := List.forall_mem_append.1 hown
  obtain ⟨hnone, hnothing⟩ := delivered_of_gone
    (start tenant arbitrated : Station ρ σ) rfl hearlier
  obtain ⟨hsub, hgreeting⟩ : (st.take entry).1.own sink = [⟨st.nextSubscription, filter, sink⟩] ∧
      delivered sink (st.take entry).2 =
        if filter = .all then [.updated st.switch.snapshot] else [] :=
    subscribe_own hnone hlistens filter handle
  have hwhole : whole = (((st.take entry).1.takeAll later).1,
      ((start tenant arbitrated).takeAll earlier).2 ++
        ((st.take entry).2 ++ ((st.take entry).1.takeAll later).2)) := takeAll_append ..
  have hreceived : delivered sink whole.2 =
      (if filter = .all then [.updated st.switch.snapshot] else []) ++
        ((st.take entry).1.toldAll during).filter fun n => n.passes filter := by
    rw [hwhole, delivered_append, delivered_append, hnothing, List.nil_append, hgreeting,
      delivered_of_subscribed hsub hlater hlive]
  refine ⟨hreceived, fun hall hduring => ?_⟩
  obtain ⟨hready, hstart⟩ := ready_takeAll (ready_start tenant arbitrated) earlier
  obtain ⟨hend, hreports⟩ := ready_takeAll (ready_take hready entry).1 later
  have heverything : ∀ ns : List Notice, ns.filter (fun n => n.passes .all) = ns := fun ns =>
    List.filter_eq_self.2 fun n _ => by cases n <;> rfl
  have htenant : st.switch.snapshot.tenant = tenant := hstart.tenant
  rw [hreceived, hduring, hall, if_pos rfl, heverything, List.singleton_append, ← htenant, hwhole]
  exact informed_of_reports hend.outbox hreports

/-- Everything is accepted, and everybody listens. -/
def obliging : Surroundings Nat := ⟨fun _ => true, fun _ => true⟩

/-- A class is asked for, and somebody subscribes for idle only. -/
def beforeEntry : List (Occasion Nat Nat) :=
  [⟨obliging, .message (.request 1 (.connect .mms) none)⟩,
    ⟨obliging, .message (.subscribe .idleOnly 1 0)⟩]

/-- The class comes up, the first subscription is given up, and everything is let go. -/
def afterEntry : List (Occasion Nat Nat) :=
  [⟨obliging, .signal (.completed 1 none)⟩, ⟨obliging, .signal (.classConnected .mms)⟩,
    ⟨obliging, .message (.unsubscribe 1 0)⟩, ⟨obliging, .message (.request 2 .cleanupAll none)⟩,
    ⟨obliging, .signal (.completed 2 none)⟩]

/-- An observer that comes in between the two is informed, with the notice of idle among those it
has received. -/
theorem observers_in_turn :
    let entry : Occasion Nat Nat := ⟨obliging, .message (.subscribe .all 2 0)⟩
    let whole := (start ⟨0⟩ false).takeAll (beforeEntry ++ entry :: afterEntry)
    Informed ⟨0⟩ (delivered 2 whole.2) whole.1.switch ∧
      .enteredIdle ⟨0⟩ [] ∈ delivered 2 whole.2 := by
  refine ⟨?_, by decide +kernel⟩
  have hlive : ∀ o ∈ afterEntry, o.world.listens 2 = true := by decide
  exact (observers_of_run ⟨0⟩ false beforeEntry afterEntry obliging .all 2 0 (by decide) rfl
    hlive).2 rfl rfl

end Station

end DataPath
