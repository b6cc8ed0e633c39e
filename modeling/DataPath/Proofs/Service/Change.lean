import DataPath.Proofs.Arbiter.Input
import DataPath.Proofs.Service.Frame

/-!
# What a move can change

While nobody is told to stop, the service stays *wired*: everybody runs, every switch has
the arbiter among its subscribers or its subscription first in the mailbox, and everything
in a mailbox is in order (`Wired`).

For a wired service the moves are listed here with what they change (`Change`), one
constructor for everything that can happen.  For the arbiter this is a turn.  Whatever is
proved about all runs of the service is proved by going through this list.
-/

namespace DataPath

/-- Whether a control changes the radio of a slot. -/
def Service.Control.isRadio : Service.Control → Bool
  | .radio .. => true
  | _ => false

/-- Whether a command is an activation. -/
def Arbiter.Command.isActivate {κ : Type} : Arbiter.Command κ → Bool
  | .activate .. => true
  | _ => false

/-- Whether a command is answered with an outcome. -/
def Arbiter.Command.wantsOutcome {κ : Type} : Arbiter.Command κ → Bool
  | .activate .. | .deactivate .. => true
  | _ => false

namespace Service

/-! ## Wiring -/

/-- What may stand in the mailbox of a tenant: nobody is told to stop and nobody
unsubscribes, only the arbiter sends connects with a grant, and its letters carry their own
numbers. -/
def InOrder (t : Tenant) : Message Caller Sink → Prop
  | .request id request handle =>
    (∀ c g, request = .acquire c g → ∃ client, handle = some (.relay t id (some (.grant g)) client)) ∧
      ∀ u k tracked client, handle = some (.relay u k tracked client) → u = t ∧ k = id
  | .subscribe .. => True
  | .unsubscribe .. | .shutdown => False

/-- Whether a message subscribes the arbiter. -/
def isEnrolment : Message Caller Sink → Bool
  | .subscribe _ .arbiter _ => true
  | _ => false

/-- The subscriptions of the arbiter. -/
def Post.enrolled (p : Post) : List (Station.Subscriber Sink) :=
  p.station.subscribers.filter fun sub => sub.sink = .arbiter

/-- The arbiter has subscribed to all notices. -/
def Post.Listened (p : Post) : Prop :=
  (∃ sub, p.enrolled = [sub] ∧ sub.filter = .all) ∧
    ∀ m ∈ p.channel.mailbox, isEnrolment m = false

/-- The subscription of the arbiter is the first thing in the mailbox, and nothing has
happened before. -/
def Post.Unread (p : Post) : Prop :=
  p.enrolled = [] ∧ p.station.switch.phase = .idle ∧ p.station.switch.parked = [] ∧
    ∃ rest, p.channel.mailbox = .subscribe .all .arbiter .nobody :: rest ∧
      ∀ m ∈ rest, isEnrolment m = false

/-- The post of a tenant is set up. -/
structure Post.Wired (t : Tenant) (p : Post) : Prop where
  isOpen : p.channel.isOpen = true
  tenant : p.station.switch.tenant = t
  arbitrated : p.station.switch.arbitrated = true
  outbox : p.station.switch.outbox = []
  mail : ∀ m ∈ p.channel.mailbox, InOrder t m
  attached : p.Listened ∨ p.Unread

/-- Everybody runs, and everybody is reached by everybody. -/
structure Wired (s : Service) : Prop where
  modem : s.modemRuns = true
  arbiter : s.arbiterRuns = true
  outbox : s.arbiter.outbox = []
  nonempty : s.posts ≠ []
  length : s.arbiter.watches.length = s.posts.length
  posts : ∀ t p, s.post? t = some p → p.Wired t
  sinks : ∀ t p, s.post? t = some p → s.pipeline.sinks.lookup t = some ()
  jobs : ∀ j ∈ s.pipeline.jobs, j.tenant.slot < s.posts.length
  controls : ∀ c ∈ s.controls, c ≠ .shutdown
  commands : ∀ c ∈ s.commands, c ≠ .shutdown

theorem Wired.exists_post {s : Service} {t : Tenant} (h : t.slot < s.posts.length) :
    ∃ p, s.post? t = some p := ⟨s.posts[t.slot], by simp [post?, h]⟩

theorem lt_of_post? {s : Service} {t : Tenant} {p : Post} (h : s.post? t = some p) :
    t.slot < s.posts.length := (List.getElem?_eq_some_iff.1 h).1

theorem Wired.allOpen {s : Service} (h : s.Wired) : s.AllOpen := by
  intro p hp
  obtain ⟨i, hi⟩ := List.mem_iff_getElem?.1 hp
  exact (h.posts ⟨i⟩ p hi).isOpen

theorem Wired.knows_iff {s : Service} (h : s.Wired) (t : Tenant) :
    s.arbiter.knows t = true ↔ t.slot < s.posts.length := by
  rw [Arbiter.knows, h.length, decide_eq_true_iff]

theorem Wired.accepts {s : Service} (h : s.Wired) (k : Nat) : s.surroundings.accepts k = true :=
  h.modem

theorem Wired.listens {s : Service} (h : s.Wired) (sink : Sink) :
    s.surroundings.listens sink = true := by
  cases sink with
  | arbiter => exact h.arbiter
  | observer => rfl

/-- An arbiter that has subscribed hears every notice once. -/
theorem Post.Listened.tell {p : Post} (h : p.Listened) (ns : List Notice) : ns.flatMap p.tell = ns := by
  obtain ⟨⟨sub, hsub, hall⟩, -⟩ := h
  have htell : ∀ n, p.tell n = [n] := by
    intro n
    have hfilter : p.station.subscribers.filter
        (fun sub => n.passes sub.filter && sub.sink = .arbiter) =
        p.enrolled.filter fun sub => n.passes sub.filter := by
      rw [Post.enrolled, List.filter_filter]
    have hpasses : n.passes sub.filter = true := by
      rw [hall]
      cases n <;> rfl
    unfold Post.tell
    rw [hfilter, hsub]
    simp [hpasses]
  induction ns with
  | nil => rfl
  | cons n ns ih => rw [List.flatMap_cons, htell, ih, List.singleton_append]

/-- An arbiter that has not subscribed hears nothing. -/
theorem Post.Unread.tell {p : Post} (h : p.Unread) (ns : List Notice) : ns.flatMap p.tell = [] := by
  rw [List.flatMap_eq_nil_iff]
  intro n _
  have hfilter : p.station.subscribers.filter
      (fun sub => n.passes sub.filter && sub.sink = .arbiter) =
      p.enrolled.filter fun sub => n.passes sub.filter := by
    rw [Post.enrolled, List.filter_filter]
  unfold Post.tell
  rw [hfilter, h.1]
  rfl

/-! ## Changes -/

/-- The letter that an effect of the arbiter sends. -/
def letterOf : Arbiter.Effect → Option Letter
  | .connect t c g => some ⟨t, .acquire c g, some (.grant g), .nobody⟩
  | .cleanupAll t => some ⟨t, .cleanupAll, some .cleanup, .nobody⟩
  | .event _ => none

@[simp] theorem letterOf_connect (t : Tenant) (c : DataClass) (g : Grant) :
    letterOf (.connect t c g) = some ⟨t, .acquire c g, some (.grant g), .nobody⟩ := rfl

@[simp] theorem letterOf_cleanupAll (t : Tenant) :
    letterOf (.cleanupAll t) = some ⟨t, .cleanupAll, some .cleanup, .nobody⟩ := rfl

@[simp] theorem letterOf_event (e : Event) : letterOf (.event e) = none := rfl

theorem letters_map_perform (new : List Arbiter.Effect) :
    letters (new.map Arbiter.perform) = new.filterMap letterOf := by
  induction new with
  | nil => rfl
  | cons e new ih =>
    cases e <;> simp [Arbiter.perform, List.filterMap_cons, ih]

theorem answersOf_map_perform (new : List Arbiter.Effect) :
    (new.map Arbiter.perform).flatMap answersOf = [] := by
  induction new with
  | nil => rfl
  | cons e new ih =>
    cases e <;> simpa [Arbiter.perform] using ih

/-- The modem has changed nothing that carries data and works on the same commands. -/
structure Alike (p q : Modem.Pipeline Unit) : Prop where
  jobs : q.jobs = p.jobs
  sinks : q.sinks = p.sinks
  latency : q.latency = p.latency
  violations : q.modem.violations = p.modem.violations
  connected : ∀ t, q.modem.connected? t = p.modem.connected? t

/-- A post with more signals. -/
def Post.signalled (p : Post) (signals : List Signal) : Post :=
  { p with signals := p.signals ++ signals }

/-- The service after the modem has executed a command. -/
def executed (s : Service) (job : Modem.Job) (rest : List Modem.Job) (p : Post) : Service :=
  let (modem, fault) := s.pipeline.modem.execute job.tenant job.command
  { s with pipeline := { s.pipeline with jobs := rest, modem := modem } }.put job.tenant
    (p.signalled (Modem.signals job.token job.command fault))

/-- The service after the modem has set a radio. -/
def tuned (s : Service) (t : Tenant) (radio : Radio) (rest : List Control) : Service :=
  let (modem, changed) := s.pipeline.modem.setRadio t radio
  { s with controls := rest, pipeline := { s.pipeline with modem := modem } }.amend t
    fun p => p.signalled (if changed then [.radio radio] else [])

/-- The switch of the slot hears of its radio, if there is such a switch. -/
theorem tuned_cases (s : Service) (t : Tenant) (radio : Radio) (rest : List Control) :
    (s.post? t = none ∧ s.tuned t radio rest = { s with
        controls := rest
        pipeline := { s.pipeline with modem := (s.pipeline.modem.setRadio t radio).1 } }) ∨
    ∃ p signals, s.post? t = some p ∧ (signals = [] ∨ signals = [.radio radio]) ∧
      s.tuned t radio rest = ({ s with
        controls := rest
        pipeline := { s.pipeline with modem := (s.pipeline.modem.setRadio t radio).1 } } :
          Service).put t (p.signalled signals) := by
  cases hp : s.post? t with
  | none => exact .inl ⟨rfl, amend_of_none (s := { s with controls := rest, pipeline := _ }) hp _⟩
  | some p =>
    refine .inr ⟨p, if (s.pipeline.modem.setRadio t radio).2 then [.radio radio] else [], rfl, ?_,
      amend_eq (s := { s with controls := rest, pipeline := _ }) hp _⟩
    split
    · exact .inr rfl
    · exact .inl rfl

/-- The service after a switch has taken a subscriber. -/
def enrolled (s : Service) (t : Tenant) (p : Post) (filter : NoticeFilter) (sink : Sink) : Service :=
  { s.put t { p with station := { p.station with
      subscribers := p.station.subscribers ++ [⟨p.station.nextSubscription, filter, sink⟩]
      nextSubscription := p.station.nextSubscription + 1 } } with
    notices := s.notices ++
      if filter = .all ∧ sink = .arbiter then [.updated p.station.switch.snapshot] else [] }

/-- A post with another mailbox. -/
def Post.unread (p : Post) (mailbox : List (Message Caller Sink)) : Post :=
  { p with channel := { p.channel with mailbox := mailbox } }

theorem enrolled_put (s : Service) (t : Tenant) (p q : Post) (filter : NoticeFilter) (sink : Sink) :
    (s.put t p).enrolled t q filter sink = s.enrolled t q filter sink := by
  unfold enrolled
  rw [put_put]
  rfl

/-- What a move changes. -/
inductive Change (s : Service) : Service → Prop where
  /-- A switch takes a signal. -/
  | heard {t : Tenant} {p : Post} {signal : Signal} {rest : List Signal} (hp : s.post? t = some p)
      (hsig : p.signals = signal :: rest) :
      Change s (s.after t { p with signals := rest } (p.station.switch.hear signal))
  /-- A switch takes a request. -/
  | read {t : Tenant} {p : Post} {id : Nat} {request : Request} {handle : Option Caller}
      {rest : List (Message Caller Sink)} (hp : s.post? t = some p)
      (hmail : p.channel.mailbox = .request id request handle :: rest) :
      Change s (s.after t (p.unread rest) (p.station.switch.handle id request handle))
  /-- A switch takes a subscriber. -/
  | subscribed {t : Tenant} {p : Post} {filter : NoticeFilter} {sink : Sink} {handle : Caller}
      {rest : List (Message Caller Sink)} (hp : s.post? t = some p)
      (hmail : p.channel.mailbox = .subscribe filter sink handle :: rest) :
      Change s (s.enrolled t (p.unread rest) filter sink)
  /-- The modem executes a command. -/
  | executed {job : Modem.Job} {rest : List Modem.Job} {p : Post}
      (hjobs : s.pipeline.jobs = job :: rest) (hp : s.post? job.tenant = some p) :
      Change s (s.executed job rest p)
  /-- The modem takes a control that changes a radio. -/
  | tuned {t : Tenant} {radio : Radio} {rest : List Control}
      (hcontrols : s.controls = .radio t radio :: rest) : Change s (s.tuned t radio rest)
  /-- The modem takes another control. -/
  | steered {control : Control} {rest : List Control} {pipeline : Modem.Pipeline Unit}
      (hcontrols : s.controls = control :: rest) (hradio : control.isRadio = false)
      (halike : Alike s.pipeline pipeline) :
      Change s { s with controls := rest, pipeline := pipeline }
  /-- The arbiter takes a notice. -/
  | noted {n : Notice} {rest : List Notice} {mid a : Arbiter} {new : List Arbiter.Effect}
      (hnotices : s.notices = n :: rest) (hnotes : Arbiter.Notes n s.arbiter mid)
      (hnone : Arbiter.cleaned new = [])
      (hturn : Arbiter.Turn (if n.isRadio then 1 else 0) mid a (Arbiter.sendings new)
        (Arbiter.cleaned new)) (hout : a.outbox = []) :
      Change s ({ s with notices := rest }.ruled a (new.filterMap letterOf) [])
  /-- The arbiter takes the answer to a grant. -/
  | granted {t : Tenant} {g : Grant} {outcome : Outcome} {rest : List Tidings} {a : Arbiter}
      {new : List Arbiter.Effect} (hnotices : s.notices = [])
      (htidings : s.tidings = ⟨t, .grant g, outcome⟩ :: rest)
      (hturn : Arbiter.Turn 0 (s.arbiter.without g) a (Arbiter.sendings new) (Arbiter.cleaned new))
      (hout : a.outbox = []) :
      Change s ({ s with tidings := rest }.ruled a (new.filterMap letterOf) [])
  /-- The arbiter takes the answer to a request to clean up. -/
  | cleaned {t : Tenant} {outcome : Outcome} {rest : List Tidings} {mid a : Arbiter}
      {new : List Arbiter.Effect} (hnotices : s.notices = [])
      (htidings : s.tidings = ⟨t, .cleanup, outcome⟩ :: rest)
      (hmid : s.arbiter.owner = some t ∧ outcome = .alreadyInactive ∧ mid = s.arbiter.unasked ∨
        ¬(s.arbiter.owner = some t ∧ outcome = .alreadyInactive) ∧ mid = s.arbiter)
      (hturn : Arbiter.Turn 0 mid a (Arbiter.sendings new) (Arbiter.cleaned new))
      (hout : a.outbox = []) :
      Change s ({ s with tidings := rest }.ruled a (new.filterMap letterOf) [])
  /-- The arbiter answers a command. -/
  | replied {command : Arbiter.Command Client} {rest : List (Arbiter.Command Client)}
      {client : Client} {answer : Answer} {a : Arbiter} {new : List Arbiter.Effect}
      (hnotices : s.notices = []) (htidings : s.tidings = [])
      (hcommands : s.commands = command :: rest) (hclient : command.client? = some client)
      (hanswer : command.wantsOutcome = true ↔ ∃ o, answer = .outcome o)
      (hturn : Arbiter.Turn (if command.isActivate then 1 else 0) s.arbiter a
        (Arbiter.sendings new) (Arbiter.cleaned new)) (hout : a.outbox = []) :
      Change s ({ s with commands := rest }.ruled a (new.filterMap letterOf) (client.errands answer))
  /-- The arbiter sends an activation on, with a grant. -/
  | forwarded {t : Tenant} {c : DataClass} {client : Client}
      {rest : List (Arbiter.Command Client)} {g : Grant} {a : Arbiter} {new : List Arbiter.Effect}
      (hnotices : s.notices = []) (htidings : s.tidings = [])
      (hcommands : s.commands = .activate t c client :: rest)
      (hturn : Arbiter.Turn 1 s.arbiter a [⟨t, c, g⟩] (Arbiter.cleaned new))
      (hsent : Arbiter.sendings new = []) (hout : a.outbox = []) :
      Change s ({ s with commands := rest }.ruled a
        (⟨t, .acquire c g, some (.grant g), client⟩ :: new.filterMap letterOf) [])
  /-- The arbiter sends a deactivation on. -/
  | passed {t : Tenant} {c : DataClass} {client : Client}
      {rest : List (Arbiter.Command Client)} {a : Arbiter}
      (hnotices : s.notices = []) (htidings : s.tidings = [])
      (hcommands : s.commands = .deactivate t c client :: rest)
      (hknown : s.arbiter.knows t = true)
      (hturn : Arbiter.Turn 0 s.arbiter a [] []) (hout : a.outbox = []) :
      Change s ({ s with commands := rest }.ruled a [⟨t, .disconnect c, none, client⟩] [])
  /-- A courier brings a connect to the arbiter. -/
  | asked {t : Tenant} {id : Nat} {c : DataClass} {caller : Caller} {before rest : List Errand}
      (herrands : s.errands = before ++ .ask t id c caller :: rest) :
      Change s { s with
        errands := before ++ rest
        commands := s.commands ++ [.activate t c (.ask t id caller)] }
  /-- A courier brings the outcome of a connect back. -/
  | brought {t : Tenant} {id : Nat} {caller : Caller} {outcome : Outcome}
      {before rest : List Errand} (herrands : s.errands = before ++ .answer t id caller outcome :: rest) :
      Change s ({ s with errands := before ++ rest }.give
        (caller.errands (some ⟨id, .outcome outcome⟩)))
  /-- A courier brings the outcome of a request back. -/
  | settled {t : Tenant} {id : Nat} {tracked : Option Arbiter.Tracked} {client : Client}
      {outcome : Outcome} {before rest : List Errand}
      (herrands : s.errands = before ++ .settle t id tracked client outcome :: rest) :
      Change s ({ s with
          errands := before ++ rest
          tidings := s.tidings ++ (tracked.map fun x => (⟨t, x, outcome⟩ : Tidings)).toList }.give
        (client.errands (.outcome outcome)))

end Service

end DataPath
