import DataPath.Modem.Pipeline
import DataPath.Service.Party
import DataPath.Station

/-!
# The service

A `Service` is the arbiter, the switches and the modem with everything that is on its
way between them.  Each part has queues of its own, and takes from them one thing at a
time:

* the modem has the controls and the commands that it works on;
* a switch has the signals of the modem and its mailbox;
* the arbiter has the notices of the switches, the answers to the requests it tracks,
  and the commands of its clients;
* the couriers have their errands.

What leaves the service is kept in a `Journal`.

The service also knows whose *turn* it is.  Whoever has been given something to do is
in the list of turns, once.
-/

namespace DataPath

namespace Service

/-- The switch of a slot, with what it has to take in. -/
structure Post where
  station : Station Caller Sink
  channel : Channel Caller Sink
  /-- The signals of the modem, oldest first. -/
  signals : List Signal := []

/-- What the arbiter has to hear of a request that it tracks. -/
structure Tidings where
  tenant : Tenant
  tracked : Arbiter.Tracked
  outcome : Outcome
  deriving DecidableEq, Repr

/-- What has left the service. -/
structure Journal where
  /-- The events that were published. -/
  events : List Event := []
  /-- The notices that observers received. -/
  notices : List (Nat × Notice) := []
  /-- The calls that have ended, by their numbers. -/
  finished : List (Nat × Answer) := []
  deriving DecidableEq, Repr

end Service

/-- The arbiter, the switches and the modem. -/
structure Service where
  /-- The time, in milliseconds. -/
  clock : Nat := 0
  /-- The modem, to which every switch is attached. -/
  pipeline : Modem.Pipeline Unit
  modemRuns : Bool := true
  controls : List Service.Control := []
  /-- The switches, by their slots. -/
  posts : List Service.Post
  arbiter : Arbiter
  arbiterRuns : Bool := true
  /-- The notices that the arbiter has not taken yet. -/
  notices : List Notice := []
  /-- The answers that the arbiter has not taken yet. -/
  tidings : List Service.Tidings := []
  /-- The commands that the arbiter has not taken yet. -/
  commands : List (Arbiter.Command Service.Client) := []
  /-- What the couriers have to do. -/
  errands : List Service.Errand := []
  /-- Who has something to do, in the order in which they take their turns. -/
  turns : List Service.Party := []
  /-- The number of the next observer. -/
  nextObserver : Nat := 0
  journal : Service.Journal := {}

namespace Service

/-- The switch of a tenant, if there is one. -/
def post? (s : Service) (t : Tenant) : Option Post := s.posts[t.slot]?

/-- Change the switch of a tenant. -/
def amend (s : Service) (t : Tenant) (f : Post → Post) : Service :=
  { s with posts := s.posts.modify t.slot f }

/-- Give a party a turn, unless it has one already. -/
def wake (s : Service) (party : Party) : Service :=
  if party ∈ s.turns then s else { s with turns := s.turns ++ [party] }

/-- An event leaves the service. -/
def publish (s : Service) (event : Event) : Service :=
  { s with journal := { s.journal with events := s.journal.events ++ [event] } }

/-- A notice reaches an observer. -/
def observe (s : Service) (observer : Nat) (notice : Notice) : Service :=
  { s with journal := { s.journal with notices := s.journal.notices ++ [(observer, notice)] } }

/-- A call from outside ends. -/
def finish (s : Service) (number : Nat) (answer : Answer) : Service :=
  { s with journal := { s.journal with finished := s.journal.finished ++ [(number, answer)] } }

/-- A courier is given something to do. -/
def dispatch (s : Service) (errand : Errand) : Service :=
  { s with errands := s.errands ++ [errand] }.wake (.courier errand.courier)

/-- A reply of a switch, or the loss of it, reaches whoever waits for it. -/
def reply (s : Service) (caller : Caller) (reply : Option Reply) : Service :=
  match caller with
  | .nobody => s
  | .call number id expect => s.finish number (expect.read id reply)
  | .subscription number t => s.finish number (.fault (.closed t))
  | .relay t id tracked client => s.dispatch (.settle t id tracked client (outcomeFrom id reply))

/-- An answer of the arbiter reaches whoever waits for it. -/
def answer (s : Service) (client : Client) (answer : Answer) : Service :=
  match client, answer with
  | .nobody, _ => s
  | .call number, _ => s.finish number answer
  | .ask t id caller, .outcome outcome => s.dispatch (.answer t id caller outcome)
  | .ask .., _ => s

/-- A signal of the modem reaches a switch, unless it has stopped. -/
def Post.addSignal (post : Post) (signal : Signal) : Post :=
  if post.channel.isOpen then { post with signals := post.signals ++ [signal] } else post

/-- The signals of the modem reach the switches. -/
def signal (s : Service) (sent : List (Modem.Sent Unit)) : Service :=
  sent.foldl (fun s entry =>
    (s.amend entry.tenant fun post => post.addSignal entry.signal).wake (.station entry.tenant)) s

/-- A client sends a command to the arbiter. -/
def command (s : Service) (command : Arbiter.Command Client) : Service :=
  if s.arbiterRuns then { s with commands := s.commands ++ [command] }.wake .arbiter
  else match command.client? with
    | some client => s.answer client command.refused
    | none => s

/-- The outcome of a request that the arbiter has passed on reaches the arbiter, if it
tracks the request, and then the client. -/
def settle (s : Service) (t : Tenant) (tracked : Option Arbiter.Tracked) (client : Client)
    (outcome : Outcome) : Service :=
  let told := match tracked with
    | some tracked =>
      if s.arbiterRuns then
        let tidings : Tidings := ⟨t, tracked, outcome⟩
        { s with tidings := s.tidings ++ [tidings] }.wake .arbiter
      else s
    | none => s
  told.answer client (.outcome outcome)

/-- The arbiter sends a request to the switch of a tenant. -/
def send (s : Service) (t : Tenant) (request : Request) (tracked : Option Arbiter.Tracked)
    (client : Client) : Service :=
  match s.post? t with
  | none => s.settle t tracked client (.failed (.unknownTenant t))
  | some post =>
    let (channel, sent) := post.channel.call request fun id => .relay t id tracked client
    let s := s.amend t fun post => { post with channel := channel }
    if sent then (s.wake (.station t)).wake (.courier (.relay t post.channel.nextId))
    else s.settle t tracked client (.failed .noReply)

/-- The switch of a slot at the start: the modem signals the state of the radio, and the
arbiter wants to have all notices. -/
def Post.start (capacity : Nat) (t : Tenant) : Post where
  station := Station.start t true
  channel := { tenant := t, capacity := capacity, mailbox := [.subscribe .all .arbiter .nobody] }

/-- The service on a modem, before anybody has done anything. -/
def ofConfig (config : ArbiterConfig) (modem : ModemConfig) : Service :=
  let tenants := config.tenants
  let pipeline : Modem.Pipeline Unit := .ofConfig modem
  let (pipeline, sent) := tenants.foldl (fun (pipeline, sent) t =>
    let (pipeline, now) := pipeline.attach t ()
    (pipeline, sent ++ now)) (pipeline, [])
  { pipeline := pipeline
    posts := tenants.map (Post.start config.mailboxCapacity)
    arbiter := Arbiter.start config
    turns := .modem :: tenants.map .station ++ [.arbiter] : Service }.signal sent

/-- The service on a modem, or why the configuration is refused. -/
def start (config : ArbiterConfig) (modem : ModemConfig) : Except ServiceFault Service :=
  match config.fault? with
  | some fault => .error fault
  | none => .ok (ofConfig config modem)

end Service

end DataPath
