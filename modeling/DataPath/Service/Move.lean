import DataPath.Service.Basic

/-!
# Moves of the service

Inside the service one thing is done at a time: somebody takes one thing out of a queue
and deals with it completely.  This is a *move*.  Which moves are possible depends on
the queues only; in which order possible moves are made is not decided here.

Two rules narrow the choice.  The arbiter takes a notice before anything else, and the
answer to a request it tracks before any command.  And the modem executes a command
only when its time has come.

A switch that stops loses its mailbox and its subscribers; whoever waits for it waits
in vain and is told so.  The arbiter stops when it is told to or when all switches have
stopped, and the modem when it is told to.
-/

namespace DataPath.Service

/-- What somebody in the service can do next. -/
inductive Move where
  /-- The modem takes a control. -/
  | steer
  /-- The modem executes a command. -/
  | execute
  /-- The switch of a tenant takes a signal of the modem. -/
  | hear (tenant : Tenant)
  /-- The switch of a tenant takes a message out of its mailbox. -/
  | read (tenant : Tenant)
  /-- The arbiter takes a notice. -/
  | notice
  /-- The arbiter takes the answer to a request that it tracks. -/
  | tidings
  /-- The arbiter takes a command. -/
  | command
  /-- A courier does an errand. -/
  | carry (courier : Courier)
  deriving DecidableEq, Repr

/-! ## The modem -/

/-- The modem takes a control. -/
def control (s : Service) : Control → Service
  | .radio t state =>
    let (pipeline, sent) := s.pipeline.setRadio t state
    { s with pipeline := pipeline }.signal sent
  | .failNextEnable t =>
    { s with pipeline := { s.pipeline with modem := s.pipeline.modem.failNextEnable t 1 } }
  | .failNextDisable t =>
    { s with pipeline := { s.pipeline with modem := s.pipeline.modem.failNextDisable t 1 } }
  | .hold value => { s with pipeline := { s.pipeline with holding := value } }
  | .shutdown =>
    { s with modemRuns := false, controls := [], pipeline := { s.pipeline with jobs := [] } }

/-! ## The switches -/

/-- What a switch finds around it. -/
def surroundings (s : Service) : Station.Surroundings Sink where
  accepts _ := s.modemRuns
  listens
    | .arbiter => s.arbiterRuns
    | .observer _ => true

/-- What the switch of a tenant does to what is around it. -/
def enact (t : Tenant) (s : Service) : Station.Action Caller Sink → Service
  | .submit token command =>
    { s with pipeline := s.pipeline.submit s.clock t token command }.wake .modem
  | .deliver .arbiter notice => { s with notices := s.notices ++ [notice] }.wake .arbiter
  | .deliver (.observer number) notice => s.observe number notice
  | .publish event => s.publish event
  | .reply caller reply => s.reply caller (some reply)
  | .askOwnership id c caller => s.dispatch (.ask t id c (caller.getD .nobody))
  | .subscribed (.subscription number _) id => s.finish number (.subscription id)
  | .subscribed _ _ | .unsubscribed _ _ => s

/-- The switch of a tenant goes on with what it made of its input. -/
def proceed (s : Service) (t : Tenant)
    (result : Station Caller Sink × List (Station.Action Caller Sink)) : Service :=
  result.2.foldl (enact t) (s.amend t fun post => { post with station := result.1 })

/-- The switch of a tenant stops. -/
def stopSwitch (s : Service) (t : Tenant) (post : Post) : Service :=
  let lost := post.station.waiting ++ post.channel.mailbox.filterMap Message.handle?
  let stopped := s.amend t fun post =>
    { post with
      channel := post.channel.close
      station := { post.station with subscribers := [] }
      signals := [] }
  (lost.foldl (fun s caller => s.reply caller none) stopped).wake .arbiter

/-- The switch of a tenant takes a message. -/
def receive (s : Service) (t : Tenant) (post : Post) (message : Message Caller Sink) : Service :=
  match message with
  | .shutdown => s.stopSwitch t post
  | message => s.proceed t (post.station.receive s.surroundings message)

/-! ## The arbiter -/

/-- What the arbiter does to what is around it. -/
def decree (s : Service) : Arbiter.Action Client → Service
  | .send t request tracked client => s.send t request tracked (client.getD .nobody)
  | .publish event => s.publish event
  | .answer client answer => s.answer client answer

/-- The arbiter goes on with what it made of its input. -/
def resume (s : Service) (result : Arbiter × List (Arbiter.Action Client)) : Service :=
  result.2.foldl decree { s with arbiter := result.1 }

/-- The arbiter stops. -/
def stopArbiter (s : Service) : Service :=
  s.commands.foldl
    (fun s command => match command.client? with
      | some client => s.answer client command.refused
      | none => s)
    { s with arbiterRuns := false, notices := [], tidings := [], commands := [] }

/-- Whether all switches have stopped. -/
def isDeserted (s : Service) : Bool := s.posts.all fun post => !post.channel.isOpen

/-- The arbiter takes a command. -/
def serve (s : Service) : Arbiter.Command Client → Service
  | .shutdown => s.stopArbiter
  | command => s.resume (s.arbiter.serve command)

/-! ## The couriers -/

/-- A courier does an errand. -/
def carry (s : Service) : Errand → Service
  | .ask t id c caller => s.command (.activate t c (.ask t id caller))
  | .answer _ id caller outcome => s.reply caller (some ⟨id, .outcome outcome⟩)
  | .settle t _ tracked client outcome => s.settle t tracked client outcome

/-- Take the first errand of a courier from a list. -/
def takeErrand? (courier : Courier) (errands : List Errand) : Option (Errand × List Errand) :=
  (errands.find? (·.courier = courier)).map fun errand =>
    (errand, errands.eraseP (·.courier = courier))

/-! ## Moves -/

/-- The service after a move, if the move is possible. -/
def move? (s : Service) : Move → Option Service
  | .steer => match s.controls with
    | control :: rest =>
      if s.modemRuns then some ({ s with controls := rest }.control control) else none
    | [] => none
  | .execute =>
    if s.modemRuns then
      (s.pipeline.next? s.clock).map fun (pipeline, sent) =>
        { s with pipeline := pipeline }.signal sent
    else none
  | .hear t => match s.post? t with
    | some post => match post.signals with
      | signal :: rest =>
        if post.channel.isOpen then
          some ((s.amend t fun post => { post with signals := rest }).proceed t
            (post.station.hear s.surroundings signal))
        else none
      | [] => none
    | none => none
  | .read t => match s.post? t with
    | some post => post.channel.take?.map fun (message, channel) =>
      (s.amend t fun post => { post with channel := channel }).receive t
        { post with channel := channel } message
    | none => none
  | .notice =>
    if ¬s.arbiterRuns then none
    else match s.notices with
      | notice :: rest => some ({ s with notices := rest }.resume (s.arbiter.takeNotice notice))
      | [] => if s.isDeserted then some s.stopArbiter else none
  | .tidings =>
    if ¬s.arbiterRuns ∨ s.notices ≠ [] then none
    else match s.tidings with
      | t :: rest =>
        some ({ s with tidings := rest }.resume (s.arbiter.takeAnswer t.tenant t.tracked t.outcome))
      | [] => none
  | .command =>
    if ¬s.arbiterRuns ∨ s.notices ≠ [] ∨ s.tidings ≠ [] then none
    else match s.commands with
      | command :: rest => some ({ s with commands := rest }.serve command)
      | [] => none
  | .carry courier =>
    (takeErrand? courier s.errands).map fun (errand, rest) =>
      { s with errands := rest }.carry errand

end DataPath.Service
