import DataPath.Answer
import DataPath.Station

/-!
# A station on the bench

One station is run alone, and everything around it is played from outside: the callers,
the subscribers, the modem and the arbiter.  A step of the bench is one stimulus with
all its consequences.  Steps are numbered, from zero for the start, and a call is known
by the step that made it.
-/

namespace DataPath.Bench

/-- How a caller of the station is reached. -/
inductive StationHandle where
  /-- The caller of a request, with the number of the request. -/
  | call (step id : Nat) (expect : Expect)
  /-- Somebody who subscribed. -/
  | subscription (step : Nat)
  /-- Somebody who gave up a subscription. -/
  | removal (step : Nat)
  deriving DecidableEq, Repr

/-- What the modem receives. -/
inductive ModemMail where
  /-- The station wants the signals for its tenant. -/
  | attach
  | command (token : Nat) (command : Command)
  deriving DecidableEq, Repr

/-- What is done to the station. -/
inductive StationPlay where
  /-- Send a request and wait for the answer. -/
  | call (request : Request)
  /-- Send the message to stop. -/
  | shutdown
  /-- Post a request. -/
  | post (request : Request)
  | subscribe (filter : NoticeFilter)
  | unsubscribe (id : Nat)
  /-- The subscriber with this number goes away. -/
  | dropSubscriber (id : Nat)
  /-- The modem signals. -/
  | signal (signal : Signal)
  /-- The modem takes no more commands. -/
  | closeModem
  /-- The modem will signal no more. -/
  | detachModem
  /-- The arbiter answers the oldest question it has not answered. -/
  | answerAsk (outcome : Outcome)
  /-- The arbiter drops the oldest question it has not answered. -/
  | dropAsk
  /-- The arbiter goes away. -/
  | closeArbiter
  /-- The channel to the station goes away. -/
  | dropChannel

/-- What came of one step. -/
structure StationReport where
  /-- What a post came to. -/
  result : Option Answer := none
  /-- The calls that ended, by the steps that made them. -/
  finished : List (Nat × Answer) := []
  /-- What the modem received. -/
  mail : List ModemMail := []
  /-- The notices that subscribers received, by the numbers of the subscriptions. -/
  notices : List (Nat × Notice) := []
  events : List Event := []
  /-- The classes for which the arbiter was asked for the data path. -/
  asked : List DataClass := []
  /-- How the station ended, if it did. -/
  stopped : Option (Option ServiceFault) := none

/-- A question that the arbiter has not answered. -/
structure Ask where
  /-- The number of the connect that led to it. -/
  id : Nat
  handle : Option StationHandle

/-- A station and what is played around it. -/
structure StationBench where
  station : Station StationHandle Nat
  channel : Channel StationHandle Nat
  /-- Whether the channel is still held outside. -/
  channelHeld : Bool := true
  /-- Whether the modem takes commands. -/
  modemOpen : Bool := true
  /-- Whether the modem signals. -/
  attached : Bool := true
  /-- Whether the arbiter is there. -/
  arbiterOpen : Bool := true
  /-- The questions that the arbiter has not answered, oldest first. -/
  asks : List Ask := []
  /-- The subscribers who have gone away, by the numbers of their subscriptions. -/
  deaf : List Nat := []
  /-- What came of the step so far. -/
  report : StationReport := {}

namespace StationBench

/-- Whether the station is running. -/
def running (b : StationBench) : Bool := b.channel.isOpen

/-- A call ends. -/
def finish (b : StationBench) (step : Nat) (answer : Answer) : StationBench :=
  { b with report := { b.report with finished := b.report.finished ++ [(step, answer)] } }

/-- A reply, or the loss of it, reaches a caller. -/
def resolve (b : StationBench) (handle : StationHandle) (reply : Option Reply) : StationBench :=
  match handle with
  | .call step id expect => b.finish step (expect.read id reply)
  | .subscription step => b.finish step (.fault (.closed b.channel.tenant))
  | .removal step => b.finish step (.flag false)

/-- The outcome of a question to the arbiter reaches whoever waits for the connect. -/
def settleAsk (b : StationBench) (ask : Ask) (outcome : Outcome) : StationBench :=
  match ask.handle with
  | some handle => b.resolve handle (some ⟨ask.id, .outcome outcome⟩)
  | none => b

/-- One action of the station. -/
def act (b : StationBench) : Station.Action StationHandle Nat → StationBench
  | .submit token command =>
    { b with report := { b.report with mail := b.report.mail ++ [.command token command] } }
  | .deliver sink notice =>
    { b with report := { b.report with notices := b.report.notices ++ [(sink, notice)] } }
  | .publish event => { b with report := { b.report with events := b.report.events ++ [event] } }
  | .reply handle reply => b.resolve handle (some reply)
  | .askOwnership id c handle =>
    if b.arbiterOpen then
      { b with
        asks := b.asks ++ [⟨id, handle⟩]
        report := { b.report with asked := b.report.asked ++ [c] } }
    else b.settleAsk ⟨id, handle⟩ (.failed .noReply)
  | .subscribed (.subscription step) id => b.finish step (.subscription id)
  | .unsubscribed (.removal step) known => b.finish step (.flag known)
  | .subscribed _ _ | .unsubscribed _ _ => b

/-- What the station finds around it. -/
def surroundings (b : StationBench) : Station.Surroundings Nat where
  accepts _ := b.modemOpen
  listens sink := !b.deaf.contains sink

/-- The station goes on with what it made of its input. -/
def proceed (b : StationBench)
    (result : Station StationHandle Nat × List (Station.Action StationHandle Nat)) :
    StationBench :=
  result.2.foldl act { b with station := result.1 }

/-- The station ends; whoever waits for it waits in vain. -/
def stop (b : StationBench) (fault : Option ServiceFault) : StationBench :=
  let waiting := b.station.waiting
  let ended :=
    { b with
      channel := b.channel.close
      station := { b.station with subscribers := [] }
      report := { b.report with stopped := some fault } }
  waiting.foldl (fun b handle => b.resolve handle none) ended

/-- The station reads its mailbox until it is empty or tells it to stop. -/
def readMailbox (b : StationBench) : List (Message StationHandle Nat) → StationBench
  | [] => { b with channel := { b.channel with mailbox := [] } }
  | .shutdown :: rest =>
    (rest.filterMap Message.handle?).foldl (fun b handle => b.resolve handle none) (b.stop none)
  | message :: rest => (b.proceed (b.station.receive b.surroundings message)).readMailbox rest

/-- Whether some call still waits, and so holds on to the channel. -/
def hasCallers (b : StationBench) : Bool :=
  !b.station.waiting.isEmpty || b.asks.any fun ask => ask.handle.isSome

/-- Everything that follows by itself. -/
def run (b : StationBench) : StationBench :=
  let b := if b.running then b.readMailbox b.channel.mailbox else b
  if b.running ∧ ¬b.channelHeld ∧ ¬b.hasCallers then b.stop none else b

/-- The channel after something was put into it, or the answer if it is closed. -/
def sent (b : StationBench) (step : Nat) (closed : Answer)
    (result : Channel StationHandle Nat × Bool) : StationBench :=
  let b := { b with channel := result.1 }
  if result.2 then b else b.finish step closed

/-- The stimulus of one step. -/
def play (b : StationBench) (step : Nat) : StationPlay → StationBench
  | .call request =>
    let expect := request.expects
    if b.channelHeld then
      b.sent step (expect.read 0 none) (b.channel.call request fun id => .call step id expect)
    else b
  | .shutdown =>
    if b.channelHeld then { b with channel := (b.channel.put .shutdown).1 }.finish step .nothing
    else b
  | .post request =>
    if b.channelHeld then
      let (channel, fault) := b.channel.post request
      { b with
        channel := channel
        report := { b.report with result := some (fault.elim .done .fault) } }
    else b
  | .subscribe filter =>
    if b.channelHeld then
      b.sent step (.fault (.closed b.channel.tenant))
        (b.channel.put (.subscribe filter b.station.nextSubscription (.subscription step)))
    else b
  | .unsubscribe id =>
    if b.channelHeld then
      b.sent step (.flag false) (b.channel.put (.unsubscribe id (.removal step)))
    else b
  | .dropSubscriber id => { b with deaf := id :: b.deaf }
  | .signal signal =>
    if b.running ∧ b.attached then b.proceed (b.station.hear b.surroundings signal) else b
  | .closeModem => { b with modemOpen := false }
  | .detachModem => { b with attached := false }
  | .answerAsk outcome => match b.asks with
    | ask :: rest => { b with asks := rest }.settleAsk ask outcome
    | [] => b
  | .dropAsk => match b.asks with
    | ask :: rest => { b with asks := rest }.settleAsk ask (.failed .noReply)
    | [] => b
  | .closeArbiter =>
    b.asks.foldl (fun b ask => b.settleAsk ask (.failed .noReply))
      { b with asks := [], arbiterOpen := false }
  | .dropChannel => { b with channelHeld := false }

/-- One step: a stimulus with all its consequences. -/
def step (b : StationBench) (index : Nat) (play : StationPlay) : StationBench × StationReport :=
  let after := ({ b with report := {} }.play index play).run
  (after, after.report)

/-- The start of the station of a tenant.  If the modem is gone it ends at once. -/
def start (tenant : Tenant) (capacity : Nat) (arbitrated modemClosed : Bool) :
    StationBench × StationReport :=
  let b : StationBench :=
    { station := Station.start tenant arbitrated
      channel := { tenant := tenant, capacity := capacity } }
  let b :=
    if modemClosed then
      { b with modemOpen := false, attached := false }.stop (some (.modem .closed))
    else { b with report := { b.report with mail := [.attach] } }
  (b, b.report)

end StationBench

end DataPath.Bench
