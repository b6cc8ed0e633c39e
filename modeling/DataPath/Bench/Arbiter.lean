import DataPath.Arbiter.Desk

/-!
# The arbiter on the bench

The arbiter is run alone; the clients, the switches of the tenants and the modem are
played from outside.  A step of the bench is one stimulus with all its consequences,
and a call is known by the step that made it.
-/

namespace DataPath.Bench

/-- What is done to the arbiter. -/
inductive ArbiterPlay where
  /-- A client sends a command; the command is given once the client is known. -/
  | call (command : Nat → Arbiter.Command Nat)
  /-- A client asks whether the modem could carry a class on a slot; the modem gives this
  answer, or none. -/
  | isPossible (tenant : Tenant) (dataClass : DataClass) (answer : Option Bool)
  /-- The switch of a tenant answers the oldest request it has not answered, with a reply
  made for its number, or drops it. -/
  | answer (tenant : Tenant) (reply : Nat → Option Reply)
  /-- The switch of a tenant sends a notice. -/
  | notice (tenant : Tenant) (notice : Notice)
  /-- The switch of a tenant goes away. -/
  | closeTenant (tenant : Tenant)
  /-- The switch of a tenant will send no more notices. -/
  | dropSink (tenant : Tenant)
  /-- The modem goes away. -/
  | closeModem
  /-- The clients go away. -/
  | dropHandle

/-- What came of one step. -/
structure ArbiterReport where
  /-- The calls that ended, by the steps that made them. -/
  finished : List (Nat × Answer) := []
  /-- What the switches received. -/
  mail : List (Tenant × Message Unit Unit) := []
  /-- What the modem was asked. -/
  queries : List (Tenant × DataClass) := []
  events : List Event := []
  /-- How the arbiter ended, if it did. -/
  stopped : Option (Option ServiceFault) := none

/-- A request that the arbiter sent to a switch. -/
structure Sent where
  id : Nat
  tracked : Option Arbiter.Tracked
  client : Option Nat

/-- The switch of a tenant, played from outside. -/
structure Played where
  tenant : Tenant
  isOpen : Bool := true
  /-- Whether the arbiter still listens to its notices. -/
  hasSink : Bool := false
  /-- The number of the next request. -/
  nextId : Nat := 1
  /-- The requests it has not answered, oldest first. -/
  unanswered : List Sent := []

/-- The answer to a request that is tracked. -/
structure Tidings where
  tenant : Tenant
  tracked : Arbiter.Tracked
  outcome : Outcome

/-- The arbiter and what is played around it. -/
structure ArbiterBench where
  arbiter : Arbiter
  tenantCount : Nat
  running : Bool := true
  /-- The switches, by their slots. -/
  switches : List Played
  modemOpen : Bool := true
  /-- Whether there are still clients. -/
  handleHeld : Bool := true
  /-- What the arbiter has yet to hear of its own requests. -/
  tidings : List Tidings := []
  /-- What came of the step so far. -/
  report : ArbiterReport := {}

namespace ArbiterBench

/-- A call ends. -/
def finish (b : ArbiterBench) (step : Nat) (answer : Answer) : ArbiterBench :=
  { b with report := { b.report with finished := b.report.finished ++ [(step, answer)] } }

/-- The outcome of a request reaches the arbiter, if it is tracked, and the client. -/
def deliver (b : ArbiterBench) (t : Tenant) (tracked : Option Arbiter.Tracked)
    (client : Option Nat) (outcome : Outcome) : ArbiterBench :=
  let b := match tracked with
    | some tracked => { b with tidings := b.tidings ++ [⟨t, tracked, outcome⟩] }
    | none => b
  match client with
  | some step => b.finish step (.outcome outcome)
  | none => b

/-- A change to the switch of a tenant. -/
def amend (b : ArbiterBench) (t : Tenant) (f : Played → Played) : ArbiterBench :=
  { b with switches := b.switches.modify t.slot f }

/-- A request is sent to the switch of a tenant. -/
def send (b : ArbiterBench) (t : Tenant) (request : Request) (tracked : Option Arbiter.Tracked)
    (client : Option Nat) : ArbiterBench :=
  match b.switches[t.slot]? with
  | none => b.deliver t tracked client (.failed (.unknownTenant t))
  | some played =>
    if played.isOpen then
      let b := b.amend t fun p =>
        { p with
          nextId := p.nextId + 1
          unanswered := p.unanswered ++ [⟨p.nextId, tracked, client⟩] }
      { b with report :=
        { b.report with mail := b.report.mail ++ [(t, .request played.nextId request (some ()))] } }
    else
      (b.amend t fun p => { p with nextId := p.nextId + 1 }).deliver t tracked client
        (.failed .noReply)

/-- One action of the arbiter. -/
def act (b : ArbiterBench) : Arbiter.Action Nat → ArbiterBench
  | .send t request tracked client => b.send t request tracked client
  | .publish event => { b with report := { b.report with events := b.report.events ++ [event] } }
  | .answer step answer => b.finish step answer

/-- The arbiter goes on with what it made of its input. -/
def proceed (b : ArbiterBench) (result : Arbiter × List (Arbiter.Action Nat)) : ArbiterBench :=
  result.2.foldl act { b with arbiter := result.1 }

/-- The arbiter ends. -/
def stop (b : ArbiterBench) (fault : Option ServiceFault) : ArbiterBench :=
  { b with running := false, tidings := [], report := { b.report with stopped := some fault } }

/-- Whether some client still waits, and so holds on to the arbiter. -/
def hasClients (b : ArbiterBench) : Bool :=
  b.switches.any fun p => p.unanswered.any fun sent => sent.client.isSome

/-- The arbiter hears of its own requests, for as long as there is something to hear and
at most so often. -/
def hearTidings : Nat → ArbiterBench → ArbiterBench
  | 0, b => b
  | fuel + 1, b => match b.tidings with
    | [] => b
    | t :: rest =>
      hearTidings fuel
        ({ b with tidings := rest }.proceed (b.arbiter.takeAnswer t.tenant t.tracked t.outcome))

/-- How often the arbiter may hear of its own requests in one step.  Each time it either
has one grant or one request to clean up less to wait for, or has sent new ones to a
switch that is gone, which it does once for every class that waits. -/
def maxTidings : Nat := 1000

/-- Everything that follows by itself.  With nobody left to send notices, or nobody left
to send commands, the arbiter ends. -/
def run (b : ArbiterBench) : ArbiterBench :=
  if ¬b.running then b
  else if b.switches.all fun p => !p.hasSink then b.stop none
  else
    let b := hearTidings maxTidings b
    if ¬b.handleHeld ∧ ¬b.hasClients then b.stop none else b

/-- The switch of a tenant drops the requests it has not answered. -/
def dropUnanswered (b : ArbiterBench) (t : Tenant) : ArbiterBench :=
  match b.switches[t.slot]? with
  | none => b
  | some played =>
    played.unanswered.foldl (fun b sent => b.deliver t sent.tracked sent.client (.failed .noReply))
      (b.amend t fun p => { p with unanswered := [] })

/-- The stimulus of one step. -/
def play (b : ArbiterBench) (step : Nat) : ArbiterPlay → ArbiterBench
  | .call command =>
    if ¬b.handleHeld then b
    else match b.running, command step with
      | true, .shutdown => (b.finish step .nothing).stop none
      | true, command => b.proceed (b.arbiter.serve command)
      | false, command => b.finish step command.refused
  | .isPossible t c answer =>
    if ¬b.handleHeld then b
    else if b.tenantCount ≤ t.slot ∨ ¬b.modemOpen then b.finish step (.flag false)
    else
      { b with report := { b.report with queries := b.report.queries ++ [(t, c)] } }.finish step
        (.flag (answer.getD false))
  | .answer t reply => match (b.switches[t.slot]?).map Played.unanswered with
    | some (sent :: rest) =>
      (b.amend t fun p => { p with unanswered := rest }).deliver t sent.tracked sent.client
        (outcomeFrom sent.id (reply sent.id))
    | _ => b
  | .notice t notice =>
    if b.running ∧ (b.switches[t.slot]?).any Played.hasSink then
      b.proceed (b.arbiter.takeNotice notice)
    else b
  | .closeTenant t =>
    (b.amend t fun p => { p with isOpen := false, hasSink := false }).dropUnanswered t
  | .dropSink t => b.amend t fun p => { p with hasSink := false }
  | .closeModem => { b with modemOpen := false }
  | .dropHandle => { b with handleHeld := false }

/-- One step: a stimulus with all its consequences. -/
def step (b : ArbiterBench) (index : Nat) (play : ArbiterPlay) : ArbiterBench × ArbiterReport :=
  let after := ({ b with report := {} }.play index play).run
  (after, after.report)

/-- The arbiter subscribes to the switches, one after the other.  It does not start if one
of them is gone. -/
def subscribe (b : ArbiterBench) : List Played → ArbiterBench
  | [] => b
  | p :: rest =>
    if p.isOpen then
      let mail := b.report.mail ++ [(p.tenant, Message.subscribe .all () ())]
      { b.amend p.tenant fun p => { p with hasSink := true } with
        report := { b.report with mail := mail } }.subscribe rest
    else b.stop (some (.closed p.tenant))

/-- The start of the arbiter, with so many switches, some of which are gone. -/
def start (config : ArbiterConfig) (count : Nat) (closed : List Tenant) :
    ArbiterBench × ArbiterReport :=
  let switches := (Tenant.firsts count).map fun t =>
    { tenant := t, isOpen := !closed.contains t : Played }
  let b : ArbiterBench :=
    { arbiter := Arbiter.start config, tenantCount := config.tenantCount, switches := switches }
  let b := (b.subscribe switches).run
  (b, b.report)

end ArbiterBench

end DataPath.Bench
