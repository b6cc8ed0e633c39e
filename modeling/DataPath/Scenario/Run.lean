import DataPath.Json.Printer
import DataPath.Service.Input
import DataPath.Service.Run
import DataPath.Settings.Basic

/-!
# Running a scenario

A scenario is run on a fresh modem and a fresh service.  Its steps are done one after
the other.  A step that calls the arbiter ends when the call is answered, and a step
that waits lets time pass; the other steps end at once, and their consequences come
while a later step is done.

The report of a run holds the result of every step, what the arbiter and the modem tell
about themselves at the end, and the events as text, as far as they are to be kept.
-/

namespace DataPath.Scenario

/-- What came of a step. -/
structure StepRecord where
  index : Nat
  step : Step
  result : String
  deriving DecidableEq, Repr

/-- What came of a scenario. -/
structure Report where
  /-- The steps in the order in which they were done. -/
  steps : List StepRecord
  status : Arbiter.Status
  stats : Modem.Stats
  /-- The events that were kept. -/
  events : List String
  /-- How many events were not kept. -/
  dropped : Nat
  deriving DecidableEq, Repr

/-- Why there is no report. -/
inductive Fault where
  /-- The settings are unusable. -/
  | settings (fault : Settings.Fault)
  /-- The service did not start. -/
  | start (fault : ServiceFault)
  /-- The arbiter did not tell its state when a step asked for it. -/
  | status (fault : ServiceFault)
  /-- The arbiter did not tell its state at the end. -/
  | lastStatus (fault : ServiceFault)
  deriving DecidableEq, Repr

/-- What happened, and then what caused it. -/
def Fault.chain : Fault → List String
  | .settings fault => fault.chain
  | .start fault => ["Failed to start data switch", fault.message]
  | .status fault => ["Arbitrator stopped during the scenario", fault.message]
  | .lastStatus fault => ["Arbitrator stopped before the final status", fault.message]

namespace Report

/-- Whether the modem was ever told to carry data on two slots. -/
def isViolated (r : Report) : Bool := 0 < r.stats.violations

/-- The JSON form of a report. -/
def toJson (r : Report) : Json :=
  .record [
    ("steps", .list (r.steps.map fun record =>
      .record [("index", .nat record.index), ("step", record.step.toJson),
        ("result", .text record.result)])),
    ("status", r.status.toJson), ("stats", r.stats.toJson),
    ("events", .list (r.events.map .text)), ("events_dropped", .nat r.dropped)]

end Report

/-! ## Steps -/

/-- The answer to a call, if it is there. -/
def answerOf? (s : Service) (number : Nat) : Option Answer := s.journal.finished.lookup number

/-- Run the service until a call is answered.  Time passes only while everything else is
done; it passes so many times at most. -/
def await (number : Nat) : Nat → Service → Service
  | 0, s => s.run
  | fuel + 1, s =>
    let s := s.run
    if (answerOf? s number).isSome then s
    else match s.nextDue? with
      | some due => await number fuel (s.moveClock due)
      | none => s

/-- Call the arbiter and wait for the answer. -/
def call (s : Service) (number : Nat) (input : Service.Input) : Service × Option Answer :=
  let s := await number Service.maxTurns (s.accept number input)
  (s, answerOf? s number)

/-- The outcome of a call; a call without an answer has failed. -/
def outcomeOf : Option Answer → Outcome
  | some (.outcome outcome) => outcome
  | _ => .failed .noReply

/-- The status that a call asked for. -/
def statusOf : Option Answer → Except ServiceFault Arbiter.Status
  | some (.status status) => .ok status
  | _ => .error .arbiterClosed

/-- Let so many milliseconds pass.  No time at all is no occasion for anything. -/
def elapse (s : Service) (ms : Nat) : Service := if ms = 0 then s else s.runFor ms

/-- Do a step, the calls of which have this number, and tell the result. -/
def doStep (s : Service) (number : Nat) : Step → Except Fault (Service × String)
  | .activate t c =>
    let (s, answer) := call s number (.activate t c)
    .ok (s, (outcomeOf answer).dump)
  | .deactivate t c =>
    let (s, answer) := call s number (.deactivate t c)
    .ok (s, (outcomeOf answer).dump)
  | .radio t state => .ok (s.accept number (.steer (.radio t state)), "radio " ++ state.name)
  | .failNextEnable t => .ok (s.accept number (.steer (.failNextEnable t)), "armed")
  | .wait ms => .ok (elapse s ms, "waited " ++ toString ms ++ "ms")
  | .status =>
    let (s, answer) := call s number .status
    match statusOf answer with
    | .ok status => .ok (s, status.toJson.compact)
    | .error fault => .error (.status fault)

/-- Do steps that are numbered from this number on. -/
def doSteps (s : Service) (number : Nat) :
    List Step → Except Fault (Service × List StepRecord)
  | [] => .ok (s, [])
  | step :: rest => do
    let (s, result) ← doStep s number step
    let (s, records) ← doSteps s (number + 1) rest
    return (s, ⟨number, step, result⟩ :: records)

/-! ## Runs -/

/-- Run the scenario of some settings. -/
def run (settings : Settings) : Except Fault Report := do
  if let some fault := settings.fault? then throw (.settings fault)
  let s ← (Service.start settings.arbiter settings.modem).mapError .start
  let (s, records) ← doSteps s 0 settings.scenario
  let (s, answer) := call (elapse s settings.settle) settings.scenario.length .status
  let status ← (statusOf answer).mapError .lastStatus
  let events := s.journal.events.map Event.dump
  return {
    steps := records
    status := status
    stats := s.pipeline.modem.stats
    events := events.take settings.eventLogLimit
    dropped := events.length - settings.eventLogLimit }

end DataPath.Scenario
