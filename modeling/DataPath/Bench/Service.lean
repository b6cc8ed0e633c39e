import DataPath.Service.Input
import DataPath.Service.Run

/-!
# The service on the bench

The whole service is run on a virtual modem, and what is asked of it comes from outside.
A step of the bench is one input with all its consequences: either with those of the
same instant only, or with those that come when time passes, until the modem has nothing
left to do that is not held.
-/

namespace DataPath.Bench

/-- What came of one step. -/
structure ServiceReport where
  /-- The calls that ended, by the steps that made them. -/
  finished : List (Nat × Answer)
  /-- The notices that observers received. -/
  notices : List (Nat × Notice)
  events : List Event
  /-- The status of the arbiter, while it runs. -/
  status : Option Arbiter.Status
  /-- What the modem tells about itself, while it runs. -/
  stats : Option Modem.Stats

/-- What came of a step that the service has just made. -/
def ServiceReport.of (s : Service) : ServiceReport where
  finished := s.journal.finished
  notices := s.journal.notices
  events := s.journal.events
  status := if s.arbiterRuns then some s.arbiter.status else none
  stats := if s.modemRuns then some s.pipeline.modem.stats else none

/-- The service on a modem, when it has started; or why it does not. -/
def serviceStart (config : ArbiterConfig) (modem : ModemConfig) : Except ServiceFault Service :=
  (Service.start config modem).map Service.run

/-- One step: an input with its consequences, either the instant ones or all of them. -/
def serviceStep (s : Service) (index : Nat) (isInstant : Bool) (input : Service.Input) :
    Service × ServiceReport :=
  let s := { s with journal := {} }.accept index input
  let s := if isInstant then s.run else s.runOut
  (s, .of s)

end DataPath.Bench
