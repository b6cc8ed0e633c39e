import DataPath.Answer
import DataPath.Modem.Pipeline

/-!
# The modem on the bench

The modem is run alone; the switches are played from outside.  The clock stands still
unless it is moved.  Sinks are numbered in the order of the attempts to attach them.
-/

namespace DataPath.Bench

/-- What is done to the modem. -/
inductive ModemPlay where
  /-- Attach a new sink for a tenant. -/
  | attach (tenant : Tenant)
  /-- Submit a command. -/
  | submit (tenant : Tenant) (token : Nat) (command : Command)
  /-- Ask whether a slot can carry a class. -/
  | supports (tenant : Tenant) (dataClass : DataClass)
  /-- Set the radio of a slot. -/
  | radio (tenant : Tenant) (state : Radio)
  /-- Make the next command to bring up a class on a slot fail. -/
  | failNextEnable (tenant : Tenant)
  /-- Make the next command to take down a class on a slot fail. -/
  | failNextDisable (tenant : Tenant)
  /-- Hold force-idle commands, or let them go. -/
  | hold (value : Bool)
  /-- Ask what the modem tells about itself. -/
  | stats
  /-- Stop the modem. -/
  | shutdown
  /-- Nobody can submit commands any more. -/
  | dropCommands
  /-- Nobody can steer the modem any more. -/
  | dropControl
  /-- Let so many milliseconds pass. -/
  | wait (ms : Nat)

/-- What a play came to. -/
inductive ModemResult where
  | nothing
  /-- Whether the modem could be reached. -/
  | submitted (fault : Option ModemFault)
  | flag (value : Bool)
  | stats (stats : Modem.Stats)

/-- A modem and what is played around it. -/
structure ModemBench where
  pipeline : Modem.Pipeline Nat
  now : Nat := 0
  /-- Whether the modem is running. -/
  running : Bool := true
  /-- Whether commands can still be submitted. -/
  commandsHeld : Bool := true
  /-- The number of the next sink. -/
  nextSink : Nat := 0

namespace ModemBench

/-- The modem of a configuration. -/
def start (config : ModemConfig) : ModemBench := { pipeline := .ofConfig config }

/-- The modem goes on with what it made of its input. -/
def proceed (b : ModemBench) (result : ModemResult)
    (after : Modem.Pipeline Nat × List (Modem.Sent Nat)) :
    ModemBench × ModemResult × List (Modem.Sent Nat) :=
  ({ b with pipeline := after.1 }, result, after.2)

/-- The modem is steered, if it is running. -/
def steer (b : ModemBench) (after : Modem.Pipeline Nat × List (Modem.Sent Nat)) :
    ModemBench × ModemResult × List (Modem.Sent Nat) :=
  if b.running then b.proceed .nothing after else (b, .nothing, [])

/-- What can no longer be done is answered with nothing. -/
def play (b : ModemBench) : ModemPlay → ModemBench × ModemResult × List (Modem.Sent Nat)
  | .attach t =>
    if ¬b.commandsHeld then (b, .nothing, [])
    else
      let next := { b with nextSink := b.nextSink + 1 }
      if b.running then next.proceed (.submitted none) (b.pipeline.attach t b.nextSink)
      else (next, .submitted (some .closed), [])
  | .submit t token command =>
    if ¬b.commandsHeld then (b, .nothing, [])
    else if b.running then
      b.proceed (.submitted none) (b.pipeline.submit b.now t token command, [])
    else (b, .submitted (some .closed), [])
  | .supports t c =>
    if ¬b.commandsHeld then (b, .nothing, [])
    else (b, .flag (b.running && b.pipeline.modem.supports t c), [])
  | .radio t state => b.steer (b.pipeline.setRadio t state)
  | .failNextEnable t =>
    b.steer ({ b.pipeline with modem := b.pipeline.modem.failNextEnable t 1 }, [])
  | .failNextDisable t =>
    b.steer ({ b.pipeline with modem := b.pipeline.modem.failNextDisable t 1 }, [])
  | .hold value => b.steer ({ b.pipeline with holding := value }, [])
  | .stats => (b, if b.running then .stats b.pipeline.modem.stats else .nothing, [])
  | .shutdown => ({ b with running := false }, .nothing, [])
  | .dropCommands => ({ b with commandsHeld := false, running := false }, .nothing, [])
  | .dropControl => (b, .nothing, [])
  | .wait ms => ({ b with now := b.now + ms }, .nothing, [])

/-- One step: a play with all its consequences. -/
def step (b : ModemBench) (play : ModemPlay) :
    ModemBench × ModemResult × List (Modem.Sent Nat) :=
  let (b, result, sent) := b.play play
  if b.running then
    let (pipeline, later) := b.pipeline.completeDue b.now
    ({ b with pipeline := pipeline }, result, sent ++ later)
  else (b, result, sent)

end ModemBench

end DataPath.Bench
