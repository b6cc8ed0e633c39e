import DataPath.Command
import DataPath.Modem.Basic

/-!
# The modem at work

Commands take time.  The modem works on them in the order in which they were submitted,
and a command is executed when its time has come and all commands before it have been
executed.  Time is counted in milliseconds.

The end of a command is signalled to whoever is attached for its tenant, and a class
that came up is signalled right after the end of its command.  For a tenant without
anybody attached the signals are lost.

For experiments the modem can be told to *hold* force-idle commands: such a command,
and everything behind it, then waits although its time has come.
-/

namespace DataPath.Modem

/-- A command that the modem has accepted. -/
structure Job where
  /-- When the time of the command has come. -/
  due : Nat
  tenant : Tenant
  token : Nat
  command : Command
  deriving DecidableEq, Repr

/-- A modem with the commands it works on, and with who is attached to it, where `σ` is
the type of the sinks for signals. -/
structure Pipeline (σ : Type) where
  modem : Modem
  /-- How long a command takes. -/
  latency : Nat
  /-- The commands that were not executed, oldest first. -/
  jobs : List Job := []
  /-- Whether force-idle commands are held. -/
  holding : Bool := false
  /-- Who is attached for which tenant. -/
  sinks : List (Tenant × σ) := []
  deriving Repr

/-- A signal on its way to a sink. -/
structure Sent (σ : Type) where
  sink : σ
  tenant : Tenant
  signal : Signal
  deriving DecidableEq, Repr

/-- Execute a command. -/
def execute (m : Modem) (t : Tenant) : Command → Modem × Option ModemFault
  | .enable c => m.enable t c
  | .disable c => m.disable t c
  | .forceIdle => m.forceIdle t

/-- What the end of a command is signalled by. -/
def signals (token : Nat) (command : Command) (fault : Option ModemFault) : List Signal :=
  .completed token fault ::
    match command, fault with
    | .enable c, none => [.classConnected c]
    | _, _ => []

namespace Pipeline

variable {σ : Type}

/-- The modem as a configuration describes it, with nobody attached. -/
def ofConfig (config : ModemConfig) : Pipeline σ where
  modem := Modem.ofConfig config
  latency := config.latency

/-- Signals for a tenant, on their way to whoever is attached. -/
def send (p : Pipeline σ) (t : Tenant) (signals : List Signal) : List (Sent σ) :=
  match p.sinks.lookup t with
  | some sink => signals.map fun signal => ⟨sink, t, signal⟩
  | none => []

/-- Attach a sink for a tenant, in the place of any other.  It begins with the state of
the radio. -/
def attach (p : Pipeline σ) (t : Tenant) (sink : σ) : Pipeline σ × List (Sent σ) :=
  let attached := { p with sinks := (t, sink) :: p.sinks.filter fun entry => entry.1 ≠ t }
  (attached, attached.send t ((p.modem.radio? t).map Signal.radio).toList)

/-- Accept a command, at a given time. -/
def submit (p : Pipeline σ) (now : Nat) (t : Tenant) (token : Nat) (command : Command) :
    Pipeline σ :=
  { p with jobs := p.jobs ++ [⟨now + p.latency, t, token, command⟩] }

/-- Whether a command is held although its time may have come. -/
def holds (p : Pipeline σ) (job : Job) : Bool := p.holding && job.command = .forceIdle

/-- Whether a command can be executed at a given time, if it is the next one. -/
def isReady (p : Pipeline σ) (now : Nat) (job : Job) : Bool := job.due ≤ now && !p.holds job

/-- Execute one command, which is no longer to be worked on. -/
def complete (p : Pipeline σ) (job : Job) : Pipeline σ × List (Sent σ) :=
  let (modem, fault) := p.modem.execute job.tenant job.command
  ({ p with modem := modem }, p.send job.tenant (signals job.token job.command fault))

/-- Execute the commands of a list, up to the first that is not ready. -/
def completeReady (p : Pipeline σ) (now : Nat) : List Job → Pipeline σ × List (Sent σ)
  | [] => ({ p with jobs := [] }, [])
  | job :: rest =>
    if p.isReady now job then
      let (p, sent) := p.complete job
      let (p, later) := p.completeReady now rest
      (p, sent ++ later)
    else ({ p with jobs := job :: rest }, [])

/-- Execute every command that can be executed at a given time. -/
def completeDue (p : Pipeline σ) (now : Nat) : Pipeline σ × List (Sent σ) :=
  p.completeReady now p.jobs

/-- Execute the next command, if it can be executed at a given time. -/
def next? (p : Pipeline σ) (now : Nat) : Option (Pipeline σ × List (Sent σ)) :=
  match p.jobs with
  | job :: rest => if p.isReady now job then some ({ p with jobs := rest }.complete job) else none
  | [] => none

/-- Set the radio of a slot, and signal the change if there is one. -/
def setRadio (p : Pipeline σ) (t : Tenant) (radio : Radio) : Pipeline σ × List (Sent σ) :=
  let (modem, changed) := p.modem.setRadio t radio
  ({ p with modem := modem }, if changed then p.send t [.radio radio] else [])

/-- When the next command can be executed, unless it is held or there is none. -/
def nextDue? (p : Pipeline σ) : Option Nat :=
  match p.jobs with
  | job :: _ => if p.holds job then none else some job.due
  | [] => none

end Pipeline

end DataPath.Modem
