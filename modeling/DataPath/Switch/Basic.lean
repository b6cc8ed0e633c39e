import DataPath.Command
import DataPath.Event
import DataPath.Notice
import DataPath.Request

/-!
# The switch of a tenant

A `Switch` is one tenant's view of the shared data path.  It takes requests and
signals of the modem, and leaves behind *effects*: commands to submit, notices and
events to publish, replies to give, and questions for the arbiter.  Effects collect
in an outbox until somebody carries them out.

```text
           connect               class connected
  idle ─────────────► acquiring ─────────────────► active
   ▲                      │  last disconnect,         │
   │                      │  clean up, radio off      │
   │  idle confirmed      ▼                           │
   └────────────────── releasing ◄────────────────────┘
```

While the switch is releasing, connects are parked in the order in which they came.
When the modem confirms idle they are tried again.

An *arbitrated* switch does not leave idle on its own account: it asks the arbiter,
who answers with a request that carries a grant.

The parameter `ρ` is the type of the handles by which callers are answered.  A switch
only passes them on; a request without a handle is not answered.
-/

namespace DataPath

/-- What a switch wants done. -/
inductive Switch.Effect (ρ : Type) where
  /-- Submit a command to the modem, under this token. -/
  | submit (token : Nat) (command : Command)
  /-- Deliver a notice to the subscribers. -/
  | notice (notice : Notice)
  /-- Publish an event. -/
  | event (event : Event)
  /-- Answer the caller behind the handle. -/
  | reply (handle : ρ) (reply : Reply)
  /-- Ask the arbiter for the data path, on behalf of the connect with this number. -/
  | askOwnership (id : Nat) (dataClass : DataClass) (handle : Option ρ)
  deriving DecidableEq, Repr

/-- A connect that waits for the end of a release. -/
structure Switch.Parked (ρ : Type) where
  id : Nat
  dataClass : DataClass
  handle : Option ρ
  deriving DecidableEq, Repr

/-- One tenant's view of the shared data path. -/
structure Switch (ρ : Type) where
  tenant : Tenant
  /-- Whether leaving idle needs a grant. -/
  arbitrated : Bool
  phase : Phase := .idle
  /-- The requested classes. -/
  classes : ClassSet := ∅
  /-- The requested classes that the modem reports connected. -/
  connected : ClassSet := ∅
  /-- The commands that have not ended, by token. -/
  inflight : List (Nat × Command) := []
  /-- The command whose end ends the present release. -/
  releaseToken : Option Nat := none
  /-- The connects that wait for the end of the release, oldest first. -/
  parked : List (Switch.Parked ρ) := []
  /-- The radio state last reported. -/
  radio : Radio := .on
  /-- The token of the next command. -/
  nextToken : Nat := 1
  /-- The effects not yet carried out, oldest first. -/
  outbox : List (Switch.Effect ρ) := []
  deriving DecidableEq, Repr

namespace Switch

variable {ρ : Type}

/-- Whether an effect answers a caller or asks the arbiter to. -/
def Effect.isAnswer : Effect ρ → Bool
  | .reply .. | .askOwnership .. => true
  | _ => false

/-- The observable state. -/
def snapshot (s : Switch ρ) : Snapshot where
  tenant := s.tenant
  phase := s.phase
  classes := s.classes
  connected := s.connected
  deferred := s.parked.length
  radio := s.radio

/-- The switch with one more effect to be carried out. -/
def emit (s : Switch ρ) (e : Effect ρ) : Switch ρ := { s with outbox := s.outbox ++ [e] }

/-- The effects to carry out now, and the switch without them.  Whoever is answered
must already have been able to hear of the change, so answers come last. -/
def drain (s : Switch ρ) : List (Effect ρ) × Switch ρ :=
  (s.outbox.filter (fun e => !e.isAnswer) ++ s.outbox.filter Effect.isAnswer,
    { s with outbox := [] })

/-- The classes that are requested and not connected. -/
def waiting (s : Switch ρ) : ClassSet := s.classes.diff s.connected

/-- Whether some command to bring up the class has not ended. -/
def isEnabling (s : Switch ρ) (c : DataClass) : Bool :=
  s.inflight.any fun entry => entry.2 = .enable c

/-- Submit a command under a new token. -/
def submit (s : Switch ρ) (command : Command) : Switch ρ :=
  { s with
    inflight := s.inflight ++ [(s.nextToken, command)]
    nextToken := s.nextToken + 1 }.emit (.submit s.nextToken command)

/-- Enter a phase; staying in the same phase is no event. -/
def enter (s : Switch ρ) (phase : Phase) : Switch ρ :=
  if s.phase = phase then s
  else { s with phase := phase }.emit (.event (.phaseChanged s.tenant s.phase phase))

/-- Answer the request with this number, if somebody waits for it. -/
def answer (s : Switch ρ) (handle : Option ρ) (id : Nat) (body : ReplyBody) : Switch ρ :=
  match handle with
  | some h => s.emit (.reply h ⟨id, body⟩)
  | none => s

/-- Tell the subscribers if the observable state is no longer what it was. -/
def publishChange (s : Switch ρ) (before : Snapshot) : Switch ρ :=
  if s.snapshot = before then s else s.emit (.notice (.updated s.snapshot))

/-- Start to let go of everything: the end of this force-idle ends the release. -/
def beginRelease (s : Switch ρ) : Switch ρ :=
  { s.submit .forceIdle with releaseToken := some s.nextToken }.enter .releasing

end Switch

end DataPath
