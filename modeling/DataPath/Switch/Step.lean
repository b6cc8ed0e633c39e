import DataPath.Switch.Basic

/-!
# What a switch does

`Switch.handle` takes a request and `Switch.hear` a signal of the modem.  After
either, subscribers are told if the observable state changed.  The rules for single
requests and signals come first.
-/

namespace DataPath.Switch

variable {ρ : Type}

/-- Track a class and ask the modem to bring it up. -/
def track (s : Switch ρ) (c : DataClass) : Switch ρ :=
  { s with classes := s.classes.insert c }.submit (.enable c)

/-- Forget a class. -/
def untrack (s : Switch ρ) (c : DataClass) : Switch ρ :=
  { s with classes := s.classes.erase c, connected := s.connected.erase c }

/-- After a class was forgotten: let go when none is left, and fall back to acquiring
when none that is left is connected. -/
def settle (s : Switch ρ) : Switch ρ :=
  if s.classes.isEmpty then s.beginRelease
  else if s.connected.isEmpty then s.enter .acquiring
  else s

/-- Bring up a class.  A radio that is off refuses; a release parks the request; an
arbitrated switch that is idle needs a grant, and asks for one. -/
def connect (s : Switch ρ) (id : Nat) (c : DataClass) (handle : Option ρ)
    (grant : Option Grant) : Switch ρ :=
  if s.radio.isOff then s.answer handle id (.outcome (.failed (.radioOff s.tenant)))
  else match s.phase with
    | .releasing => { s with parked := s.parked ++ [⟨id, c, handle⟩] }
    | .idle =>
      if s.arbitrated ∧ grant.isNone then s.emit (.askOwnership id c handle)
      else ((s.track c).enter .acquiring).answer handle id (.outcome .started)
    | .acquiring | .active =>
      if c ∈ s.connected then s.answer handle id (.outcome .alreadyActive)
      else if c ∈ s.classes then s.answer handle id (.outcome .started)
      else (s.track c).answer handle id (.outcome .started)

/-- Let go of a class; the last one to go starts a release. -/
def disconnect (s : Switch ρ) (c : DataClass) : Switch ρ × Outcome :=
  if s.phase.isLive ∧ c ∈ s.classes then
    (((s.untrack c).submit (.disable c)).settle, .started)
  else (s, .alreadyInactive)

/-- Ask the modem again for a class, unless it is being brought up. -/
def retry (s : Switch ρ) (c : DataClass) : Switch ρ :=
  if s.isEnabling c then s else s.submit (.enable c)

/-- Ask the modem again for every class that is not connected. -/
def retryConnect (s : Switch ρ) : Switch ρ × Outcome :=
  if ¬s.phase.isLive then (s, .alreadyInactive)
  else if s.waiting.isEmpty then (s, .alreadyActive)
  else (s.waiting.toList.foldl retry s, .started)

/-- Let go of everything.  An idle switch tells the modem all the same. -/
def cleanupAll (s : Switch ρ) : Switch ρ × Outcome :=
  match s.phase with
  | .idle => (s.submit .forceIdle, .alreadyInactive)
  | .acquiring | .active => (s.beginRelease, .started)
  | .releasing => (s, .alreadyInactive)

/-- Try a parked connect again.  The grant it may have come with is no longer good. -/
def replay (s : Switch ρ) (p : Parked ρ) : Switch ρ :=
  (s.emit (.event (.deferredReplayed s.tenant p.dataClass))).connect p.id p.dataClass p.handle none

/-- The modem has confirmed idle: forget everything and try what was parked. -/
def completeRelease (s : Switch ρ) : Switch ρ :=
  let idle :=
    { s with releaseToken := none, classes := ∅, connected := ∅, parked := [] }.enter .idle
  let told := idle.emit (.notice (.enteredIdle s.tenant (s.parked.map Parked.dataClass)))
  s.parked.foldl replay told

/-- A command has ended. -/
def finish (s : Switch ρ) (token : Nat) (command : Command) (fault : Option ModemFault) :
    Switch ρ :=
  match command, fault with
  | .enable _, none | .disable _, none => s
  | .enable c, some f =>
    let failed := (s.untrack c).emit (.event (.requestFailed s.tenant (some c) (.transport f)))
    if c ∈ s.classes ∧ s.phase.isLive then failed.settle else failed
  | .disable c, some f => s.emit (.event (.requestFailed s.tenant (some c) (.transport f)))
  | .forceIdle, _ =>
    if s.phase = .releasing ∧ s.releaseToken = some token then s.completeRelease else s

/-- A class carries data.  It counts only while the switch still wants it. -/
def classConnected (s : Switch ρ) (c : DataClass) : Switch ρ :=
  if s.phase.isLive ∧ c ∈ s.classes then
    if c ∈ s.connected then s.enter .active
    else
      ({ s with connected := s.connected.insert c }.emit
        (.event (.classConnected s.tenant c))).enter .active
  else s

/-- The radio is in this state.  With a radio that goes off the data path is gone. -/
def radioReported (s : Switch ρ) (radio : Radio) : Switch ρ :=
  if radio = s.radio then s
  else
    let told :=
      ({ s with radio := radio }.emit (.notice (.radioChanged s.tenant s.radio radio))).emit
        (.event (.radioChanged s.tenant s.radio radio))
    if radio.isOff ∧ s.phase.isLive then told.beginRelease else told

/-- The rule for each request. -/
def serve (s : Switch ρ) (id : Nat) (request : Request) (handle : Option ρ) : Switch ρ :=
  match request with
  | .connect c => s.connect id c handle none
  | .acquire c grant => s.connect id c handle (some grant)
  | .disconnect c => let (s, outcome) := s.disconnect c; s.answer handle id (.outcome outcome)
  | .retryConnect => let (s, outcome) := s.retryConnect; s.answer handle id (.outcome outcome)
  | .cleanupAll => let (s, outcome) := s.cleanupAll; s.answer handle id (.outcome outcome)
  | .isIdle => s.answer handle id (.flag (s.phase = .idle))
  | .isIdleOrReleasing => s.answer handle id (.flag (s.phase = .idle ∨ s.phase = .releasing))
  | .snapshot => s.answer handle id (.snapshot s.snapshot)

/-- Take one request. -/
def handle (s : Switch ρ) (id : Nat) (request : Request) (handle : Option ρ) : Switch ρ :=
  (s.serve id request handle).publishChange s.snapshot

/-- Take one signal of the modem.  The end of a command that is not in flight is
nobody's business. -/
def hear (s : Switch ρ) (signal : Signal) : Switch ρ :=
  match signal with
  | .completed token fault =>
    match s.inflight.lookup token with
    | none => s
    | some command =>
      let ended := { s with inflight := s.inflight.filter fun entry => entry.1 ≠ token }
      (ended.finish token command fault).publishChange s.snapshot
  | .classConnected c => (s.classConnected c).publishChange s.snapshot
  | .radio state => (s.radioReported state).publishChange s.snapshot

end DataPath.Switch
