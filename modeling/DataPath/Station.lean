import DataPath.Channel
import DataPath.Switch.CarryOut

/-!
# The station of a tenant

A `Station` is a switch with its subscribers.  It takes messages out of the mailbox of
its tenant and signals of the modem, one at a time, and carries out at once what the
switch wants done.  What that amounts to outside the station is a list of actions.

Subscriptions are numbered from one.  Who subscribes to all notices begins with the
present state.  A subscriber who has gone away is forgotten when a notice for him comes
up.
-/

namespace DataPath

/-- Somebody who wants notices of a switch. -/
structure Station.Subscriber (σ : Type) where
  id : Nat
  filter : NoticeFilter
  sink : σ
  deriving DecidableEq, Repr

/-- What a station does to what is around it. -/
inductive Station.Action (ρ σ : Type) where
  /-- Submit a command to the modem, which accepts it. -/
  | submit (token : Nat) (command : Command)
  /-- Send a notice to a subscriber. -/
  | deliver (sink : σ) (notice : Notice)
  /-- Publish an event. -/
  | publish (event : Event)
  /-- Answer a caller. -/
  | reply (handle : ρ) (reply : Reply)
  /-- Ask the arbiter for the data path, on behalf of the connect with this number. -/
  | askOwnership (id : Nat) (dataClass : DataClass) (handle : Option ρ)
  /-- Tell a subscriber the number of his subscription. -/
  | subscribed (handle : ρ) (id : Nat)
  /-- Tell whether the subscription was known. -/
  | unsubscribed (handle : ρ) (known : Bool)
  deriving DecidableEq, Repr

/-- A switch with its subscribers. -/
structure Station (ρ σ : Type) where
  switch : Switch ρ
  /-- The subscribers, in the order of their numbers. -/
  subscribers : List (Station.Subscriber σ) := []
  /-- The number of the next subscription. -/
  nextSubscription : Nat := 1
  deriving Repr

/-- What a station finds around it: which commands the modem accepts, by their tokens,
and which subscribers are still there. -/
structure Station.Surroundings (σ : Type) where
  accepts : Nat → Bool
  listens : σ → Bool

namespace Station

variable {ρ σ : Type}

/-- The station of a tenant, at the start. -/
def start (tenant : Tenant) (arbitrated : Bool) : Station ρ σ :=
  { switch := { tenant := tenant, arbitrated := arbitrated } }

/-- Send a notice to the subscribers who take it. -/
def notify (world : Surroundings σ) (st : Station ρ σ) (notice : Notice) :
    Station ρ σ × List (Action ρ σ) :=
  let takers := st.subscribers.filter fun sub => notice.passes sub.filter && world.listens sub.sink
  let rest := st.subscribers.filter fun sub => !notice.passes sub.filter || world.listens sub.sink
  ({ st with subscribers := rest }, takers.map fun sub => .deliver sub.sink notice)

/-- What an effect of the switch amounts to. -/
def perform (world : Surroundings σ) (st : Station ρ σ) :
    Switch.Effect ρ → Station ρ σ × List (Action ρ σ)
  | .submit token command => (st, if world.accepts token then [.submit token command] else [])
  | .notice notice => st.notify world notice
  | .event event => (st, [.publish event])
  | .reply handle reply => (st, [.reply handle reply])
  | .askOwnership id c handle => (st, [.askOwnership id c handle])

/-- What a list of effects amounts to, in order. -/
def performAll (world : Surroundings σ) (st : Station ρ σ) :
    List (Switch.Effect ρ) → Station ρ σ × List (Action ρ σ)
  | [] => (st, [])
  | effect :: rest =>
    let (st, now) := st.perform world effect
    let (st, later) := st.performAll world rest
    (st, now ++ later)

/-- Carry out what the switch wants done. -/
def settle (world : Surroundings σ) (st : Station ρ σ) : Station ρ σ × List (Action ρ σ) :=
  let (switch, effects) := st.switch.carryOut world.accepts
  { st with switch := switch }.performAll world effects

/-- Take a new subscriber. -/
def subscribe (world : Surroundings σ) (st : Station ρ σ) (filter : NoticeFilter) (sink : σ)
    (handle : ρ) : Station ρ σ × List (Action ρ σ) :=
  let greeting : List (Action ρ σ) :=
    if filter = .all ∧ world.listens sink then [.deliver sink (.updated st.switch.snapshot)]
    else []
  ({ st with
      subscribers := st.subscribers ++ [⟨st.nextSubscription, filter, sink⟩]
      nextSubscription := st.nextSubscription + 1 },
    greeting ++ [.subscribed handle st.nextSubscription])

/-- Take one message out of the mailbox.  The message to stop is not for the station to
take. -/
def receive (world : Surroundings σ) (st : Station ρ σ) :
    Message ρ σ → Station ρ σ × List (Action ρ σ)
  | .request id request handle =>
    { st with switch := st.switch.handle id request handle }.settle world
  | .subscribe filter sink handle => st.subscribe world filter sink handle
  | .unsubscribe id handle =>
    ({ st with subscribers := st.subscribers.filter fun sub => sub.id ≠ id },
      [.unsubscribed handle (st.subscribers.any fun sub => sub.id = id)])
  | .shutdown => (st, [])

/-- Take one signal of the modem. -/
def hear (world : Surroundings σ) (st : Station ρ σ) (signal : Signal) :
    Station ρ σ × List (Action ρ σ) :=
  { st with switch := st.switch.hear signal }.settle world

/-- The handles of callers that a station keeps waiting. -/
def waiting (st : Station ρ σ) : List ρ := st.switch.parked.filterMap Switch.Parked.handle

end Station

/-- The handle in a message, if it carries one. -/
def Message.handle? {ρ σ : Type} : Message ρ σ → Option ρ
  | .request _ _ handle => handle
  | .subscribe _ _ handle | .unsubscribe _ handle => some handle
  | .shutdown => none

end DataPath
