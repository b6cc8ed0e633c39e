import DataPath.Answer
import DataPath.Arbiter.Desk

/-!
# Who is who in the service

The service is made of the arbiter, a switch for every slot, and the modem.  Calls come
from outside, where each has a number, but parts of the service also call each other: a
switch passes a connect on to the arbiter, and the arbiter passes requests on to
switches.  So whoever waits for an answer may himself be somebody's intermediary, and
an answer goes back the way the call came.

Between a switch and the arbiter go *couriers*.  One of them belongs to each request
that was passed on; it sees to it that the answer is brought back.
-/

namespace DataPath.Service

mutual

/-- Who waits for the answer of a switch. -/
inductive Caller where
  | nobody
  /-- A call from outside; it knows the number of its request. -/
  | call (number id : Nat) (expect : Expect)
  /-- A call from outside that wants notices of the switch of a tenant. -/
  | subscription (number : Nat) (tenant : Tenant)
  /-- The request with this number was passed on by the arbiter to the switch of a
  tenant, for a client. -/
  | relay (tenant : Tenant) (id : Nat) (tracked : Option Arbiter.Tracked) (client : Client)

/-- Who waits for the answer of the arbiter. -/
inductive Client where
  | nobody
  /-- A call from outside. -/
  | call (number : Nat)
  /-- The connect with this number was passed on by the switch of a tenant, for a
  caller. -/
  | ask (tenant : Tenant) (id : Nat) (caller : Caller)

end

/-- Who receives the notices of a switch. -/
inductive Sink where
  | arbiter
  /-- Somebody outside. -/
  | observer (number : Nat)
  deriving DecidableEq, Repr

/-- What goes between a switch and the arbiter.  The number of the request belongs to
the channel of the switch, so that no two couriers are the same. -/
inductive Courier where
  /-- A connect goes from the switch to the arbiter. -/
  | ask (tenant : Tenant) (id : Nat)
  /-- A request goes from the arbiter to the switch. -/
  | relay (tenant : Tenant) (id : Nat)
  deriving DecidableEq, Repr

/-- What a courier has to do next. -/
inductive Errand where
  /-- Bring a connect to the arbiter. -/
  | ask (tenant : Tenant) (id : Nat) (dataClass : DataClass) (caller : Caller)
  /-- Bring the outcome back from the arbiter. -/
  | answer (tenant : Tenant) (id : Nat) (caller : Caller) (outcome : Outcome)
  /-- Bring the outcome back from the switch. -/
  | settle (tenant : Tenant) (id : Nat) (tracked : Option Arbiter.Tracked) (client : Client)
      (outcome : Outcome)

/-- The courier of an errand. -/
def Errand.courier : Errand → Courier
  | .ask t id .. | .answer t id .. => .ask t id
  | .settle t id .. => .relay t id

/-- What the modem is told from outside, past the switches. -/
inductive Control where
  /-- Set the radio of a slot. -/
  | radio (tenant : Tenant) (state : Radio)
  /-- Make the next command to bring up a class on a slot fail. -/
  | failNextEnable (tenant : Tenant)
  /-- Make the next command to take down a class on a slot fail. -/
  | failNextDisable (tenant : Tenant)
  /-- Hold force-idle commands, or let them go. -/
  | hold (value : Bool)
  /-- The modem is to stop. -/
  | shutdown
  deriving DecidableEq, Repr

/-- Who acts in the service. -/
inductive Party where
  | modem
  | station (tenant : Tenant)
  | arbiter
  | courier (courier : Courier)
  deriving DecidableEq, Repr

end DataPath.Service
