import DataPath.Fault
import DataPath.Modem.Config

/-!
# The virtual modem

The modem has slots, and one data path for all of them: while a slot has classes
connected, a class cannot come up on another.  An attempt to do that is refused and
counted as a *violation*, so that a modem with no violations certifies whoever drives
it.

Failures can be injected: the next so many commands to bring up, or to take down, a
class on a slot fail.
-/

namespace DataPath

/-- One slot of the modem. -/
structure Modem.Slot where
  radio : Radio
  /-- The classes the slot can carry. -/
  supported : ClassSet
  /-- The classes that carry data. -/
  connected : ClassSet := ∅
  /-- How many more commands to bring up a class will fail. -/
  failEnables : Nat := 0
  /-- How many more commands to take down a class will fail. -/
  failDisables : Nat := 0
  deriving DecidableEq, Repr

/-- What the modem tells about itself. -/
structure Modem.Stats where
  /-- The slot that carries data. -/
  holder : Option Tenant
  /-- The classes connected on it. -/
  activeClasses : ClassSet
  /-- How many classes were refused because another slot carried data. -/
  violations : Nat
  /-- How many commands were executed. -/
  commands : Nat
  deriving DecidableEq, Repr

/-- Slots that share one data path. -/
structure Modem where
  slots : List Modem.Slot
  /-- How many classes were refused because another slot carried data. -/
  violations : Nat := 0
  /-- How many commands were executed. -/
  commands : Nat := 0
  deriving DecidableEq, Repr

namespace Modem

/-- The modem as a configuration describes it. -/
def ofConfig (config : ModemConfig) : Modem where
  slots := config.slots.map fun slot => { radio := slot.radio, supported := slot.carries }

/-- The slot of a tenant. -/
def slot? (m : Modem) (t : Tenant) : Option Slot := m.slots[t.slot]?

/-- The radio state of a slot. -/
def radio? (m : Modem) (t : Tenant) : Option Radio := (m.slot? t).map Slot.radio

/-- The classes connected on a slot. -/
def connected? (m : Modem) (t : Tenant) : Option ClassSet := (m.slot? t).map Slot.connected

/-- The first slot that carries data. -/
def holder? (m : Modem) : Option Tenant :=
  (m.slots.findIdx? fun slot => !slot.connected.isEmpty).map Tenant.mk

/-- Whether a slot can carry a class at all. -/
def supports (m : Modem) (t : Tenant) (c : DataClass) : Bool :=
  (m.slot? t).any fun slot => c ∈ slot.supported

/-- What the modem tells about itself. -/
def stats (m : Modem) : Stats where
  holder := m.holder?
  activeClasses := (m.holder?.bind m.connected?).getD ∅
  violations := m.violations
  commands := m.commands

/-- Change the slot of a tenant. -/
def amend (m : Modem) (t : Tenant) (f : Slot → Slot) : Modem :=
  { m with slots := m.slots.modify t.slot f }

/-- One more command was executed. -/
def count (m : Modem) : Modem := { m with commands := m.commands + 1 }

/-- The fault of a command for a slot that does not exist. -/
def noSuchSlot (t : Tenant) : ModemFault := .commandFailed ("no such slot " ++ t.name)

/-- The fault of a command to bring up a class that was made to fail. -/
def injectedEnable (c : DataClass) : ModemFault :=
  .commandFailed ("injected enable failure for " ++ c.label)

/-- The fault of a command to take down a class that was made to fail. -/
def injectedDisable (c : DataClass) : ModemFault :=
  .commandFailed ("injected disable failure for " ++ c.label)

/-- Bring up a class.  What the slot cannot do at all is refused first, then an injected
failure is used up, and last the data path must not be held by another slot. -/
def enable (m : Modem) (t : Tenant) (c : DataClass) : Modem × Option ModemFault :=
  let m := m.count
  match m.slot? t with
  | none => (m, some (noSuchSlot t))
  | some slot =>
    if slot.radio.isOff then (m, some (.radioOff t))
    else if c ∉ slot.supported then (m, some (.unsupported t c))
    else if slot.failEnables ≠ 0 then
      (m.amend t fun slot => { slot with failEnables := slot.failEnables - 1 },
        some (injectedEnable c))
    else match m.holder?.filter (· ≠ t) with
      | some holder => ({ m with violations := m.violations + 1 }, some (.busy holder))
      | none => (m.amend t fun slot => { slot with connected := slot.connected.insert c }, none)

/-- Take down a class. -/
def disable (m : Modem) (t : Tenant) (c : DataClass) : Modem × Option ModemFault :=
  let m := m.count
  match m.slot? t with
  | none => (m, some (noSuchSlot t))
  | some slot =>
    if slot.failDisables ≠ 0 then
      (m.amend t fun slot => { slot with failDisables := slot.failDisables - 1 },
        some (injectedDisable c))
    else (m.amend t fun slot => { slot with connected := slot.connected.erase c }, none)

/-- Take down everything on a slot. -/
def forceIdle (m : Modem) (t : Tenant) : Modem × Option ModemFault :=
  let m := m.count
  match m.slot? t with
  | none => (m, some (noSuchSlot t))
  | some _ => (m.amend t fun slot => { slot with connected := ∅ }, none)

/-- Set the radio of a slot, and tell whether that changed anything.  A slot whose radio
goes off carries nothing. -/
def setRadio (m : Modem) (t : Tenant) (radio : Radio) : Modem × Bool :=
  match m.slot? t with
  | none => (m, false)
  | some slot =>
    if slot.radio = radio then (m, false)
    else
      (m.amend t fun slot =>
        { slot with
          radio := radio
          connected := if radio.isOff then ∅ else slot.connected }, true)

/-- Make so many more commands to bring up a class fail. -/
def failNextEnable (m : Modem) (t : Tenant) (count : Nat) : Modem :=
  m.amend t fun slot => { slot with failEnables := slot.failEnables + count }

/-- Make so many more commands to take down a class fail. -/
def failNextDisable (m : Modem) (t : Tenant) (count : Nat) : Modem :=
  m.amend t fun slot => { slot with failDisables := slot.failDisables + count }

end Modem

/-- The JSON form of what the modem tells about itself. -/
def Modem.Stats.toJson (s : Modem.Stats) : Json :=
  .record [("holder", Json.orNull Tenant.toJson s.holder),
    ("active_classes", s.activeClasses.toJson), ("violations", .nat s.violations),
    ("commands", .nat s.commands)]

end DataPath
