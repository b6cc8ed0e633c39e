import DataPath.Json.Vocabulary

/-!
# Configuration of the virtual modem

How long a command takes, and for each slot the radio state at the start and the
classes it can carry.  A slot that names no class can carry all of them.
-/

namespace DataPath

/-- Configuration of one slot of the modem. -/
structure SlotConfig where
  /-- The radio state at the start. -/
  radio : Radio := .on
  /-- The classes the slot can carry; no class at all means every class. -/
  supported : List DataClass := []
  deriving DecidableEq, Repr

namespace SlotConfig

instance : Inhabited SlotConfig := ⟨{}⟩

/-- The classes the slot can carry. -/
def carries (config : SlotConfig) : ClassSet :=
  ClassSet.ofList (if config.supported.isEmpty then DataClass.all else config.supported)

/-- The JSON form of the configuration of a slot. -/
def toJson (config : SlotConfig) : Json :=
  .record [("radio", config.radio.toJson),
    ("supported", .list (config.supported.map DataClass.toJson))]

/-- The configuration of a slot that a JSON value stands for; a field that is left out
has its default. -/
def ofJson? (v : Json) : Option SlotConfig := do
  match ← Json.pick? ["radio", "supported"] v with
  | [radio, supported] =>
    return {
      radio := ← Json.orDefault? Radio.ofJson? .on radio
      supported := ← Json.orDefault? (Json.list? DataClass.ofJson?) [] supported }
  | _ => none

end SlotConfig

/-- What is wrong with the configuration of a modem. -/
inductive ModemConfig.Fault where
  /-- There is no slot. -/
  | noSlots
  /-- There are more slots than tenants can name. -/
  | tooManySlots (count : Nat)
  deriving DecidableEq, Repr

/-- The message for a reader. -/
def ModemConfig.Fault.message : ModemConfig.Fault → String
  | .noSlots => "virtual modem needs at least one slot"
  | .tooManySlots count => toString count ++ " slots configured, at most 255 are addressable"

/-- The dumped form. -/
def ModemConfig.Fault.dump : ModemConfig.Fault → String
  | .noSlots => "NoSlots"
  | .tooManySlots count => Text.dumpTuple "TooManySlots" [toString count]

/-- Configuration of the virtual modem. -/
structure ModemConfig where
  /-- How many milliseconds a command takes. -/
  latency : Nat := 20
  slots : List SlotConfig := [{}, {}]
  deriving DecidableEq, Repr

namespace ModemConfig

instance : Inhabited ModemConfig := ⟨{}⟩

/-- A fast modem with so many ordinary slots. -/
def withSlots (count : Nat) : ModemConfig where
  latency := 1
  slots := List.replicate count {}

/-- The greatest number of slots that can be told apart. -/
def maxSlots : Nat := 255

/-- What makes a configuration unusable, if anything does. -/
def fault? (config : ModemConfig) : Option Fault :=
  if config.slots.isEmpty then some .noSlots
  else if maxSlots < config.slots.length then some (.tooManySlots config.slots.length)
  else none

/-- The JSON form of a configuration. -/
def toJson (config : ModemConfig) : Json :=
  .record [("latency_ms", .nat config.latency),
    ("slots", .list (config.slots.map SlotConfig.toJson))]

/-- The configuration a JSON value stands for; a field that is left out has its
default. -/
def ofJson? (v : Json) : Option ModemConfig := do
  let d : ModemConfig := {}
  match ← Json.pick? ["latency_ms", "slots"] v with
  | [latency, slots] =>
    return {
      latency := ← Json.orDefault? Json.word? d.latency latency
      slots := ← Json.orDefault? (Json.list? SlotConfig.ofJson?) d.slots slots }
  | _ => none

end ModemConfig

end DataPath
