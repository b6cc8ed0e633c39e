import DataPath.Arbiter.Config
import DataPath.Modem.Config
import DataPath.Scenario.Step

/-!
# Settings

Everything that is needed to run a scenario: how the arbiter and the modem are set up,
the steps, how long to wait at the end, and how many events to keep.

Settings are usable when both setups are and the modem has a slot for every tenant.
-/

namespace DataPath

/-- Everything that is needed to run a scenario. -/
structure Settings where
  arbiter : ArbiterConfig := {}
  modem : ModemConfig := {}
  /-- The steps, in order. -/
  scenario : List Scenario.Step :=
    [.activate ⟨0⟩ .default, .wait 200, .activate ⟨1⟩ .default, .wait 300, .status,
      .deactivate ⟨1⟩ .default, .wait 300]
  /-- How many events the report keeps. -/
  eventLogLimit : Nat := 1000
  /-- How many milliseconds to wait after the last step. -/
  settle : Nat := 250
  deriving DecidableEq, Repr

/-- What makes settings unusable. -/
inductive Settings.Fault where
  /-- The setup of the arbiter is unusable. -/
  | arbiter (fault : ServiceFault)
  /-- The setup of the modem is unusable. -/
  | modem (fault : ModemConfig.Fault)
  /-- There are more tenants than slots. -/
  | tooFewSlots (tenants slots : Nat)
  deriving DecidableEq, Repr

/-- What happened, and then what caused it. -/
def Settings.Fault.chain : Settings.Fault → List String
  | .arbiter fault => ["Invalid arbitrator settings", fault.message]
  | .modem fault => ["Invalid modem settings", fault.message]
  | .tooFewSlots tenants slots =>
    ["tenant_count " ++ toString tenants ++ " exceeds the " ++ toString slots ++
      " configured modem slots"]

namespace Settings

instance : Inhabited Settings := ⟨{}⟩

/-- What makes settings unusable, if anything does. -/
def fault? (s : Settings) : Option Fault :=
  match s.arbiter.fault?, s.modem.fault? with
  | some fault, _ => some (.arbiter fault)
  | none, some fault => some (.modem fault)
  | none, none =>
    if s.modem.slots.length < s.arbiter.tenantCount then
      some (.tooFewSlots s.arbiter.tenantCount s.modem.slots.length)
    else none

/-- The JSON form of settings. -/
def toJson (s : Settings) : Json :=
  .record [("arbitrator", s.arbiter.toJson), ("modem", s.modem.toJson),
    ("scenario", .list (s.scenario.map Scenario.Step.toJson)),
    ("event_log_limit", .nat s.eventLogLimit), ("settle_ms", .nat s.settle)]

/-- How many values enclose a step in settings. -/
def stepLevel : Nat := 2

/-- The settings a JSON value stands for; a field that is left out has its default. -/
def ofJson? (v : Json) : Option Settings := do
  let d : Settings := {}
  match ← Json.pick? ["arbitrator", "modem", "scenario", "event_log_limit", "settle_ms"] v with
  | [arbiter, modem, scenario, limit, settle] =>
    return {
      arbiter := ← Json.orDefault? ArbiterConfig.ofJson? d.arbiter arbiter
      modem := ← Json.orDefault? ModemConfig.ofJson? d.modem modem
      scenario :=
        ← Json.orDefault? (Json.list? (Scenario.Step.ofJson? stepLevel)) d.scenario scenario
      eventLogLimit := ← Json.orDefault? Json.word? d.eventLogLimit limit
      settle := ← Json.orDefault? Json.word? d.settle settle }
  | _ => none

end Settings

end DataPath
