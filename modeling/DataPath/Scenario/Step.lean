import DataPath.Json.Held
import DataPath.Json.Vocabulary

/-!
# Steps of a scenario

A scenario is a list of steps.  Each step acts on the arbiter or on the modem, or lets
time pass.

In JSON a step is a record whose field `step` names what is done and whose other fields
say to what.  Since that name may come last, the record is held before it is decoded.
A list may take the place of the record; it gives the name first and then the other
fields in order.
-/

namespace DataPath.Scenario

/-- One step of a scenario. -/
inductive Step where
  /-- Ask the arbiter to activate a class. -/
  | activate (tenant : Tenant) (dataClass : DataClass)
  /-- Ask the arbiter to deactivate a class. -/
  | deactivate (tenant : Tenant) (dataClass : DataClass)
  /-- Set the radio of a slot. -/
  | radio (tenant : Tenant) (state : Radio)
  /-- Make the next command to bring up a class on a slot fail. -/
  | failNextEnable (tenant : Tenant)
  /-- Let so many milliseconds pass. -/
  | wait (ms : Nat)
  /-- Note the state of the arbiter. -/
  | status
  deriving DecidableEq, Repr

namespace Step

/-- A step as a reader is told of it. -/
def describe : Step → String
  | .activate t c => "activate " ++ c.label ++ " on " ++ t.name
  | .deactivate t c => "deactivate " ++ c.label ++ " on " ++ t.name
  | .radio t state => "radio " ++ state.name ++ " on " ++ t.name
  | .failNextEnable t => "fail next enable on " ++ t.name
  | .wait ms => "wait " ++ toString ms ++ "ms"
  | .status => "status"

/-- The JSON form of a step. -/
def toJson : Step → Json
  | .activate t c =>
    .record [("step", .text "activate"), ("tenant", t.toJson), ("class", c.toJson)]
  | .deactivate t c =>
    .record [("step", .text "deactivate"), ("tenant", t.toJson), ("class", c.toJson)]
  | .radio t state =>
    .record [("step", .text "radio"), ("tenant", t.toJson), ("state", state.toJson)]
  | .failNextEnable t => .record [("step", .text "fail_next_enable"), ("tenant", t.toJson)]
  | .wait ms => .record [("step", .text "wait"), ("ms", .nat ms)]
  | .status => .record [("step", .text "status")]

/-- The radio state a held value stands for: a name may also be the only key of an
object that holds an empty object. -/
def radio? (v : Json) : Option Radio :=
  match v with
  | .object [(some name, .object [])] => Radio.ofLabel? name
  | _ => Radio.ofJson? v

/-- The fields of each kind of step, besides its name. -/
def fieldsOf? : String → Option (List String)
  | "activate" | "deactivate" => some ["tenant", "class"]
  | "radio" => some ["tenant", "state"]
  | "fail_next_enable" => some ["tenant"]
  | "wait" => some ["ms"]
  | "status" => some []
  | _ => none

/-- The step with this name and these fields. -/
def build? (name : String) (fields : List (Option Json)) : Option Step :=
  match name, fields with
  | "activate", [t, c] =>
    return .activate (← Json.required? Tenant.ofJson? t) (← Json.required? DataClass.ofJson? c)
  | "deactivate", [t, c] =>
    return .deactivate (← Json.required? Tenant.ofJson? t)
      (← Json.required? DataClass.ofJson? c)
  | "radio", [t, state] =>
    return .radio (← Json.required? Tenant.ofJson? t) (← Json.required? radio? state)
  | "fail_next_enable", [t] => return .failNextEnable (← Json.required? Tenant.ofJson? t)
  | "wait", [ms] => return .wait (← Json.required? Json.word? ms)
  | "status", [] => some .status
  | _, _ => none

/-- The name of a step and the record of its other fields. -/
def split? : Json → Option (String × Json)
  | .object fields => do
    let name ← (← Json.givenOnce? fields "step").bind Json.text?
    return (name, .object (fields.filter fun f => f.1 ≠ some "step"))
  | .list (name :: fields) => return (← Json.text? name, .list fields)
  | _ => none

/-- The step that a JSON value stands for, where the value stands inside so many
others. -/
def ofJson? (level : Nat) (v : Json) : Option Step := do
  if ¬v.isHeld level then none
  let (name, rest) ← split? v
  build? name (← Json.pick? (← fieldsOf? name) rest)

end Step

end DataPath.Scenario
