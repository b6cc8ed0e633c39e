import DataPath.Json.Decode
import DataPath.Snapshot

/-!
# JSON forms of the vocabulary

A tenant is the number of its slot, a class its label, and radio states and phases
are names.  A class is read as generously as anywhere else and printed by its label;
a set of classes is a list, printed in the order of the labels.
-/

namespace DataPath

open Json

/-- The JSON form of a tenant. -/
def Tenant.toJson (t : Tenant) : Json := .nat t.slot

/-- The tenant a JSON value stands for. -/
def Tenant.ofJson? (v : Json) : Option Tenant := (natUpTo? Tenant.maxSlot v).map Tenant.mk

/-- The JSON form of a class. -/
def DataClass.toJson (c : DataClass) : Json := .text c.label

/-- The class a JSON value stands for. -/
def DataClass.ofJson? (v : Json) : Option DataClass := (text? v).bind DataClass.parse?

/-- The JSON form of a set of classes. -/
def ClassSet.toJson (s : ClassSet) : Json := .list (s.toList.map DataClass.toJson)

/-- The set of classes a JSON value stands for. -/
def ClassSet.ofJson? (v : Json) : Option ClassSet :=
  (list? DataClass.ofJson? v).map ClassSet.ofList

/-- The JSON form of a radio state. -/
def Radio.toJson (r : Radio) : Json := .text r.label

/-- The radio state a JSON value stands for. -/
def Radio.ofJson? (v : Json) : Option Radio := (name? v).bind Radio.ofLabel?

/-- The JSON form of a phase. -/
def Phase.toJson (p : Phase) : Json := .text p.label

/-- The phase a JSON value stands for. -/
def Phase.ofJson? (v : Json) : Option Phase := (name? v).bind Phase.ofLabel?

/-- The JSON form of a snapshot. -/
def Snapshot.toJson (s : Snapshot) : Json :=
  .record [("tenant", s.tenant.toJson), ("state", s.phase.toJson), ("classes", s.classes.toJson),
    ("connected", s.connected.toJson), ("deferred", .nat s.deferred), ("radio", s.radio.toJson)]

/-- The snapshot a JSON value stands for; every field must be given. -/
def Snapshot.ofJson? (v : Json) : Option Snapshot := do
  match ← pick? ["tenant", "state", "classes", "connected", "deferred", "radio"] v with
  | [tenant, phase, classes, connected, deferred, radio] =>
    return {
      tenant := ← required? Tenant.ofJson? tenant
      phase := ← required? Phase.ofJson? phase
      classes := ← required? ClassSet.ofJson? classes
      connected := ← required? ClassSet.ofJson? connected
      deferred := ← required? word? deferred
      radio := ← required? Radio.ofJson? radio }
  | _ => none

end DataPath
