import DataPath.Json.Basic

/-!
# Decoding JSON

A decoder takes a value and gives what it stands for, or nothing.

A *record* may be written as an object, whose fields come in any order, or as a list
of its fields in their declared order.  In an object unknown fields are skipped and a
repeated known field is an error; in a list the last fields may be left out and there
must not be too many.  `Json.pick` brings both forms to one: the values of the
declared fields, where they are given.
-/

namespace DataPath.Json

/-- A boolean. -/
def bool? : Json → Option Bool
  | .bool b => some b
  | _ => none

/-- A text. -/
def text? : Json → Option String
  | .string s => s
  | _ => none

/-- A natural number that does not exceed a bound. -/
def natUpTo? (bound : Nat) : Json → Option Nat
  | .number (.integer (.ofNat n)) => if n ≤ bound then some n else none
  | _ => none

/-- A list, each of its elements decoded. -/
def list? {α : Type} (decode : Json → Option α) : Json → Option (List α)
  | .list vs => vs.mapM decode
  | _ => none

/-- `null`, or a value to decode. -/
def nullable? {α : Type} (decode : Json → Option α) : Json → Option (Option α)
  | .null => some none
  | v => (decode v).map some

/-- The greatest number of one byte. -/
def maxByte : Nat := 0xFF

/-- The greatest number of eight bytes. -/
def maxWord : Nat := 0xFFFFFFFFFFFFFFFF

/-- A number of one byte. -/
def byte? : Json → Option Nat := natUpTo? maxByte

/-- A number of eight bytes. -/
def word? : Json → Option Nat := natUpTo? maxWord

/-- The values given to a field of an object. -/
def given (fields : List (Option String × Json)) (name : String) : List Json :=
  (fields.filter fun f => f.1 = some name).map Prod.snd

/-- The value given to a field of an object: at most one. -/
def givenOnce? (fields : List (Option String × Json)) (name : String) : Option (Option Json) :=
  match given fields name with
  | [] => some none
  | [v] => some (some v)
  | _ => none

/-- The values given to the declared fields of a record, from either of its forms. -/
def pick? (names : List String) : Json → Option (List (Option Json))
  | .object fields =>
    if fields.all fun f => f.1.isSome then names.mapM (givenOnce? fields) else none
  | .list vs =>
    if vs.length ≤ names.length then
      some (vs.map some ++ List.replicate (names.length - vs.length) none)
    else none
  | _ => none

/-- A field that may be left out, in which case it has a default. -/
def orDefault? {α : Type} (decode : Json → Option α) (default : α) : Option Json → Option α
  | none => some default
  | some v => decode v

/-- A field that must be given. -/
def required? {α : Type} (decode : Json → Option α) : Option Json → Option α
  | none => none
  | some v => decode v

/-- One of several names: the name itself, or an object whose only field has that
name and holds `null`. -/
def name? : Json → Option String
  | .string s => s
  | .object [(some s, .null)] => some s
  | _ => none

end DataPath.Json
