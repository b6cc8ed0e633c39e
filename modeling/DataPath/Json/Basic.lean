/-!
# JSON values

Settings and reports are JSON texts.  A value here keeps what a decoder may depend
on: the fields of an object stay in the order in which they were written, repeated
ones included, and a number remembers whether it was written as an integer.

A string may be written correctly and still be no text, when it escapes one half of
a surrogate pair on its own.  Such a string is kept as `none`: it may stand where
nobody reads it.
-/

namespace DataPath

/-- A number, by the way it is written. -/
inductive Number where
  /-- Digits alone, after a minus sign if the number is negative; `-0` is not one. -/
  | integer (value : Int)
  /-- Any other number: plus or minus `significand · 10 ^ exponent`. -/
  | decimal (negative : Bool) (significand : Nat) (exponent : Int)
  deriving DecidableEq, Repr

/-- A JSON value. -/
inductive Json where
  | null
  | bool (value : Bool)
  | number (value : Number)
  | string (text : Option String)
  | list (elements : List Json)
  | object (fields : List (Option String × Json))
  deriving Repr

namespace Json

instance : Inhabited Json := ⟨.null⟩

/-- The string that holds a text. -/
def text (s : String) : Json := .string (some s)

/-- The number that is a natural number. -/
def nat (n : Nat) : Json := .number (.integer n)

/-- The object with these fields, in this order. -/
def record (fields : List (String × Json)) : Json :=
  .object (fields.map fun f => (some f.1, f.2))

/-- The value of an optional field: `null` when there is none. -/
def orNull {α : Type} (encode : α → Json) : Option α → Json
  | none => .null
  | some a => encode a

mutual

/-- How deeply lists and objects are nested. -/
def depth : Json → Nat
  | .list elements => depthList elements + 1
  | .object fields => depthFields fields + 1
  | _ => 0

/-- The greatest depth among the elements of a list. -/
def depthList : List Json → Nat
  | [] => 0
  | v :: vs => max (depth v) (depthList vs)

/-- The greatest depth among the fields of an object. -/
def depthFields : List (Option String × Json) → Nat
  | [] => 0
  | (_, v) :: fs => max (depth v) (depthFields fs)

end

end Json

end DataPath
