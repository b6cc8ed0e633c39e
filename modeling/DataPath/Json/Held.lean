import DataPath.Json.Basic

/-!
# Values that can be held

Sometimes a value has to be read before it is known what it is for: the name that
tells the variants of a record apart may come after its fields.  Then everything in
the record must be something that can be held meanwhile, whether or not it is used in
the end.  Strings must be texts, numbers must lie in the range of double precision,
and the nesting must not be too deep.
-/

namespace DataPath

/-- The least number that double precision rounds to infinity: halfway between the
greatest double and the next power of two. -/
def Number.limit : Nat := Nat.pow 2 1024 - Nat.pow 2 970

/-- Whether a number lies in the range of double precision once it is rounded. -/
def Number.isFinite : Number → Bool
  | .integer value => value.natAbs < limit
  | .decimal _ significand exponent =>
    let digits : Int := (Nat.toDigits 10 significand).length
    if significand = 0 ∨ digits + exponent ≤ 308 then true
    else if 310 < digits + exponent then false
    else if 0 ≤ exponent then significand * Nat.pow 10 exponent.toNat < limit
    else significand < limit * Nat.pow 10 (-exponent).toNat

namespace Json

mutual

/-- Whether every string in the value is a text and every number in range. -/
def isPlain : Json → Bool
  | .null | .bool _ => true
  | .number n => n.isFinite
  | .string s => s.isSome
  | .list elements => isPlainList elements
  | .object fields => isPlainFields fields

/-- The same for the elements of a list. -/
def isPlainList : List Json → Bool
  | [] => true
  | v :: vs => isPlain v && isPlainList vs

/-- The same for the keys and values of an object. -/
def isPlainFields : List (Option String × Json) → Bool
  | [] => true
  | (key, v) :: fs => key.isSome && isPlain v && isPlainFields fs

end

/-- How deeply values may be nested, counted from the outermost one. -/
def maxDepth : Nat := 127

/-- Whether a value that stands inside so many others can be held. -/
def isHeld (level : Nat) (v : Json) : Bool := v.isPlain && level + v.depth ≤ maxDepth

end Json

end DataPath
