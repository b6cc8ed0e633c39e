/-!
# Dumped values

Diagnostics show a value by its shape: the name of its variant, followed by its
fields.  Fields without names stand in parentheses, named fields in braces, and an
optional value is `None` or `Some(…)`.
-/

namespace DataPath.Text

/-- A variant with unnamed fields: `Name(a, b)`. -/
def dumpTuple (name : String) (fields : List String) : String :=
  name ++ "(" ++ ", ".intercalate fields ++ ")"

/-- A variant with named fields: the name, then each field as `key: value`
between braces. -/
def dumpRecord (name : String) (fields : List (String × String)) : String :=
  name ++ " \x7b " ++ ", ".intercalate (fields.map fun f => f.1 ++ ": " ++ f.2) ++ " \x7d"

/-- An optional value: `None`, or `Some(…)` around the dumped value. -/
def dumpOption {α : Type} (dump : α → String) : Option α → String
  | none => "None"
  | some a => dumpTuple "Some" [dump a]

end DataPath.Text
