import DataPath.Json.Basic

/-!
# Printing JSON

Two layouts.  The *compact* one has no blanks.  The *indented* one puts every element
and every field on a line of its own, two spaces deeper than the bracket around it,
and a space after the colon of a field; an empty list or object stays on one line.

Strings are printed with the double quote, the backslash and the control characters
escaped, and everything else as it is.
-/

namespace DataPath.Json

/-- A character of a string as it is printed. -/
def escaped (c : Char) : String :=
  if c = '"' then "\\\""
  else if c = '\\' then "\\\\"
  else if c = '\n' then "\\n"
  else if c = '\r' then "\\r"
  else if c = '\t' then "\\t"
  else if c.toNat = 8 then "\\b"
  else if c.toNat = 12 then "\\f"
  else if c.toNat < 0x20 then
    "\\u00" ++ (if c.toNat < 16 then "0" else "1") ++
      String.singleton (Nat.digitChar (c.toNat % 16))
  else String.singleton c

/-- A string between its quotes. -/
def printText (s : String) : String := "\"" ++ String.join (s.toList.map escaped) ++ "\""

/-- A string or a key; what is no text has nothing to print. -/
def printString (s : Option String) : String := printText (s.getD "")

/-- A number. -/
def printNumber : Number → String
  | .integer n => toString n
  | .decimal negative significand exponent =>
    (if negative then "-" else "") ++ toString significand ++ "e" ++ toString exponent

mutual

/-- The compact layout. -/
def compact : Json → String
  | .null => "null"
  | .bool true => "true"
  | .bool false => "false"
  | .number n => printNumber n
  | .string s => printString s
  | .list elements => "[" ++ ",".intercalate (compactList elements) ++ "]"
  | .object fields => "\x7b" ++ ",".intercalate (compactFields fields) ++ "\x7d"

/-- The elements of a list, each in the compact layout. -/
def compactList : List Json → List String
  | [] => []
  | v :: vs => compact v :: compactList vs

/-- The fields of an object, each in the compact layout. -/
def compactFields : List (Option String × Json) → List String
  | [] => []
  | (key, v) :: fs => (printString key ++ ":" ++ compact v) :: compactFields fs

end

/-- The start of a line that is indented by so many steps. -/
def newLine (indent : Nat) : String := "\n" ++ String.ofList (List.replicate (2 * indent) ' ')

/-- Items on lines of their own between brackets. -/
def block (opening closing : String) (indent : Nat) (items : List String) : String :=
  if items.isEmpty then opening ++ closing
  else
    opening ++ newLine (indent + 1) ++ ("," ++ newLine (indent + 1)).intercalate items ++
      newLine indent ++ closing

mutual

/-- The indented layout of a value that stands so many steps deep. -/
def indentedAt (indent : Nat) : Json → String
  | .list elements => block "[" "]" indent (indentedList (indent + 1) elements)
  | .object fields => block "\x7b" "\x7d" indent (indentedFields (indent + 1) fields)
  | .null => "null"
  | .bool true => "true"
  | .bool false => "false"
  | .number n => printNumber n
  | .string s => printString s

/-- The elements of a list, each in the indented layout. -/
def indentedList (indent : Nat) : List Json → List String
  | [] => []
  | v :: vs => indentedAt indent v :: indentedList indent vs

/-- The fields of an object, each in the indented layout. -/
def indentedFields (indent : Nat) : List (Option String × Json) → List String
  | [] => []
  | (key, v) :: fs => (printString key ++ ": " ++ indentedAt indent v) :: indentedFields indent fs

end

/-- The indented layout. -/
def indented (v : Json) : String := indentedAt 0 v

end DataPath.Json
