import DataPath.Text.Printable

/-!
# Quoted text

A text inside a message stands between double quotes.  Inside the quotes the
double quote and the backslash are escaped by a backslash, the four common control
characters have escapes of one letter, and any other character that could not be
seen on its own is written by its code point in lower-case hexadecimal digits
between braces.  The single quote is not escaped.
-/

namespace DataPath.Text

/-- The code point of a character in hexadecimal digits between braces. -/
def braced (c : Char) : String :=
  "\\u\x7b" ++ String.ofList (Nat.toDigits 16 c.toNat) ++ "\x7d"

/-- One character as it stands inside quotes. -/
def quotedChar (c : Char) : String :=
  if c = '"' then "\\\""
  else if c = '\\' then "\\\\"
  else if c = '\n' then "\\n"
  else if c = '\r' then "\\r"
  else if c = '\t' then "\\t"
  else if c.toNat = 0 then "\\0"
  else if isPrintable c then String.singleton c
  else braced c

/-- A text between double quotes, with what cannot be seen spelled out. -/
def quoted (s : String) : String :=
  "\"" ++ String.join (s.toList.map quotedChar) ++ "\""

end DataPath.Text
