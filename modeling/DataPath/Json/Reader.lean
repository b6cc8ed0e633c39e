import DataPath.Json.Basic

/-!
# Reading JSON

`Json.parse?` reads a text that is one JSON value with nothing but blanks around it.
The grammar is the strict one: no leading zeros, no trailing commas, no control
characters inside strings, only the eight short escapes and `\u` with four
hexadecimal digits.

The readers take the text as a list of characters and return the rest.  Values nest,
so the reader of values counts down a bound; every second step consumes a character,
so twice the length of the text is enough.
-/

namespace DataPath.Json.Reader

/-- The blanks of JSON. -/
def isBlank (c : Char) : Bool := c = ' ' || c = '\n' || c = '\t' || c = '\r'

/-- The text after the blanks it begins with. -/
def skip (cs : List Char) : List Char := cs.dropWhile isBlank

/-- The text after a word it must begin with. -/
def afterWord (word : String) (cs : List Char) : Option (List Char) :=
  if word.toList.isPrefixOf cs then some (cs.drop word.toList.length) else none

/-- The value of a hexadecimal digit. -/
def hexDigit? (c : Char) : Option Nat :=
  if '0' ≤ c ∧ c ≤ '9' then some (c.toNat - '0'.toNat)
  else if 'a' ≤ c ∧ c ≤ 'f' then some (c.toNat - 'a'.toNat + 10)
  else if 'A' ≤ c ∧ c ≤ 'F' then some (c.toNat - 'A'.toNat + 10)
  else none

/-- The number that four hexadecimal digits make. -/
def hexFour? (a b c d : Char) : Option Nat := do
  let a ← hexDigit? a
  let b ← hexDigit? b
  let c ← hexDigit? c
  let d ← hexDigit? d
  return ((a * 16 + b) * 16 + c) * 16 + d

/-- The character a short escape stands for. -/
def shortEscape? : Char → Option Char
  | '"' => some '"'
  | '\\' => some '\\'
  | '/' => some '/'
  | 'b' => some '\x08'
  | 'f' => some '\x0c'
  | 'n' => some '\n'
  | 'r' => some '\r'
  | 't' => some '\t'
  | _ => none

/-- The inside of a string up to its closing quote, as code points and escaped code
units, and the text after the quote. -/
def units : List Char → Option (List Nat × List Char)
  | [] => none
  | '"' :: rest => some ([], rest)
  | '\\' :: 'u' :: a :: b :: c :: d :: rest => do
    let unit ← hexFour? a b c d
    let (us, rest) ← units rest
    return (unit :: us, rest)
  | '\\' :: e :: rest => do
    let c ← shortEscape? e
    let (us, rest) ← units rest
    return (c.toNat :: us, rest)
  | c :: rest =>
    if c = '\\' ∨ c.toNat < 0x20 then none
    else do
      let (us, rest) ← units rest
      return (c.toNat :: us, rest)

/-- Whether a code unit is the first half of a surrogate pair. -/
def isHighHalf (u : Nat) : Bool := 0xD800 ≤ u && u ≤ 0xDBFF

/-- Whether a code unit is the second half of a surrogate pair. -/
def isLowHalf (u : Nat) : Bool := 0xDC00 ≤ u && u ≤ 0xDFFF

/-- The characters that code points and code units spell; none when a half of a
surrogate pair stands alone. -/
def spell? : List Nat → Option (List Char)
  | [] => some []
  | [u] => if isHighHalf u || isLowHalf u then none else some [Char.ofNat u]
  | u :: v :: us =>
    if isHighHalf u then
      if isLowHalf v then
        (spell? us).map (Char.ofNat (0x10000 + (u - 0xD800) * 0x400 + (v - 0xDC00)) :: ·)
      else none
    else if isLowHalf u then none
    else (spell? (v :: us)).map (Char.ofNat u :: ·)

/-- A string whose opening quote has been read. -/
def string (cs : List Char) : Option (Option String × List Char) := do
  let (us, rest) ← units cs
  return ((spell? us).map String.ofList, rest)

/-- The digits a text begins with, and the rest. -/
def digits (cs : List Char) : List Char × List Char :=
  (cs.takeWhile Char.isDigit, cs.dropWhile Char.isDigit)

/-- The number that digits make, behind the digits of another number. -/
def appendDigits (n : Nat) (ds : List Char) : Nat :=
  ds.foldl (fun n d => 10 * n + (d.toNat - '0'.toNat)) n

/-- The digits after a decimal point, if there is one; a point needs a digit. -/
def fraction (cs : List Char) : Option (List Char × List Char) :=
  match cs with
  | '.' :: rest => match digits rest with
    | ([], _) => none
    | found => some found
  | _ => some ([], cs)

/-- The exponent, if there is one; it needs a digit. -/
def exponent (cs : List Char) : Option (Option Int × List Char) :=
  match cs with
  | e :: rest =>
    if e = 'e' ∨ e = 'E' then
      let (sign, rest) : Int × List Char := match rest with
        | '-' :: rest => (-1, rest)
        | '+' :: rest => (1, rest)
        | _ => (1, rest)
      match digits rest with
      | ([], _) => none
      | (ds, rest) => some (some (sign * appendDigits 0 ds), rest)
    else some (none, cs)
  | [] => some (none, cs)

/-- Whether a text begins with a minus sign, and the text behind it. -/
def sign : List Char → Bool × List Char
  | '-' :: rest => (true, rest)
  | cs => (false, cs)

/-- The digits of a whole number, which a zero ends when it begins them. -/
def leadingDigits : List Char → List Char × List Char
  | '0' :: rest => (['0'], rest)
  | cs => digits cs

/-- A number. -/
def number (cs : List Char) : Option (Number × List Char) := do
  let (negative, cs) := sign cs
  let (whole, cs) := leadingDigits cs
  if whole.isEmpty then none
  else if whole = ['0'] ∧ (cs.head?.any Char.isDigit) then none
  else
    let (tenths, cs) ← fraction cs
    let (power, cs) ← exponent cs
    let n := appendDigits 0 whole
    if tenths.isEmpty ∧ power.isNone ∧ ¬(negative ∧ n = 0) then
      return (.integer (if negative then -n else n), cs)
    else
      return (.decimal negative (appendDigits n tenths) (power.getD 0 - tenths.length), cs)

mutual

/-- A value, after blanks. -/
def value : Nat → List Char → Option (Json × List Char)
  | 0, _ => none
  | bound + 1, cs =>
    match skip cs with
    | '"' :: rest => do
      let (s, rest) ← string rest
      return (.string s, rest)
    | '[' :: rest => match skip rest with
      | ']' :: rest => some (.list [], rest)
      | _ => do
        let (vs, rest) ← elements bound rest
        return (.list vs, rest)
    | '\x7b' :: rest => match skip rest with
      | '\x7d' :: rest => some (.object [], rest)
      | _ => do
        let (fs, rest) ← fields bound rest
        return (.object fs, rest)
    | 't' :: rest => do return (.bool true, ← afterWord "rue" rest)
    | 'f' :: rest => do return (.bool false, ← afterWord "alse" rest)
    | 'n' :: rest => do return (.null, ← afterWord "ull" rest)
    | rest => do
      let (n, rest) ← number rest
      return (.number n, rest)

/-- The elements of a list and its closing bracket; there is at least one. -/
def elements : Nat → List Char → Option (List Json × List Char)
  | 0, _ => none
  | bound + 1, cs => do
    let (v, rest) ← value bound cs
    match skip rest with
    | ',' :: rest => do
      let (vs, rest) ← elements bound rest
      return (v :: vs, rest)
    | ']' :: rest => return ([v], rest)
    | _ => none

/-- The fields of an object and its closing brace; there is at least one. -/
def fields : Nat → List Char → Option (List (Option String × Json) × List Char)
  | 0, _ => none
  | bound + 1, cs =>
    match skip cs with
    | '"' :: rest => do
      let (key, rest) ← string rest
      match skip rest with
      | ':' :: rest => do
        let (v, rest) ← value bound rest
        match skip rest with
        | ',' :: rest => do
          let (fs, rest) ← fields bound rest
          return ((key, v) :: fs, rest)
        | '\x7d' :: rest => return ([(key, v)], rest)
        | _ => none
      | _ => none
    | _ => none

end

end DataPath.Json.Reader

namespace DataPath.Json

/-- The value that a text is, if the text is one JSON value between blanks. -/
def parse? (text : String) : Option Json := do
  let cs := text.toList
  let (v, rest) ← Reader.value (2 * cs.length + 2) cs
  if (Reader.skip rest).isEmpty then some v else none

end DataPath.Json
