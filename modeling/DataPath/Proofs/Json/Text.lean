import DataPath.Json.Held
import DataPath.Json.Printer
import DataPath.Json.Reader
import Mathlib.Data.String.Basic

/-!
# Reading what was printed

A value is read from its indented layout as it was, if every string in it is a text
(`parse?_indented`).  Nothing is assumed of the reader or the printer; both are followed character
by character.

* A number is read up to the first character that belongs to no number (`Stops`).  What is printed
  behind a number, a comma or a line feed, is such a character.
* A string is read character by character: as itself, or from its escape (`units_escaped`).
* Lists and objects are read line by line.  Blanks in front of a value do not matter
  (`value_congr`), so the indentation does not either.

The reader counts down a bound, and starts at twice the length of the text.  That is enough: reading
an element takes two steps, one for the list and one for the element, and every element stands
behind a character of its own, the bracket or the comma (`Reads`).
-/

namespace DataPath.Json

/-! ## Induction over values -/

/-- A property of values that holds of lists and objects when it holds of everything in them holds of
all values. -/
@[elab_as_elim] theorem induction {P : Json → Prop} (null : P .null) (bool : ∀ b, P (.bool b))
    (number : ∀ n, P (.number n)) (string : ∀ s, P (.string s))
    (list : ∀ vs, (∀ v ∈ vs, P v) → P (.list vs))
    (object : ∀ fs : List (Option String × Json), (∀ f ∈ fs, P f.2) → P (.object fs)) :
    ∀ v, P v
  | .null => null
  | .bool b => bool b
  | .number n => number n
  | .string s => string s
  | .list vs => list vs fun v _ => induction null bool number string list object v
  | .object fs => object fs fun f _ => induction null bool number string list object f.2
termination_by v => sizeOf v
decreasing_by
  · have hmem := List.sizeOf_lt_of_mem ‹_ ∈ vs›
    simp only [Json.list.sizeOf_spec]
    omega
  · have hmem := List.sizeOf_lt_of_mem ‹_ ∈ fs›
    have hvalue : sizeOf f.2 < sizeOf f := by
      rw [Prod.mk.sizeOf_spec f.1 f.2]
      omega
    simp only [Json.object.sizeOf_spec]
    omega

theorem indentedList_eq (k : Nat) (vs : List Json) : indentedList k vs = vs.map (indentedAt k) := by
  induction vs with
  | nil => rfl
  | cons v vs ih => rw [indentedList, ih, List.map_cons]

/-- A field as it is laid out. -/
def fieldAt (k : Nat) (f : Option String × Json) : String :=
  printString f.1 ++ ": " ++ indentedAt k f.2

theorem indentedFields_eq (k : Nat) (fs : List (Option String × Json)) :
    indentedFields k fs = fs.map (fieldAt k) := by
  induction fs with
  | nil => rfl
  | cons f fs ih =>
    rw [indentedFields, ih, List.map_cons]
    rfl

theorem isPlainList_iff {vs : List Json} : isPlainList vs = true ↔ ∀ v ∈ vs, v.isPlain = true := by
  induction vs with
  | nil => simp [isPlainList]
  | cons v vs ih => rw [isPlainList, Bool.and_eq_true, ih, List.forall_mem_cons]

theorem isPlainFields_iff {fs : List (Option String × Json)} :
    isPlainFields fs = true ↔ ∀ f ∈ fs, f.1.isSome = true ∧ f.2.isPlain = true := by
  induction fs with
  | nil => simp [isPlainFields]
  | cons f fs ih =>
    rw [isPlainFields, Bool.and_eq_true, Bool.and_eq_true, ih, List.forall_mem_cons]

namespace Reader

/-! ## Numbers -/

theorem digits_append {ds rest : List Char} (hds : ∀ d ∈ ds, d.isDigit = true)
    (hrest : ∀ c ∈ rest.head?, c.isDigit = false) : digits (ds ++ rest) = (ds, rest) := by
  have hnone : rest.takeWhile Char.isDigit = [] ∧ rest.dropWhile Char.isDigit = rest := by
    cases rest with
    | nil => exact ⟨rfl, rfl⟩
    | cons c rest => simp [hrest c rfl]
  rw [digits, List.takeWhile_append_of_pos hds, List.dropWhile_append_of_pos hds, hnone.1, hnone.2,
    List.append_nil]

theorem appendDigits_toDigits (n : Nat) : appendDigits 0 (Nat.toDigits 10 n) = n :=
  Nat.ofDigitChars_eq_foldl.symm.trans Nat.ofDigitChars_ten_toDigits

theorem isDigit_of_mem_toDigits {n : Nat} {d : Char} (hd : d ∈ Nat.toDigits 10 n) :
    d.isDigit = true := Nat.isDigit_of_mem_toDigits (by decide) (by decide) hd

/-- Only zero is written with a zero in front. -/
theorem eq_zero_of_head?_toDigits {n : Nat} (h : (Nat.toDigits 10 n).head? = some '0') : n = 0 := by
  induction n using Nat.strongRecOn with
  | ind n ih =>
    rw [Nat.toDigits_eq_if (by decide)] at h
    split at h
    · exact Nat.digitChar_eq_zero.1 (by simpa using h)
    · rw [List.head?_append_of_ne_nil _ Nat.toDigits_ne_nil] at h
      have := ih (n / 10) (by omega) h
      omega

/-- The text behind a number: what begins it does not belong to a number. -/
def Stops (rest : List Char) : Prop :=
  ∀ c ∈ rest.head?, c.isDigit = false ∧ c ≠ '.' ∧ c ≠ 'e' ∧ c ≠ 'E'

theorem fraction_of_ne {cs : List Char} (h : ∀ c ∈ cs.head?, c ≠ '.') :
    fraction cs = some ([], cs) := by
  unfold fraction
  split
  · exact absurd rfl (h '.' rfl)
  · rfl

theorem exponent_of_stops {rest : List Char} (h : Stops rest) : exponent rest = some (none, rest) := by
  cases rest with
  | nil => rfl
  | cons c rest =>
    obtain ⟨-, -, he, hE⟩ := h c rfl
    simp [exponent, he, hE]

/-- A minus sign is read off what no minus sign begins. -/
theorem sign_append (negative : Bool) {cs : List Char} (hcs : ∀ c ∈ cs.head?, c ≠ '-') :
    sign ((if negative then ['-'] else []) ++ cs) = (negative, cs) := by
  cases negative with
  | true => rfl
  | false =>
    show sign cs = (false, cs)
    unfold sign
    split
    · exact absurd rfl (hcs '-' rfl)
    · rfl

/-- A zero is read on its own, and other digits as far as they go. -/
theorem leadingDigits_append (n : Nat) {cs : List Char} (hcs : ∀ c ∈ cs.head?, c.isDigit = false) :
    leadingDigits (Nat.toDigits 10 n ++ cs) = (Nat.toDigits 10 n, cs) := by
  unfold leadingDigits
  split
  · next rest heq =>
    have hzero : n = 0 := by
      refine eq_zero_of_head?_toDigits ?_
      rw [← List.head?_append_of_ne_nil _ Nat.toDigits_ne_nil, heq]
      rfl
    subst hzero
    rw [Nat.toDigits_zero] at heq ⊢
    exact congrArg _ (List.cons.inj heq).2.symm
  · exact digits_append (fun _ => isDigit_of_mem_toDigits) hcs

/-- The digits of a number, behind its sign, and what comes behind them. -/
theorem number_digits (negative : Bool) (n : Nat) {cs rest : List Char} {power : Option Int}
    (hcs : ∀ c ∈ cs.head?, c.isDigit = false ∧ c ≠ '.') (hpower : exponent cs = some (power, rest)) :
    number ((if negative then ['-'] else []) ++ (Nat.toDigits 10 n ++ cs)) =
      some (if power.isNone ∧ ¬(negative ∧ n = 0) then .integer (if negative then -n else n)
        else .decimal negative n (power.getD 0), rest) := by
  have hdigit : ∀ c ∈ cs.head?, c.isDigit = false := fun c hc => (hcs c hc).1
  have hnext : ¬(Nat.toDigits 10 n = ['0'] ∧ cs.head?.any Char.isDigit = true) := by
    rintro ⟨-, hany⟩
    obtain ⟨c, hc, hd⟩ := (Option.any_eq_true _ _).1 hany
    exact absurd hd (by simp [hdigit c hc])
  have hfirst : ∀ c ∈ (Nat.toDigits 10 n ++ cs).head?, c ≠ '-' := by
    rintro c hc rfl
    rw [List.head?_append_of_ne_nil _ Nat.toDigits_ne_nil] at hc
    exact absurd (isDigit_of_mem_toDigits (List.mem_of_mem_head? hc)) (by decide)
  unfold number
  rw [sign_append negative hfirst]
  simp only [leadingDigits_append n hdigit, List.isEmpty_iff, Nat.toDigits_ne_nil, ↓reduceIte, hnext,
    fraction_of_ne fun c hc => (hcs c hc).2, hpower, Option.bind_eq_bind, Option.bind_some,
    appendDigits_toDigits]
  have hnone : appendDigits n [] = n := rfl
  have hpoint : power.getD 0 - (([] : List Char).length : Int) = power.getD 0 := Int.sub_zero _
  simp only [true_and, hnone, hpoint]
  split <;> rfl

/-- The exponent of a number, in digits behind its sign. -/
theorem exponent_digits (negative : Bool) (n : Nat) {rest : List Char}
    (hrest : ∀ c ∈ rest.head?, c.isDigit = false) :
    exponent ('e' :: ((if negative then ['-'] else []) ++ (Nat.toDigits 10 n ++ rest))) =
      some (some (if negative then -(n : Int) else n), rest) := by
  have hdigits := digits_append (fun _ => isDigit_of_mem_toDigits (n := n)) hrest
  obtain ⟨d, ds, hds⟩ := List.exists_cons_of_ne_nil (Nat.toDigits_ne_nil (n := n) (b := 10))
  have hn : appendDigits 0 (d :: ds) = n := hds ▸ appendDigits_toDigits n
  have hd : d.isDigit = true := isDigit_of_mem_toDigits (n := n) (by simp [hds])
  rw [hds] at hdigits ⊢
  rw [List.cons_append] at hdigits ⊢
  unfold exponent
  cases negative with
  | true => simp [hdigits, hn]
  | false =>
    have hminus : d ≠ '-' := by
      rintro rfl
      cases hd
    have hplus : d ≠ '+' := by
      rintro rfl
      cases hd
    simp [hminus, hplus, hdigits, hn]

end Reader

/-! ## Printed numbers -/

theorem toList_toString_int (m : Int) :
    (toString m).toList = (if decide (m < 0) then ['-'] else []) ++ Nat.toDigits 10 m.natAbs := by
  rw [Int.toString_eq_repr, Int.repr_eq_if]
  split
  · next hm =>
    have hneg : ¬m < 0 := by omega
    have habs : m.toNat = m.natAbs := by omega
    simp [hneg, habs, Nat.repr_eq_ofList_toDigits]
  · next hm =>
    have hneg : m < 0 := by omega
    have habs : (-m).toNat = m.natAbs := by omega
    simp [hneg, habs, Nat.repr_eq_ofList_toDigits]

theorem ite_natAbs (m : Int) : (if m < 0 then -(m.natAbs : Int) else m.natAbs) = m := by
  split <;> omega

/-- A number is printed with its digits behind its sign, and behind them the exponent, if any. -/
theorem toList_printNumber (n : Number) :
    ∃ (negative : Bool) (m : Nat) (cs : List Char), (printNumber n).toList =
      (if negative then ['-'] else []) ++ (Nat.toDigits 10 m ++ cs) ∧
        ∀ {rest : List Char}, Reader.Stops rest →
          Reader.number ((if negative then ['-'] else []) ++ (Nat.toDigits 10 m ++ (cs ++ rest))) =
            some (n, rest) := by
  cases n with
  | integer m =>
    refine ⟨decide (m < 0), m.natAbs, [], ?_, fun {rest} hrest => ?_⟩
    · rw [printNumber, toList_toString_int, List.append_nil]
    · have hzero : ¬(decide (m < 0) = true ∧ m.natAbs = 0) := by
        rw [decide_eq_true_eq]
        omega
      rw [List.nil_append, Reader.number_digits _ _ (fun c hc => ⟨(hrest c hc).1, (hrest c hc).2.1⟩)
        (Reader.exponent_of_stops hrest), if_pos ⟨rfl, hzero⟩]
      simp only [decide_eq_true_eq, ite_natAbs]
  | decimal negative significand exponent =>
    refine ⟨negative, significand,
      'e' :: ((if decide (exponent < 0) then ['-'] else []) ++ Nat.toDigits 10 exponent.natAbs), ?_,
      fun {rest} hrest => ?_⟩
    · rw [printNumber, String.toList_append, String.toList_append, String.toList_append,
        toList_toString_int, Nat.toString_eq_ofList_toDigits]
      cases negative <;> simp
    · rw [List.cons_append, List.append_assoc, Reader.number_digits negative significand (by simp)
        (Reader.exponent_digits _ _ fun c hc => (hrest c hc).1)]
      simp only [Option.isNone_some, Bool.false_eq_true, false_and, ↓reduceIte, Option.getD_some,
        decide_eq_true_eq, ite_natAbs]

/-- A number is read as it is printed. -/
theorem number_printNumber (n : Number) {rest : List Char} (hrest : Reader.Stops rest) :
    Reader.number ((printNumber n).toList ++ rest) = some (n, rest) := by
  obtain ⟨negative, m, cs, hprinted, hread⟩ := toList_printNumber n
  rw [hprinted, List.append_assoc, List.append_assoc, hread hrest]

/-- It begins with a digit or a minus sign. -/
theorem printNumber_head (n : Number) (rest : List Char) :
    ∀ c ∈ ((printNumber n).toList ++ rest).head?, c.isDigit = true ∨ c = '-' := by
  obtain ⟨negative, m, cs, hprinted, -⟩ := toList_printNumber n
  intro c hc
  rw [hprinted, List.append_assoc, List.append_assoc] at hc
  cases negative with
  | true => exact .inr (Option.some.inj hc).symm
  | false =>
    rw [if_neg (by decide), List.nil_append, List.head?_append_of_ne_nil _ Nat.toDigits_ne_nil] at hc
    exact .inl (Reader.isDigit_of_mem_toDigits (List.mem_of_mem_head? hc))

/-! ## Printed strings -/

namespace Reader

attribute [local simp] units

/-- No half of a surrogate pair is a character. -/
theorem not_half (c : Char) : isHighHalf c.toNat = false ∧ isLowHalf c.toNat = false := by
  have hvalid : c.toNat < 0xD800 ∨ 0xDFFF < c.toNat ∧ c.toNat < 0x110000 := c.valid
  simp only [isHighHalf, isLowHalf, Bool.and_eq_false_iff, decide_eq_false_iff_not]
  omega

/-- Characters spell themselves. -/
theorem spell?_map_toNat (cs : List Char) : spell? (cs.map Char.toNat) = some cs := by
  induction cs with
  | nil => rfl
  | cons c cs ih =>
    obtain ⟨hhigh, hlow⟩ := not_half c
    cases cs with
    | nil => simp [spell?, hhigh, hlow, Char.ofNat_toNat]
    | cons d cs =>
      rw [List.map_cons] at ih
      simp only [List.map_cons, spell?, hhigh, hlow, ih, Bool.false_eq_true, ↓reduceIte,
        Option.map_some, Char.ofNat_toNat]

theorem hexFour?_digitChar {n : Nat} (hn : n < 0x20) :
    hexFour? '0' '0' (if n < 16 then '0' else '1') (Nat.digitChar (n % 16)) = some n := by
  have hall : ∀ n < 0x20, hexFour? '0' '0' (if n < 16 then '0' else '1') (Nat.digitChar (n % 16)) =
      some n := by decide
  exact hall n hn

/-- The inside of a string with one more code point in front. -/
def codeThen (n : Nat) (p : List Nat × List Char) : List Nat × List Char := (n :: p.1, p.2)

theorem units_short {e c : Char} (he : e ≠ 'u') (h : shortEscape? e = some c) (cs : List Char) :
    units ('\\' :: e :: cs) = (units cs).map (codeThen c.toNat) := by
  rw [units.eq_4 _ _ (by simp [he])]
  cases hcs : units cs <;> simp [h, codeThen]

theorem units_hex {a b c d : Char} {n : Nat} (h : hexFour? a b c d = some n) (cs : List Char) :
    units ('\\' :: 'u' :: a :: b :: c :: d :: cs) = (units cs).map (codeThen n) := by
  rw [units]
  cases hcs : units cs <;> simp [h, codeThen]

theorem units_plain {c : Char} (hquote : c ≠ '"') (hslash : c ≠ '\\') (hseen : 0x20 ≤ c.toNat)
    (cs : List Char) : units (c :: cs) = (units cs).map (codeThen c.toNat) := by
  have hnot : ¬(c = '\\' ∨ c.toNat < 0x20) := by
    rintro (h | h)
    · exact hslash h
    · omega
  rw [units.eq_5 _ _ (by simp [hquote]) (by simp [hslash]) (by simp [hslash]), if_neg hnot]
  cases hcs : units cs <;> simp [codeThen]

/-- A character is read as it is printed. -/
theorem units_escaped (c : Char) (cs : List Char) :
    units ((escaped c).toList ++ cs) = (units cs).map (codeThen c.toNat) := by
  unfold escaped
  split
  · next h => exact h ▸ units_short (by decide) rfl cs
  split
  · next h => exact h ▸ units_short (by decide) rfl cs
  split
  · next h => exact h ▸ units_short (by decide) rfl cs
  split
  · next h => exact h ▸ units_short (by decide) rfl cs
  split
  · next h => exact h ▸ units_short (by decide) rfl cs
  split
  · next h => exact h ▸ units_short (by decide) (c := '\x08') rfl cs
  split
  · next h => exact h ▸ units_short (by decide) (c := '\x0c') rfl cs
  split
  · next hquote hslash _ _ _ _ _ h =>
    have hprinted : ("\\u00" ++ (if c.toNat < 16 then "0" else "1") ++
        String.singleton (Nat.digitChar (c.toNat % 16))).toList ++ cs =
        '\\' :: 'u' :: '0' :: '0' :: (if c.toNat < 16 then '0' else '1') ::
          Nat.digitChar (c.toNat % 16) :: cs := by
      split <;> simp
    rw [hprinted]
    exact units_hex (hexFour?_digitChar h) cs
  · next hquote hslash _ _ _ _ _ h =>
    rw [String.toList_singleton, List.singleton_append]
    exact units_plain hquote hslash (by omega) cs

theorem units_join (cs rest : List Char) :
    units ((String.join (cs.map escaped)).toList ++ '"' :: rest) = some (cs.map Char.toNat, rest) := by
  induction cs with
  | nil => rfl
  | cons c cs ih =>
    rw [List.map_cons, String.join_cons, String.toList_append, List.append_assoc, units_escaped, ih]
    rfl

/-- A string is read as it is printed, behind its opening quote. -/
theorem string_join (s : String) (rest : List Char) :
    string ((String.join (s.toList.map escaped)).toList ++ '"' :: rest) = some (some s, rest) := by
  rw [string, units_join]
  simp [spell?_map_toNat]

end Reader

theorem toList_printText (s : String) (rest : List Char) :
    (printText s).toList ++ rest =
      '"' :: ((String.join (s.toList.map escaped)).toList ++ '"' :: rest) := by
  simp [printText]

/-! ## The layout -/

theorem skip_newLine (k : Nat) (cs : List Char) :
    Reader.skip ((newLine k).toList ++ cs) = Reader.skip cs := by
  have hblank : ∀ c ∈ (newLine k).toList, Reader.isBlank c = true := by
    intro c hc
    simp only [newLine, String.toList_append, String.toList_ofList, List.mem_append,
      List.mem_replicate] at hc
    rcases hc with hc | ⟨-, rfl⟩
    · rw [show ("\n" : String).toList = ['\n'] from rfl, List.mem_singleton] at hc
      subst hc
      rfl
    · rfl
  rw [Reader.skip, List.dropWhile_append_of_pos hblank]
  rfl

namespace Reader

attribute [local simp] value elements fields

/-- Blanks in front of a value do not matter. -/
theorem value_congr {bound : Nat} {cs ds : List Char} (h : skip cs = skip ds) :
    value bound cs = value bound ds := by
  cases bound with
  | zero => rfl
  | succ bound => rw [value, value, h]

variable {bound : Nat} {cs ds es rest : List Char} {v : Json} {vs : List Json}
  {key : Option String} {fs : List (Option String × Json)}

/-! ### Values by their first character -/

theorem value_number {n : Number} (hcs : ∀ c ∈ cs.head?, c.isDigit = true ∨ c = '-')
    (h : number cs = some (n, rest)) : value (bound + 1) cs = some (.number n, rest) := by
  have hskip : skip cs = cs := by
    cases cs with
    | nil => rfl
    | cons c cs =>
      refine List.dropWhile_cons_of_neg fun hblank => ?_
      simp only [isBlank, Bool.or_eq_true, decide_eq_true_eq] at hblank
      rcases hblank with ((rfl | rfl) | rfl) | rfl <;> exact absurd (hcs _ rfl) (by decide)
  rw [value, hskip]
  split
  · exact absurd (hcs _ rfl) (by decide)
  · exact absurd (hcs _ rfl) (by decide)
  · exact absurd (hcs _ rfl) (by decide)
  · exact absurd (hcs _ rfl) (by decide)
  · exact absurd (hcs _ rfl) (by decide)
  · exact absurd (hcs _ rfl) (by decide)
  · simp [h]

theorem afterWord_append (word : String) (cs : List Char) :
    afterWord word (word.toList ++ cs) = some cs := by
  simp [afterWord]

theorem value_null : value (bound + 1) ("null".toList ++ rest) = some (.null, rest) := by
  have hskip : skip ("null".toList ++ rest) = 'n' :: ("ull".toList ++ rest) := rfl
  simp only [value, hskip, afterWord_append]
  rfl

theorem value_true : value (bound + 1) ("true".toList ++ rest) = some (.bool true, rest) := by
  have hskip : skip ("true".toList ++ rest) = 't' :: ("rue".toList ++ rest) := rfl
  simp only [value, hskip, afterWord_append]
  rfl

theorem value_false : value (bound + 1) ("false".toList ++ rest) = some (.bool false, rest) := by
  have hskip : skip ("false".toList ++ rest) = 'f' :: ("alse".toList ++ rest) := rfl
  simp only [value, hskip, afterWord_append]
  rfl

theorem value_string {s : Option String} (h : string cs = some (s, rest)) :
    value (bound + 1) ('"' :: cs) = some (.string s, rest) := by
  have hskip : skip ('"' :: cs) = '"' :: cs := rfl
  simp [hskip, h]

theorem value_nil : value (bound + 1) ("[]".toList ++ rest) = some (.list [], rest) := by
  have hskip : skip ("[]".toList ++ rest) = '[' :: ']' :: rest := rfl
  have hclosed : skip (']' :: rest) = ']' :: rest := rfl
  simp only [value, hskip, hclosed]

theorem value_empty : value (bound + 1) ("\x7b\x7d".toList ++ rest) = some (.object [], rest) := by
  have hskip : skip ("\x7b\x7d".toList ++ rest) = '\x7b' :: '\x7d' :: rest := rfl
  have hclosed : skip ('\x7d' :: rest) = '\x7d' :: rest := rfl
  simp only [value, hskip, hclosed]

/-- No value begins with a closing bracket. -/
theorem value_bracket (h : skip cs = ']' :: rest) : value bound cs = none := by
  cases bound with
  | zero => rfl
  | succ bound =>
    rw [value, h]
    rfl

theorem value_list (h : elements bound cs = some (vs, rest)) :
    value (bound + 1) ('[' :: cs) = some (.list vs, rest) := by
  have hskip : skip ('[' :: cs) = '[' :: cs := rfl
  rw [value, hskip]
  simp only
  split
  · next hclosed =>
    cases bound with
    | zero => cases h
    | succ bound => simp [value_bracket hclosed] at h
  · simp [h]

theorem value_object (h : fields bound cs = some (fs, rest)) :
    value (bound + 1) ('\x7b' :: cs) = some (.object fs, rest) := by
  have hskip : skip ('\x7b' :: cs) = '\x7b' :: cs := rfl
  rw [value, hskip]
  simp only
  split
  · next hclosed =>
    cases bound with
    | zero => cases h
    | succ bound => simp [hclosed] at h
  · simp [h]

/-! ### Elements and fields -/

theorem elements_cons (hv : value bound cs = some (v, ',' :: ds))
    (hvs : elements bound ds = some (vs, rest)) :
    elements (bound + 1) cs = some (v :: vs, rest) := by
  have hskip : skip (',' :: ds) = ',' :: ds := rfl
  simp [hv, hskip, hvs]

theorem elements_last (hv : value bound cs = some (v, ds)) (hclosed : skip ds = ']' :: rest) :
    elements (bound + 1) cs = some ([v], rest) := by
  simp [hv, hclosed]

theorem fields_cons (hcs : skip cs = '"' :: ds) (hkey : string ds = some (key, ':' :: es))
    {gs : List Char} (hv : value bound es = some (v, ',' :: gs))
    (hfs : fields bound gs = some (fs, rest)) :
    fields (bound + 1) cs = some ((key, v) :: fs, rest) := by
  have hcolon : skip (':' :: es) = ':' :: es := rfl
  have hcomma : skip (',' :: gs) = ',' :: gs := rfl
  simp [hcs, hkey, hcolon, hv, hcomma, hfs]

theorem fields_last (hcs : skip cs = '"' :: ds) (hkey : string ds = some (key, ':' :: es))
    {gs : List Char} (hv : value bound es = some (v, gs)) (hclosed : skip gs = '\x7d' :: rest) :
    fields (bound + 1) cs = some ([(key, v)], rest) := by
  have hcolon : skip (':' :: es) = ':' :: es := rfl
  simp [hcs, hkey, hcolon, hv, hclosed]

end Reader

/-! ## Values as they are laid out -/

/-- What stands behind an item in the indented layout, if anything does: a comma or a line feed. -/
def Follows (rest : List Char) : Prop := ∀ c ∈ rest.head?, c = ',' ∨ c = '\n'

theorem Follows.stops {rest : List Char} (h : Follows rest) : Reader.Stops rest := by
  intro c hc
  rcases h c hc with rfl | rfl <;> decide

theorem follows_newLine (k : Nat) (cs : List Char) : Follows ((newLine k).toList ++ cs) := by
  intro c hc
  simp only [newLine, String.toList_append] at hc
  exact .inr (Option.some.inj hc).symm

theorem follows_comma (cs : List Char) : Follows (',' :: cs) :=
  fun _ hc => .inl (Option.some.inj hc).symm

/-- The items of a list or an object on lines of their own, up to its closing bracket. -/
def lines (closing : String) (k : Nat) (items : List String) : List Char :=
  (newLine (k + 1)).toList ++ (("," ++ newLine (k + 1)).intercalate items).toList ++
    (newLine k).toList ++ closing.toList

theorem toList_block {items : List String} (hne : items ≠ []) (opening closing : String) (k : Nat) :
    (block opening closing k items).toList = opening.toList ++ lines closing k items := by
  rw [block, if_neg (by simpa using hne)]
  simp [lines]

theorem lines_singleton (closing : String) (k : Nat) (item : String) :
    lines closing k [item] =
      (newLine (k + 1)).toList ++ (item.toList ++ ((newLine k).toList ++ closing.toList)) := by
  simp [lines]

theorem lines_cons (closing : String) (k : Nat) (item : String) {items : List String}
    (hne : items ≠ []) :
    lines closing k (item :: items) =
      (newLine (k + 1)).toList ++ (item.toList ++ ',' :: lines closing k items) := by
  rw [lines, String.intercalate_cons_of_ne_nil hne]
  simp [lines]

/-- A value is read as it is laid out, in steps enough for the length of its text. -/
def Reads (v : Json) : Prop :=
  ∀ (k bound : Nat) (rest : List Char), Follows rest →
    2 * (indentedAt k v).toList.length ≤ bound →
      Reader.value (bound + 1) ((indentedAt k v).toList ++ rest) = some (v, rest)

/-- A value is read behind blanks too. -/
theorem Reads.behind {v : Json} (h : Reads v) {k bound : Nat} {cs rest : List Char}
    (hcs : Reader.skip cs = Reader.skip ((indentedAt k v).toList ++ rest)) (hrest : Follows rest)
    (hbound : 2 * (indentedAt k v).toList.length < bound) :
    Reader.value bound cs = some (v, rest) := by
  obtain ⟨bound, rfl⟩ := Nat.exists_eq_add_one_of_ne_zero (Nat.ne_zero_of_lt hbound)
  exact (Reader.value_congr hcs).trans (h k bound rest hrest (Nat.le_of_lt_succ hbound))

theorem elements_lines {vs : List Json} (hreads : ∀ v ∈ vs, Reads v) (hne : vs ≠ []) (k : Nat)
    {bound : Nat} (rest : List Char)
    (hbound : 2 * (lines "]" k (vs.map (indentedAt (k + 1)))).length + 1 < bound) :
    Reader.elements bound (lines "]" k (vs.map (indentedAt (k + 1))) ++ rest) = some (vs, rest) := by
  induction vs generalizing bound with
  | nil => exact absurd rfl hne
  | cons v vs ih =>
    obtain ⟨hv, hvs⟩ := List.forall_mem_cons.1 hreads
    obtain ⟨bound, rfl⟩ : ∃ b, bound = b + 1 := ⟨bound - 1, by omega⟩
    by_cases hlast : vs = []
    · subst hlast
      rw [List.map_singleton, lines_singleton] at hbound ⊢
      simp only [List.length_append] at hbound
      simp only [List.append_assoc]
      refine Reader.elements_last
        (hv.behind (skip_newLine _ _) (follows_newLine k _) (by omega)) ?_
      rw [skip_newLine]
      rfl
    · have hmap : vs.map (indentedAt (k + 1)) ≠ [] := by simpa using hlast
      rw [List.map_cons, lines_cons _ _ _ hmap] at hbound ⊢
      simp only [List.length_append, List.length_cons] at hbound
      simp only [List.append_assoc, List.cons_append]
      exact Reader.elements_cons
        (hv.behind (skip_newLine _ _) (follows_comma _) (by omega)) (ih hvs hlast (by omega))

theorem skip_space (cs : List Char) : Reader.skip (' ' :: cs) = Reader.skip cs := rfl

theorem skip_newLine_quote (k : Nat) (cs : List Char) :
    Reader.skip ((newLine k).toList ++ '"' :: cs) = '"' :: cs := by
  rw [skip_newLine]
  rfl

theorem toList_fieldAt (k : Nat) (key : String) (v : Json) (rest : List Char) :
    (fieldAt k (some key, v)).toList ++ rest =
      '"' :: ((String.join (key.toList.map escaped)).toList ++
        '"' :: ':' :: ' ' :: ((indentedAt k v).toList ++ rest)) := by
  simp [fieldAt, printString, printText]

theorem length_indentedAt_le (k : Nat) (f : Option String × Json) :
    (indentedAt k f.2).toList.length ≤ (fieldAt k f).toList.length := by
  simp only [fieldAt, String.toList_append, List.length_append]
  omega

theorem fields_lines {fs : List (Option String × Json)} (hkeys : ∀ f ∈ fs, f.1.isSome = true)
    (hreads : ∀ f ∈ fs, Reads f.2) (hne : fs ≠ []) (k : Nat) {bound : Nat} (rest : List Char)
    (hbound : 2 * (lines "\x7d" k (fs.map (fieldAt (k + 1)))).length + 1 < bound) :
    Reader.fields bound (lines "\x7d" k (fs.map (fieldAt (k + 1))) ++ rest) = some (fs, rest) := by
  induction fs generalizing bound with
  | nil => exact absurd rfl hne
  | cons f fs ih =>
    obtain ⟨hv, hvs⟩ := List.forall_mem_cons.1 hreads
    obtain ⟨hkey, hrest⟩ := List.forall_mem_cons.1 hkeys
    obtain ⟨bound, rfl⟩ : ∃ b, bound = b + 1 := ⟨bound - 1, by omega⟩
    have hlen := length_indentedAt_le (k + 1) f
    obtain ⟨key, v⟩ := f
    obtain ⟨key, rfl⟩ := Option.isSome_iff_exists.1 hkey
    by_cases hlast : fs = []
    · subst hlast
      rw [List.map_singleton, lines_singleton] at hbound ⊢
      simp only [List.length_append] at hbound
      rw [List.append_assoc, List.append_assoc, toList_fieldAt, List.append_assoc]
      refine Reader.fields_last (skip_newLine_quote _ _) (Reader.string_join key _)
        (hv.behind (skip_space _) (follows_newLine k _) (by omega)) ?_
      rw [skip_newLine]
      rfl
    · have hmap : fs.map (fieldAt (k + 1)) ≠ [] := by simpa using hlast
      rw [List.map_cons, lines_cons _ _ _ hmap] at hbound ⊢
      simp only [List.length_append, List.length_cons] at hbound
      rw [List.append_assoc, List.append_assoc, toList_fieldAt, List.cons_append]
      exact Reader.fields_cons (skip_newLine_quote _ _) (Reader.string_join key _)
        (hv.behind (skip_space _) (follows_comma _) (by omega)) (ih hrest hvs hlast (by omega))

/-! ## Reading what is printed -/

/-- Every value whose strings are texts is read as it is laid out. -/
theorem reads_of_isPlain {v : Json} (hv : v.isPlain = true) : Reads v := by
  induction v using Json.induction with
  | null => exact fun _ _ _ _ _ => Reader.value_null
  | bool b =>
    cases b with
    | false => exact fun _ _ _ _ _ => Reader.value_false
    | true => exact fun _ _ _ _ _ => Reader.value_true
  | number n =>
    intro k bound rest hrest _
    exact Reader.value_number (printNumber_head n rest) (number_printNumber n hrest.stops)
  | string s =>
    intro k bound rest _ _
    obtain ⟨s, rfl⟩ := Option.isSome_iff_exists.1 hv
    rw [indentedAt, printString, Option.getD_some, toList_printText]
    exact Reader.value_string (Reader.string_join s rest)
  | list vs ih =>
    intro k bound rest hrest hbound
    have hplain := isPlainList_iff.1 hv
    rw [indentedAt, indentedList_eq] at hbound ⊢
    by_cases hnil : vs = []
    · subst hnil
      exact Reader.value_nil
    · have hmap : vs.map (indentedAt (k + 1)) ≠ [] := by simpa using hnil
      rw [toList_block hmap] at hbound ⊢
      refine Reader.value_list (elements_lines (fun v hv => ih v hv (hplain v hv)) hnil k rest ?_)
      simp only [List.length_append] at hbound
      have : ("[" : String).toList.length = 1 := rfl
      omega
  | object fs ih =>
    intro k bound rest hrest hbound
    have hplain := isPlainFields_iff.1 hv
    rw [indentedAt, indentedFields_eq] at hbound ⊢
    by_cases hnil : fs = []
    · subst hnil
      exact Reader.value_empty
    · have hmap : fs.map (fieldAt (k + 1)) ≠ [] := by simpa using hnil
      rw [toList_block hmap] at hbound ⊢
      refine Reader.value_object (fields_lines (fun f hf => (hplain f hf).1)
        (fun f hf => ih f hf (hplain f hf).2) hnil k rest ?_)
      simp only [List.length_append] at hbound
      have : ("\x7b" : String).toList.length = 1 := rfl
      omega

/-- A value whose strings are texts is what is read from its indented layout. -/
theorem parse?_indented {v : Json} (hv : v.isPlain = true) : parse? v.indented = some v := by
  have hread := reads_of_isPlain hv 0 (2 * (indentedAt 0 v).toList.length + 1) [] nofun (by omega)
  rw [List.append_nil] at hread
  rw [parse?, indented]
  simp only [hread]
  rfl

end DataPath.Json
