import DataPath.Fault
import DataPath.Json.Vocabulary
import Mathlib

/-!
# How a class may be spelled

A text names a class when it is white space, then the label of the class with each letter in either
case, then white space again, and nothing else (`Spells`).  White space is that of Unicode, all
twenty-five characters of it (`whiteSpace`), and case is that of ASCII.

Reading goes the other way.  It cuts the white space off at both ends, puts the rest in lower case
and looks for a label.  That both come to the same rests on three facts.

* Cutting takes away white space only, and leaves a text without white space as it is
  (`exists_trim`, `trim_append`).
* A letter in lower case comes from itself and from its capital, and from no other character
  (`map_toLower_eq_iff`).  So no look-alike from outside ASCII is taken for it.
* Labels are in lower case and no letter of them is white space.

`parse_of_spelling` puts them together, for texts on their own and inside JSON.
-/

namespace DataPath

namespace Text

/-! ## White space -/

/-- The characters that Unicode counts as white space, by their code points. -/
def whiteSpace : List Nat :=
  [0x9, 0xA, 0xB, 0xC, 0xD, 0x20, 0x85, 0xA0, 0x1680, 0x2000, 0x2001, 0x2002, 0x2003, 0x2004,
    0x2005, 0x2006, 0x2007, 0x2008, 0x2009, 0x200A, 0x2028, 0x2029, 0x202F, 0x205F, 0x3000]

/-- Every character of a text is white space. -/
def Blank (cs : List Char) : Prop := ∀ x ∈ cs, x.toNat ∈ whiteSpace

theorem isBlank_iff {x : Char} : isBlank x = true ↔ x.toNat ∈ whiteSpace := by
  simp only [isBlank, whiteSpace, Bool.or_eq_true, Bool.and_eq_true, decide_eq_true_eq, beq_iff_eq,
    List.mem_cons, List.not_mem_nil, or_false]
  omega

theorem blank_iff {cs : List Char} : Blank cs ↔ ∀ x ∈ cs, isBlank x = true := by
  simp only [Blank, isBlank_iff]

theorem Blank.reverse {cs : List Char} (h : Blank cs) : Blank cs.reverse :=
  fun x hx => h x (List.mem_reverse.1 hx)

theorem exists_trimLeft (cs : List Char) : ∃ front, Blank front ∧ cs = front ++ trimLeft cs :=
  ⟨cs.takeWhile isBlank, blank_iff.2 fun _ hx => List.mem_takeWhile_imp hx,
    List.takeWhile_append_dropWhile.symm⟩

/-- What is cut off at the two ends is white space. -/
theorem exists_trim (cs : List Char) :
    ∃ front back, Blank front ∧ Blank back ∧ cs = front ++ trim cs ++ back := by
  obtain ⟨front, hfront, hcs⟩ := exists_trimLeft cs
  obtain ⟨back, hback, hrest⟩ := exists_trimLeft (trimLeft cs).reverse
  refine ⟨front, back.reverse, hfront, hback.reverse, ?_⟩
  have hright : trimLeft cs = trim cs ++ back.reverse := by
    rw [trim, trimRight, ← List.reverse_append, ← hrest, List.reverse_reverse]
  rw [List.append_assoc, ← hright]
  exact hcs

/-- White space in front of something else is cut off. -/
theorem trimLeft_append {front cs : List Char} (hfront : Blank front)
    (hcs : ∀ x ∈ cs.head?, isBlank x = false) : trimLeft (front ++ cs) = cs := by
  rw [trimLeft, List.dropWhile_append_of_pos (blank_iff.1 hfront)]
  cases cs with
  | nil => rfl
  | cons x cs => rw [List.dropWhile_cons_of_neg (by simp [hcs x rfl])]

/-- A text that neither begins nor ends with white space is left when the white space around it is
cut off. -/
theorem trim_append {front word back : List Char} (hfront : Blank front) (hback : Blank back)
    (hne : word ≠ []) (hhead : ∀ x ∈ word.head?, isBlank x = false)
    (hlast : ∀ x ∈ word.getLast?, isBlank x = false) : trim (front ++ word ++ back) = word := by
  have hleft : trimLeft (front ++ (word ++ back)) = word ++ back := by
    refine trimLeft_append hfront ?_
    rwa [List.head?_append_of_ne_nil word hne]
  have hright : trimLeft (back.reverse ++ word.reverse) = word.reverse :=
    trimLeft_append hback.reverse (by rwa [List.head?_reverse])
  rw [trim, trimRight, List.append_assoc, hleft, List.reverse_append, hright, List.reverse_reverse]

/-! ## Case -/

/-- A character is a given lower-case letter, or its capital. -/
def EitherCase (x letter : Char) : Prop := x = letter ∨ x = letter.toUpper

theorem eitherCase_toLower (x : Char) : EitherCase x x.toLower := by
  by_cases hx : x.isUpper = true
  · have hlower : ¬x.isLower = true := by
      simp only [Char.isUpper, Char.isLower, Bool.and_eq_true, decide_eq_true_eq] at hx ⊢
      intro h
      exact absurd (UInt32.le_trans h.1 hx.2) (by decide)
    refine .inr ?_
    rw [Char.toUpper_toLower_eq_toUpper, Char.toUpper_eq_of_not_isLower hlower]
  · exact .inl (Char.toLower_eq_of_not_isUpper hx).symm

theorem EitherCase.toLower {x letter : Char} (h : EitherCase x letter) :
    x.toLower = letter.toLower := by
  rcases h with rfl | rfl
  · rfl
  · exact Char.toLower_toUpper_eq_toLower letter

/-- A text comes out as a label in lower case when it is the label, with each letter in either
case. -/
theorem map_toLower_eq_iff {word label : List Char} (hlabel : label.map Char.toLower = label) :
    word.map Char.toLower = label ↔ List.Forall₂ EitherCase word label := by
  constructor
  · rintro rfl
    rw [List.forall₂_map_right_iff, List.forall₂_same]
    exact fun x _ => eitherCase_toLower x
  · intro h
    rw [← hlabel, ← List.forall₂_eq_eq_eq, List.forall₂_map_left_iff, List.forall₂_map_right_iff]
    exact h.imp fun _ _ => EitherCase.toLower

/-- White space has no case. -/
theorem toLower_of_isBlank {x : Char} (hx : isBlank x = true) : x.toLower = x := by
  refine Char.toLower_eq_of_not_isUpper fun hupper => ?_
  have hcode := isBlank_iff.1 hx
  simp only [Char.isUpper, decide_eq_true_eq, ge_iff_le, UInt32.le_iff_toNat_le] at hupper
  have hrange : 65 ≤ x.toNat ∧ x.toNat ≤ 90 := hupper
  simp only [whiteSpace, List.mem_cons, List.not_mem_nil, or_false] at hcode
  omega

end Text

namespace DataClass

open Text

/-! ## Labels -/

/-- A text without the white space around it, in lower case. -/
def folded (text : String) : List Char := (trim text.toList).map Char.toLower

theorem toLower_label (c : DataClass) : c.label.toList.map Char.toLower = c.label.toList := by
  cases c <;> decide +kernel

theorem isBlank_of_mem_label {c : DataClass} {x : Char} (hx : x ∈ c.label.toList) :
    isBlank x = false := by
  have hall : (c.label.toList.all fun x => !isBlank x) = true := by cases c <;> decide +kernel
  simpa using List.all_eq_true.1 hall x hx

theorem label_ne_nil (c : DataClass) : c.label.toList ≠ [] := by cases c <;> decide

theorem ofLabel?_eq_some_iff {cs : List Char} {c : DataClass} :
    ofLabel? cs = some c ↔ cs = c.label.toList := by
  constructor
  · intro h
    unfold ofLabel? at h
    have hlabel := List.find?_some h
    exact (of_decide_eq_true hlabel).symm
  · rintro rfl
    cases c <;> decide

theorem parse?_eq_some_iff {text : String} {c : DataClass} :
    parse? text = some c ↔ folded text = c.label.toList := ofLabel?_eq_some_iff

theorem parse_eq_ok_iff {text : String} {c : DataClass} :
    parse text = .ok c ↔ folded text = c.label.toList := by
  rw [← parse?_eq_some_iff, parse]
  cases parse? text <;> simp

/-- A text that names no class is given back in the fault. -/
theorem parse_eq_error_iff {text : String} :
    parse text = .error (.invalidClass text) ↔ ∀ c, parse text ≠ .ok c := by
  rw [parse]
  cases parse? text <;> simp

/-! ## Spellings -/

/-- A text spells a class: it is the label of the class, with each letter in either case, between
white space. -/
def Spells (text : String) (c : DataClass) : Prop :=
  ∃ front word back, text.toList = front ++ word ++ back ∧ Blank front ∧ Blank back ∧
    List.Forall₂ EitherCase word c.label.toList

/-- No character of a spelled label is white space. -/
theorem isBlank_of_mem_word {word : List Char} {c : DataClass}
    (hword : word.map Char.toLower = c.label.toList) {x : Char} (hx : x ∈ word) :
    isBlank x = false := by
  by_contra hblank
  have hblank : isBlank x = true := by simpa using hblank
  have hmem : x.toLower ∈ c.label.toList := hword ▸ List.mem_map_of_mem hx
  rw [toLower_of_isBlank hblank] at hmem
  rw [isBlank_of_mem_label hmem] at hblank
  cases hblank

theorem spells_iff {text : String} {c : DataClass} :
    Spells text c ↔ folded text = c.label.toList := by
  constructor
  · rintro ⟨front, word, back, htext, hfront, hback, hword⟩
    have hword := (map_toLower_eq_iff c.toLower_label).2 hword
    have hne : word ≠ [] := by
      rintro rfl
      exact c.label_ne_nil hword.symm
    have htrim : trim text.toList = word := by
      rw [htext]
      exact trim_append hfront hback hne
        (fun x hx => isBlank_of_mem_word hword (List.mem_of_mem_head? hx))
        (fun x hx => isBlank_of_mem_word hword (List.mem_of_mem_getLast? hx))
    rw [folded, htrim, hword]
  · intro h
    obtain ⟨front, back, hfront, hback, htext⟩ := exists_trim text.toList
    exact ⟨front, trim text.toList, back, htext, hfront, hback,
      (map_toLower_eq_iff c.toLower_label).1 h⟩

theorem folded_label (c : DataClass) : folded c.label = c.label.toList :=
  spells_iff.1 ⟨[], c.label.toList, [], by simp, nofun, nofun,
    (map_toLower_eq_iff c.toLower_label).1 c.toLower_label⟩

theorem ofJson?_text (text : String) : ofJson? (.text text) = (parse text).toOption := by
  show parse? text = _
  rw [parse]
  cases parse? text <;> rfl

/-- A text is read as a class exactly when it spells it, and otherwise it is given back in the fault.
The label of the class is then the text itself, cut and in lower case.  Every label is read as its
own class, texts are read as the same class when they come down to the same label, and inside JSON
the same texts stand for the same classes. -/
theorem parse_of_spelling (text : String) :
    (∀ c, parse text = .ok c ↔ Spells text c) ∧
      (parse text = .error (.invalidClass text) ↔ ∀ c, ¬Spells text c) ∧
      (∀ c, parse text = .ok c → c.label.toList = folded text) ∧
      (∀ c : DataClass, parse c.label = .ok c) ∧
      (∀ other, (∃ c, parse text = .ok c ∧ parse other = .ok c) ↔
        folded text = folded other ∧ ∃ c : DataClass, folded text = c.label.toList) ∧
      ofJson? (.text text) = (parse text).toOption := by
  have hspells : ∀ c, parse text = .ok c ↔ Spells text c := fun c => by
    rw [parse_eq_ok_iff, spells_iff]
  refine ⟨hspells, ?_, fun c hc => (parse_eq_ok_iff.1 hc).symm,
    fun c => parse_eq_ok_iff.2 c.folded_label, fun other => ?_, ofJson?_text text⟩
  · rw [parse_eq_error_iff]
    exact forall_congr' fun c => not_congr (hspells c)
  · constructor
    · rintro ⟨c, htext, hother⟩
      rw [parse_eq_ok_iff] at htext hother
      exact ⟨htext.trans hother.symm, c, htext⟩
    · rintro ⟨hsame, c, htext⟩
      exact ⟨c, parse_eq_ok_iff.2 htext, parse_eq_ok_iff.2 (hsame ▸ htext)⟩

/-- A no-break space and a line feed are cut off.  The long s, which other foldings take for an s, is
no letter of a label. -/
example : parse "\u00a0 MmS\n" = .ok .mms ∧
    parse "\u017fupl" = .error (.invalidClass "\u017fupl") := by
  decide +kernel

end DataClass

end DataPath
