import DataPath.DataClass

/-!
# Sets of data classes

There are ten classes, so a set of them is a word of ten bits, one for each class.
Two sets with the same members are equal (`ext`), and `toList` lists the members in
the order of their labels.  Each operation is described by the members of its
result; nothing outside this module looks at the bits.
-/

namespace DataPath

/-- The place of a class among the ten. -/
def DataClass.rank : DataClass → Nat
  | .cbs => 0
  | .default => 1
  | .dun => 2
  | .emergency => 3
  | .fota => 4
  | .hipri => 5
  | .ia => 6
  | .ims => 7
  | .mms => 8
  | .supl => 9

theorem DataClass.rank_lt (c : DataClass) : c.rank < 10 := by cases c <;> decide

/-- Every place among the ten is that of a class. -/
theorem DataClass.exists_rank {i : Nat} (hi : i < 10) : ∃ c : DataClass, c.rank = i := by
  have hall : ∀ i < 10, ∃ c ∈ DataClass.all, c.rank = i := by decide
  obtain ⟨c, -, hc⟩ := hall i hi
  exact ⟨c, hc⟩

theorem DataClass.rank_inj {a b : DataClass} : a.rank = b.rank ↔ a = b := by
  cases a <;> cases b <;> decide

/-- A set of data classes. -/
structure ClassSet where
  /-- One bit for each class, at the rank of the class. -/
  bits : BitVec 10
  deriving DecidableEq, Repr

namespace ClassSet

/-- Whether a class is a member. -/
def contains (s : ClassSet) (c : DataClass) : Bool := s.bits.getLsbD c.rank

instance : Membership DataClass ClassSet where
  mem s c := s.contains c = true

instance (c : DataClass) (s : ClassSet) : Decidable (c ∈ s) :=
  inferInstanceAs (Decidable (s.contains c = true))

theorem mem_iff {c : DataClass} {s : ClassSet} : c ∈ s ↔ s.contains c = true := Iff.rfl

/-- The set with no member. -/
def empty : ClassSet := ⟨0⟩

instance : EmptyCollection ClassSet := ⟨empty⟩

instance : Inhabited ClassSet := ⟨∅⟩

/-- The set with one more member. -/
def insert (s : ClassSet) (c : DataClass) : ClassSet := ⟨s.bits ||| BitVec.twoPow 10 c.rank⟩

/-- The set without a member. -/
def erase (s : ClassSet) (c : DataClass) : ClassSet := ⟨s.bits &&& ~~~BitVec.twoPow 10 c.rank⟩

/-- The members of the first set that are not in the second. -/
def diff (s t : ClassSet) : ClassSet := ⟨s.bits &&& ~~~t.bits⟩

/-- Whether the set has no member. -/
def isEmpty (s : ClassSet) : Bool := s = ∅

/-- The members, in the order of their labels. -/
def toList (s : ClassSet) : List DataClass := DataClass.all.filter s.contains

/-- The set of the classes in a list. -/
def ofList (cs : List DataClass) : ClassSet := cs.foldl insert ∅

/-- Whether a class other than the default one is a member. -/
def hasNonDefault (s : ClassSet) : Bool := s.toList.any fun c => !c.isDefault

@[simp] theorem not_mem_empty (c : DataClass) : c ∉ (∅ : ClassSet) := by
  change ¬(BitVec.getLsbD (0 : BitVec 10) c.rank = true)
  simp

@[simp] theorem mem_insert {s : ClassSet} {a c : DataClass} : a ∈ s.insert c ↔ a = c ∨ a ∈ s := by
  simp only [mem_iff, contains, insert, BitVec.getLsbD_or, BitVec.getLsbD_twoPow, Bool.or_eq_true,
    Bool.and_eq_true, decide_eq_true_eq, c.rank_lt, true_and, DataClass.rank_inj]
  constructor
  · rintro (h | h)
    · exact .inr h
    · exact .inl h.symm
  · rintro (rfl | h)
    · exact .inr rfl
    · exact .inl h

@[simp] theorem mem_erase {s : ClassSet} {a c : DataClass} : a ∈ s.erase c ↔ a ≠ c ∧ a ∈ s := by
  simp only [mem_iff, contains, erase, BitVec.getLsbD_and, BitVec.getLsbD_not,
    BitVec.getLsbD_twoPow, Bool.and_eq_true, Bool.not_eq_true', a.rank_lt, c.rank_lt, decide_true,
    Bool.true_and, decide_eq_false_iff_not, DataClass.rank_inj]
  constructor
  · rintro ⟨h, n⟩
    exact ⟨fun e => n e.symm, h⟩
  · rintro ⟨n, h⟩
    exact ⟨h, fun e => n e.symm⟩

@[simp] theorem mem_diff {s t : ClassSet} {c : DataClass} : c ∈ s.diff t ↔ c ∈ s ∧ c ∉ t := by
  simp [mem_iff, contains, diff, c.rank_lt]

@[simp] theorem mem_toList {s : ClassSet} {c : DataClass} : c ∈ s.toList ↔ c ∈ s := by
  simp [toList, DataClass.mem_all, mem_iff]

theorem mem_foldl_insert {cs : List DataClass} {s : ClassSet} {c : DataClass} :
    c ∈ cs.foldl insert s ↔ c ∈ s ∨ c ∈ cs := by
  induction cs generalizing s with
  | nil => simp
  | cons d cs ih =>
    rw [List.foldl_cons, ih, mem_insert, List.mem_cons, or_comm (a := c = d), or_assoc]

@[simp] theorem mem_ofList {cs : List DataClass} {c : DataClass} : c ∈ ofList cs ↔ c ∈ cs := by
  rw [ofList, mem_foldl_insert]
  exact or_iff_right (not_mem_empty c)

theorem nodup_toList (s : ClassSet) : s.toList.Nodup :=
  List.Nodup.sublist List.filter_sublist (by decide)

/-- Two sets with the same members are equal. -/
@[ext] theorem ext {s t : ClassSet} (h : ∀ c, c ∈ s ↔ c ∈ t) : s = t := by
  obtain ⟨a⟩ := s
  obtain ⟨b⟩ := t
  congr 1
  apply BitVec.eq_of_getLsbD_eq
  intro i hi
  obtain ⟨c, rfl⟩ := DataClass.exists_rank hi
  exact Bool.eq_iff_iff.2 (h c)

/-- A set is empty when it has no member. -/
theorem isEmpty_iff {s : ClassSet} : s.isEmpty = true ↔ ∀ c, c ∉ s := by
  simp only [isEmpty, decide_eq_true_eq]
  constructor
  · rintro rfl c
    exact not_mem_empty c
  · intro h
    ext c
    simp [h c]

end ClassSet

end DataPath
