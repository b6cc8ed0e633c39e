import DataPath.Json.Decode
import DataPath.Proofs.Json.Text
import Mathlib.Data.List.Nodup

/-!
# Values that stand for something

An encoder and a decoder agree on something when the value that the one writes is what the other
takes for it.  To survive a text the value must also be plain: no string in it may fail to be a
text, and no number may be out of range.  `Denotes` is both at once.  It is put together the way
encoders put values together: numbers, lists, what may be `null`, and records.

A record is written as an object that has each of its fields once.  So a decoder is given every
field it asks for (`pick?_record`): no default is taken, and no repetition is refused.
-/

namespace DataPath.Json

variable {α : Type} {decode : Json → Option α} {encode : α → Json} {v : Json} {a : α}

/-- A value stands for something: it is decoded to it, and everything in the value can be printed. -/
structure Denotes (decode : Json → Option α) (v : Json) (a : α) : Prop where
  decoded : decode v = some a
  plain : v.isPlain = true

/-- Something comes back from the value it is encoded in, and from the text of that value. -/
structure Survives (decode : Json → Option α) (v : Json) (a : α) : Prop where
  value : decode v = some a
  text : (parse? v.indented).bind decode = some a

theorem Denotes.survives (h : Denotes decode v a) : Survives decode v a where
  value := h.decoded
  text := by rw [parse?_indented h.plain, Option.bind_some, h.decoded]

/-! ## Numbers, lists and options -/

/-- Every number of eight bytes lies in the range of double precision. -/
theorem maxWord_lt_limit : maxWord < Number.limit := by decide +kernel

theorem denotes_nat {bound n : Nat} (hn : n ≤ bound) (hbound : bound ≤ maxWord) :
    Denotes (natUpTo? bound) (.nat n) n where
  decoded := if_pos hn
  plain := by
    rw [nat, isPlain, Number.isFinite, decide_eq_true_eq, Int.natAbs_natCast]
    exact Nat.lt_of_le_of_lt (hn.trans hbound) maxWord_lt_limit

/-- When each element is taken to something, the list is taken to the list of that. -/
theorem mapM_eq_some_map {β γ : Type} {f : β → Option γ} {g : β → γ} {bs : List β}
    (h : ∀ b ∈ bs, f b = some (g b)) : bs.mapM f = some (bs.map g) := by
  induction bs with
  | nil => rfl
  | cons b bs ih =>
    obtain ⟨hb, hbs⟩ := List.forall_mem_cons.1 h
    rw [List.mapM_cons, hb, ih hbs]
    rfl

/-- A list stands for a list when its elements do. -/
theorem denotes_list {as : List α} (h : ∀ a ∈ as, Denotes decode (encode a) a) :
    Denotes (list? decode) (.list (as.map encode)) as where
  decoded := by
    have hmap := mapM_eq_some_map (f := decode ∘ encode) (g := id) fun a ha => (h a ha).decoded
    rw [list?, List.mapM_map, hmap, List.map_id]
  plain := isPlainList_iff.2 (List.forall_mem_map.2 fun a ha => (h a ha).plain)

/-- What is optional may be `null`, when nothing that is there is encoded as `null`. -/
theorem denotes_orNull {a : Option α} (h : ∀ b ∈ a, Denotes decode (encode b) b)
    (hnull : ∀ b, encode b ≠ .null) : Denotes (nullable? decode) (orNull encode a) a := by
  cases a with
  | none => exact ⟨rfl, rfl⟩
  | some b =>
    refine ⟨?_, (h b rfl).plain⟩
    rw [orNull, nullable?, (h b rfl).decoded]
    · rfl
    · exact hnull b

/-! ## Records -/

variable {fields : List (String × Json)} {names : List String}

/-- A field of a record has its value once. -/
theorem givenOnce?_record {f : String × Json} (hf : f ∈ fields)
    (hnodup : (fields.map Prod.fst).Nodup) :
    givenOnce? (fields.map fun f => (some f.1, f.2)) f.1 = some (some f.2) := by
  have hgiven : given (fields.map fun f => (some f.1, f.2)) f.1 = [f.2] := by
    induction fields with
    | nil => cases hf
    | cons g fields ih =>
      rw [List.map_cons, List.nodup_cons] at hnodup
      obtain ⟨hg, hnodup⟩ := hnodup
      rcases List.mem_cons.1 hf with rfl | hf
      · have hrest : ∀ e ∈ fields, ¬e.1 = f.1 := fun e he heq => hg (heq ▸ List.mem_map_of_mem he)
        have hnone : fields.filter (fun e => decide (e.1 = f.1)) = [] := by simpa using hrest
        simp [given, List.filter_map, Function.comp_def, hnone]
      · have hne : ¬g.1 = f.1 := fun heq => hg (heq ▸ List.mem_map_of_mem hf)
        have hgiven := ih hf hnodup
        simp only [given, List.map_cons] at hgiven ⊢
        rwa [List.filter_cons_of_neg (by simpa using hne)]
  rw [givenOnce?, hgiven]

/-- All the fields of a record are given. -/
theorem pick?_record (hnames : fields.map Prod.fst = names) (hnodup : names.Nodup) :
    pick? names (.record fields) = some (fields.map fun f => some f.2) := by
  subst hnames
  rw [record, pick?, if_pos (by simp), List.mapM_map]
  exact mapM_eq_some_map fun f hf => givenOnce?_record hf hnodup

/-- A record is plain when its fields are. -/
theorem isPlain_record (h : ∀ f ∈ fields, f.2.isPlain = true) : (record fields).isPlain = true :=
  isPlainFields_iff.2 (List.forall_mem_map.2 fun f hf => ⟨rfl, h f hf⟩)

theorem depthFields_le {fs : List (Option String × Json)} {d : Nat}
    (h : ∀ f ∈ fs, f.2.depth ≤ d) : depthFields fs ≤ d := by
  induction fs with
  | nil => exact Nat.zero_le d
  | cons f fs ih =>
    obtain ⟨hf, hfs⟩ := List.forall_mem_cons.1 h
    exact Nat.max_le.2 ⟨hf, ih hfs⟩

theorem depth_record_le {d : Nat} (h : ∀ f ∈ fields, f.2.depth ≤ d) :
    (record fields).depth ≤ d + 1 :=
  Nat.succ_le_succ (depthFields_le (List.forall_mem_map.2 h))

end DataPath.Json
