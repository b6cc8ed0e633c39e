import DataPath.ClassSet
import Mathlib.Data.List.Perm.Subperm

/-!
# Counting the members of class sets

`toList` lists every member once, so its length is the number of members.  A set grows
by at most one member with an `insert`, and does not grow with an `erase`.
-/

namespace DataPath.ClassSet

@[simp] theorem toList_empty : (∅ : ClassSet).toList = [] := by decide

/-- A set whose members all belong to another is listed by a list that is not longer. -/
theorem length_toList_le_of_subset {s t : ClassSet} (h : ∀ c ∈ s, c ∈ t) :
    s.toList.length ≤ t.toList.length := by
  refine List.Subperm.length_le (List.Nodup.subperm s.nodup_toList ?_)
  intro c hc
  exact mem_toList.2 (h c (mem_toList.1 hc))

theorem length_toList_insert_le (s : ClassSet) (c : DataClass) :
    (s.insert c).toList.length ≤ s.toList.length + 1 := by
  have hsub : (s.insert c).toList ⊆ c :: s.toList := by
    intro a ha
    rcases mem_insert.1 (mem_toList.1 ha) with rfl | h
    · exact List.mem_cons_self
    · exact List.mem_cons_of_mem _ (mem_toList.2 h)
  exact (List.Nodup.subperm (nodup_toList _) hsub).length_le

theorem length_toList_erase_le (s : ClassSet) (c : DataClass) :
    (s.erase c).toList.length ≤ s.toList.length :=
  length_toList_le_of_subset fun _ ha => (mem_erase.1 ha).2

/-- There are ten classes. -/
theorem length_toList_le_ten (s : ClassSet) : s.toList.length ≤ 10 := by
  have h : s.toList.length ≤ DataClass.all.length := List.length_filter_le _ _
  exact h

/-- The members are listed in the order of their labels. -/
theorem pairwise_toList (s : ClassSet) : s.toList.Pairwise fun c d => c.label < d.label :=
  List.Pairwise.filter _ (by decide +kernel)

theorem exists_mem_of_not_isEmpty {s : ClassSet} (h : s.isEmpty ≠ true) : ∃ c, c ∈ s := by
  by_contra hn
  exact h (isEmpty_iff.2 fun c hc => hn ⟨c, hc⟩)

theorem toList_ne_nil {s : ClassSet} (h : ∃ c, c ∈ s) : s.toList ≠ [] := by
  obtain ⟨c, hc⟩ := h
  exact List.ne_nil_of_mem (mem_toList.2 hc)

theorem eq_empty_iff {s : ClassSet} : s = ∅ ↔ ∀ c, c ∉ s := by
  rw [← isEmpty_iff]
  simp [isEmpty]

end DataPath.ClassSet
