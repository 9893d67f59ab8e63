import Mathlib.Data.Multiset.Sort
import Mathlib.Order.Bounds.Basic
import Mathlib.Data.List.Pairwise

/-! The elements of a multiset by rank. -/
namespace NodusVision.Program

section
variable {D : Type*} [LinearOrder D] {elements : Multiset D}

theorem rank_mono {i j : ℕ} {a b : D} (ha : (elements.sort (· ≤ ·))[i]? = some a)
    (hb : (elements.sort (· ≤ ·))[j]? = some b) (hij : i ≤ j) : a ≤ b := by
  obtain ⟨hi, rfl⟩ := List.getElem?_eq_some_iff.mp ha
  obtain ⟨hj, rfl⟩ := List.getElem?_eq_some_iff.mp hb
  have hsorted := Multiset.pairwise_sort elements (· ≤ ·)
  exact hsorted.rel_get_of_le (a := ⟨i, hi⟩) (b := ⟨j, hj⟩) hij

theorem mem_of_rank {i : ℕ} {a : D} (ha : (elements.sort (· ≤ ·))[i]? = some a) : a ∈ elements :=
  (Multiset.mem_sort (· ≤ ·)).mp (List.mem_of_getElem? ha)

theorem exists_rank {a : D} (ha : a ∈ elements) :
    ∃ i < elements.card, (elements.sort (· ≤ ·))[i]? = some a := by
  obtain ⟨i, hi⟩ := List.mem_iff_getElem?.mp ((Multiset.mem_sort (· ≤ ·)).mpr ha)
  have hbound := (List.getElem?_eq_some_iff.mp hi).1
  rw [Multiset.length_sort] at hbound
  exact ⟨i, hbound, hi⟩

theorem isLeast_first {a : D} (ha : (elements.sort (· ≤ ·))[0]? = some a) :
    IsLeast {d | d ∈ elements} a := by
  constructor
  · exact mem_of_rank ha
  · intro d hd
    obtain ⟨i, -, hi⟩ := exists_rank hd
    exact rank_mono ha hi (Nat.zero_le i)

theorem isGreatest_last {a : D} (ha : (elements.sort (· ≤ ·))[elements.card - 1]? = some a) :
    IsGreatest {d | d ∈ elements} a := by
  constructor
  · exact mem_of_rank ha
  · intro d hd
    obtain ⟨i, hbound, hi⟩ := exists_rank hd
    exact rank_mono hi ha (by omega)

/-- A sorted list is the sorted multiset of its elements. -/
theorem eq_sort {keys : List D} (h : keys.Pairwise (· ≤ ·)) (hperm : (keys : Multiset D) = elements) :
    keys = elements.sort (· ≤ ·) := by
  have hsame : keys.Perm (elements.sort (· ≤ ·)) := by
    rw [← Multiset.coe_eq_coe, Multiset.sort_eq, hperm]
  exact List.Perm.eq_of_pairwise' (r := (· ≤ ·)) h (Multiset.pairwise_sort _ _) hsame

end

end NodusVision.Program
