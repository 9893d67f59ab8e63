import Mathlib.Data.Nat.ModEq

/-! Windows of a circular list of slots: the slots from a head on, in order. -/
namespace NodusVision.Program
variable {α : Type}

def slotAt (slots : List (Option α)) (head offset : ℕ) : Option α :=
  slots.getD ((head + offset) % slots.length) none

/-- The values in the first slots from the head on. -/
def window (slots : List (Option α)) (head : ℕ) : ℕ → List α
  | 0 => []
  | count + 1 => window slots head count ++ (slotAt slots head count).toList

/-- Exactly the slots of the window are filled. -/
structure IsWindow (slots : List (Option α)) (head count : ℕ) : Prop where
  fits : count ≤ slots.length
  filled : ∀ offset < slots.length, (slotAt slots head offset).isSome = true ↔ offset < count

variable {slots : List (Option α)} {head count : ℕ}

/-- Distinct offsets are distinct slots. -/
theorem offset_injective {capacity i j : ℕ} (hi : i < capacity) (hj : j < capacity)
    (h : (head + i) % capacity = (head + j) % capacity) : i = j := by
  have hmod : i ≡ j [MOD capacity] := Nat.ModEq.add_left_cancel' head h
  exact hmod.eq_of_lt_of_lt hi hj

theorem slotAt_set {value : Option α} {i offset : ℕ} (hi : i < slots.length)
    (ho : offset < slots.length) :
    slotAt (slots.set ((head + i) % slots.length) value) head offset =
      if offset = i then value else slotAt slots head offset := by
  have hpos : 0 < slots.length := Nat.zero_lt_of_lt hi
  have hbound : (head + i) % slots.length < slots.length := Nat.mod_lt _ hpos
  unfold slotAt
  rw [List.length_set, List.getD_eq_getElem?_getD, List.getD_eq_getElem?_getD]
  by_cases h : offset = i
  · rw [if_pos h, h, List.getElem?_set_self hbound, Option.getD_some]
  · have hne : (head + i) % slots.length ≠ (head + offset) % slots.length := by
      intro heq
      exact h (offset_injective hi ho heq).symm
    rw [if_neg h, List.getElem?_set_ne hne]

/-- The window after the head has moved. -/
theorem slotAt_succ (offset : ℕ) :
    slotAt slots ((head + 1) % slots.length) offset = slotAt slots head (offset + 1) := by
  unfold slotAt
  rw [Nat.mod_add_mod]
  congr 2
  omega

theorem slotAt_zero (h : head < slots.length) : slotAt slots head 0 = slots.getD head none := by
  unfold slotAt
  rw [Nat.add_zero, Nat.mod_eq_of_lt h]

theorem slotAt_wrap : slotAt slots head slots.length = slotAt slots head 0 := by
  unfold slotAt
  rw [Nat.add_mod_right, Nat.add_zero]

theorem window_congr {slots' : List (Option α)} {head' : ℕ}
    (h : ∀ offset < count, slotAt slots' head' offset = slotAt slots head offset) :
    window slots' head' count = window slots head count := by
  induction count with
  | zero => rfl
  | succ count ih =>
    have hlast := h count (Nat.lt_succ_self count)
    have hrest := ih fun offset ho => h offset (Nat.lt_succ_of_lt ho)
    show window slots' head' count ++ _ = window slots head count ++ _
    rw [hrest, hlast]

/-- The front value comes first. -/
theorem window_succ : window slots head (count + 1) =
    (slotAt slots head 0).toList ++ window slots ((head + 1) % slots.length) count := by
  induction count with
  | zero => exact (List.append_nil _).symm
  | succ count ih =>
    have hlast : window slots head (count + 1 + 1) =
        window slots head (count + 1) ++ (slotAt slots head (count + 1)).toList := rfl
    have hshift : window slots ((head + 1) % slots.length) (count + 1) =
        window slots ((head + 1) % slots.length) count ++
          (slotAt slots ((head + 1) % slots.length) count).toList := rfl
    rw [hlast, hshift, ih, slotAt_succ, List.append_assoc]

namespace IsWindow

theorem exists_value (h : IsWindow slots head count) {offset : ℕ} (ho : offset < count) :
    ∃ value, slotAt slots head offset = some value := by
  have hfits := h.fits
  exact Option.isSome_iff_exists.mp ((h.filled offset (by omega)).mpr ho)

theorem length_window (h : IsWindow slots head count) : (window slots head count).length = count := by
  have hall : ∀ n ≤ count, (window slots head n).length = n := by
    intro n hn
    induction n with
    | zero => rfl
    | succ n ih =>
      obtain ⟨value, hvalue⟩ := h.exists_value (show n < count by omega)
      show (window slots head n ++ _).length = n + 1
      rw [hvalue, List.length_append, ih (by omega)]
      rfl
  exact hall count le_rfl

/-- A value is put behind the window. -/
theorem push (h : IsWindow slots head count) (hroom : count < slots.length) (value : α) :
    IsWindow (slots.set ((head + count) % slots.length) (some value)) head (count + 1) := by
  constructor
  · rw [List.length_set]
    exact hroom
  · intro offset ho
    rw [List.length_set] at ho
    rw [slotAt_set hroom ho]
    by_cases hlast : offset = count
    · rw [if_pos hlast, hlast]
      constructor
      · intro _
        exact Nat.lt_succ_self count
      · intro _
        rfl
    · rw [if_neg hlast, h.filled offset ho]
      omega

theorem window_push (hroom : count < slots.length) (value : α) :
    window (slots.set ((head + count) % slots.length) (some value)) head (count + 1) =
      window slots head count ++ [value] := by
  have hsame : window (slots.set ((head + count) % slots.length) (some value)) head count =
      window slots head count := by
    apply window_congr
    intro offset ho
    rw [slotAt_set hroom (by omega), if_neg (by omega)]
  show window _ head count ++ (slotAt _ head count).toList = _
  rw [hsame, slotAt_set hroom hroom, if_pos rfl]
  rfl

/-- The slots behind the front, after the front was emptied. -/
theorem slotAt_pop {offset : ℕ} (hhead : head < slots.length) (ho : offset + 1 < slots.length) :
    slotAt (slots.set head none) ((head + 1) % slots.length) offset =
      slotAt slots head (offset + 1) := by
  have hlength : (slots.set head none).length = slots.length := List.length_set
  have hset : slotAt (slots.set ((head + 0) % slots.length) none) head (offset + 1) =
      if offset + 1 = 0 then none else slotAt slots head (offset + 1) :=
    slotAt_set (by omega) ho
  rw [Nat.add_zero, Nat.mod_eq_of_lt hhead, if_neg (Nat.succ_ne_zero offset)] at hset
  rw [← hset, ← hlength]
  exact slotAt_succ offset

/-- The front is taken out of the window. -/
theorem pop (h : IsWindow slots head (count + 1)) (hhead : head < slots.length) :
    IsWindow (slots.set head none) ((head + 1) % slots.length) count := by
  have hfits := h.fits
  constructor
  · rw [List.length_set]
    omega
  · intro offset ho
    rw [List.length_set] at ho
    by_cases hlast : offset + 1 < slots.length
    · rw [slotAt_pop hhead hlast, h.filled (offset + 1) hlast]
      omega
    · have hwrap : offset + 1 = slots.length := by omega
      have hlength : (slots.set head none).length = slots.length := List.length_set
      have hempty : slotAt (slots.set head none) ((head + 1) % slots.length) offset =
          none := by
        rw [← hlength, slotAt_succ, hwrap, ← hlength, slotAt_wrap, slotAt_zero (hlength ▸ hhead),
          List.getD_eq_getElem?_getD, List.getElem?_set_self hhead]
        rfl
      rw [hempty]
      constructor
      · intro hsome
        cases hsome
      · intro hlt
        omega

/-- Taking the front leaves the other values in order. -/
theorem window_pop (h : IsWindow slots head (count + 1)) (hhead : head < slots.length) :
    ∃ value, slots.getD head none = some value ∧ window slots head (count + 1) =
      value :: window (slots.set head none) ((head + 1) % slots.length) count := by
  have hfits := h.fits
  obtain ⟨value, hvalue⟩ := h.exists_value (Nat.succ_pos count)
  refine ⟨value, ?_, ?_⟩
  · rw [← slotAt_zero hhead]
    exact hvalue
  · have hrest : window (slots.set head none) ((head + 1) % slots.length) count =
        window slots ((head + 1) % slots.length) count := by
      apply window_congr
      intro offset ho
      rw [slotAt_pop hhead (by omega), slotAt_succ]
    rw [window_succ, hvalue, hrest]
    rfl

end IsWindow

/-- No slot is filled. -/
theorem isWindow_replicate (capacity head : ℕ) :
    IsWindow (List.replicate capacity (none : Option α)) head 0 := by
  constructor
  · exact Nat.zero_le _
  · intro offset ho
    have hempty : slotAt (List.replicate capacity (none : Option α)) head offset = none := by
      unfold slotAt
      rw [List.getD_eq_getElem?_getD, List.getElem?_replicate]
      split
      · rfl
      · rfl
    rw [hempty]
    constructor
    · intro hsome
      cases hsome
    · intro hlt
      omega

end NodusVision.Program
