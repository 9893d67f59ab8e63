import Mathlib.Data.List.Basic
import Mathlib.Data.List.Nodup
import Mathlib.Data.List.Sort
import Mathlib.Data.Int.Notation
import Mathlib.Tactic.Ring
import NodusVision.Program.Throw

/-! Checked arithmetic of 32-bit integers, and loops that count over them. -/
namespace NodusVision.Program

/-- Signed overflow, which is undefined, or an exception. -/
inductive Fault where
  | overflow
  | outOfRange
  | invalidArgument (what : String)
  deriving DecidableEq

abbrev Checked (α : Type) := Except Fault α

/-- The result of an operation on `int`. -/
def int32 (value : ℤ) : Checked ℤ :=
  if -2 ^ 31 ≤ value ∧ value < 2 ^ 31 then .ok value else .error .overflow

/-- `items.at(index)` -/
def itemAt {α : Type} (items : List α) (index : ℤ) : Checked α :=
  if index < 0 then .error .outOfRange
  else
    match items[index.toNat]? with
    | some item => .ok item
    | none => .error .outOfRange

/-- `items.at(index) = item` -/
def writeAt {α : Type} (items : List α) (index : ℤ) (item : α) : Checked (List α) :=
  if 0 ≤ index ∧ index < items.length then .ok (items.set index.toNat item) else .error .outOfRange

theorem int32_ok {value : ℤ} (hlow : -2 ^ 31 ≤ value) (hhigh : value < 2 ^ 31) :
    int32 value = .ok value := if_pos ⟨hlow, hhigh⟩

theorem itemAt_ok {α : Type} {items : List α} {index : ℤ} (hlow : 0 ≤ index)
    (hhigh : index < items.length) :
    itemAt items index = .ok (items.get ⟨index.toNat, by omega⟩) := by
  have hbound : index.toNat < items.length := by omega
  rw [itemAt, if_neg (by omega), List.getElem?_eq_getElem hbound]
  rfl

theorem int32_eq {value result : ℤ} (h : int32 value = .ok result) : result = value := by
  unfold int32 at h
  split_ifs at h
  cases h
  rfl

theorem length_writeAt {α : Type} {items written : List α} {index : ℤ} {item : α}
    (h : writeAt items index item = .ok written) : written.length = items.length := by
  unfold writeAt at h
  split_ifs at h
  cases h
  rw [List.length_set]

section
variable {σ : Type} {high step : ℤ}

/-- `for (int x = low; x < high; x += step)` -/
def forLoop (high step : ℤ) (hstep : 0 < step) (body : ℤ → σ → Checked σ) (x : ℤ) (state : σ) :
    Checked σ :=
  if x < high then do
    let next ← body x state
    let _ ← int32 (x + step)
    forLoop high step hstep body (x + step) next
  else .ok state
termination_by (high - x).toNat

/-- The values of the counter. -/
def positions (low high step : ℤ) : List ℤ :=
  (List.range ((high - low + step - 1) / step).toNat).map fun i : ℕ => low + (i : ℤ) * step

theorem positions_of_le {low : ℤ} (hstep : 0 < step) (h : high ≤ low) : positions low high step = [] := by
  have hcount : (high - low + step - 1) / step ≤ 0 := by
    apply Int.le_of_lt_add_one
    apply Int.ediv_lt_of_lt_mul hstep
    omega
  rw [positions, Int.toNat_of_nonpos hcount]
  rfl

theorem positions_of_lt {low : ℤ} (hstep : 0 < step) (h : low < high) :
    positions low high step = low :: positions (low + step) high step := by
  have hcount : (high - low + step - 1) / step = (high - (low + step) + step - 1) / step + 1 := by
    rw [← Int.add_mul_ediv_right _ _ hstep.ne']
    congr 1
    omega
  have hnonneg : 0 ≤ (high - (low + step) + step - 1) / step :=
    Int.ediv_nonneg (by omega) hstep.le
  rw [positions, positions, hcount, Int.toNat_add hnonneg (by decide)]
  show (List.range (_ + 1)).map _ = _
  rw [List.range_succ_eq_map, List.map_cons, List.map_map]
  congr 1
  · simp
  · apply List.map_congr_left
    intro i _
    simp only [Function.comp_apply, Nat.succ_eq_add_one, Nat.cast_add, Nat.cast_one]
    ring

/-- A loop whose body succeeds at each of its positions is a fold over them. -/
theorem forLoop_eq {hstep : 0 < step} {body : ℤ → σ → Checked σ} {f : σ → ℤ → σ} {low : ℤ} {state : σ}
    (hlow : -2 ^ 31 ≤ low) (hhigh : high + step ≤ 2 ^ 31)
    (hbody : ∀ x state, low ≤ x → x < high → body x state = .ok (f state x)) :
    forLoop high step hstep body low state = .ok ((positions low high step).foldl f state) := by
  induction hn : (high - low).toNat using Nat.strong_induction_on generalizing low state with
  | _ n ih =>
    rw [forLoop]
    by_cases hlt : low < high
    · rw [if_pos hlt, hbody low state le_rfl hlt, positions_of_lt hstep hlt, List.foldl_cons]
      show (int32 (low + step) >>= _) = _
      rw [int32_ok (by omega) (by omega)]
      exact ih _ (by omega) (by omega) (fun x s hx => hbody x s (by omega)) rfl
    · rw [if_neg hlt, positions_of_le hstep (by omega)]
      rfl

/-- What each pass of the body keeps, the loop keeps. -/
theorem forLoop_keeps {P : σ → Prop} {hstep : 0 < step} {body : ℤ → σ → Checked σ} {low : ℤ} {state final : σ}
    (hbody : ∀ x state next, body x state = .ok next → P state → P next)
    (hrun : forLoop high step hstep body low state = .ok final) (h : P state) : P final := by
  induction hn : (high - low).toNat using Nat.strong_induction_on generalizing low state with
  | _ n ih =>
    rw [forLoop] at hrun
    split_ifs at hrun with hlt
    · obtain ⟨next, hnext, hrun⟩ := bind_eq_ok.mp hrun
      obtain ⟨_, -, hrun⟩ := bind_eq_ok.mp hrun
      exact ih _ (by omega) hrun (hbody _ _ _ hnext h) rfl
    · cases hrun
      exact h

theorem mem_positions {low x : ℤ} (hstep : 0 < step) :
    x ∈ positions low high step ↔ low ≤ x ∧ x < high ∧ step ∣ x - low := by
  rw [positions, List.mem_map]
  simp only [List.mem_range]
  constructor
  · rintro ⟨i, hi, rfl⟩
    have hcount : (i : ℤ) + 1 ≤ (high - low + step - 1) / step := by omega
    have hmul := (Int.le_ediv_iff_mul_le hstep).mp hcount
    have hi : 0 ≤ (i : ℤ) * step := Int.mul_nonneg (by omega) hstep.le
    have hsplit : ((i : ℤ) + 1) * step = i * step + step := by ring
    refine ⟨by omega, by omega, ?_⟩
    exact Dvd.intro_left (i : ℤ) (by omega)
  · rintro ⟨hlow, hhigh, k, hk⟩
    have hk0 : 0 ≤ k := by
      by_contra hneg
      have hle : step * k ≤ step * (-1) := Int.mul_le_mul_of_nonneg_left (by omega) hstep.le
      omega
    have hcount : k + 1 ≤ (high - low + step - 1) / step := by
      rw [Int.le_ediv_iff_mul_le hstep]
      have hsplit : (k + 1) * step = step * k + step := by ring
      omega
    refine ⟨k.toNat, by omega, ?_⟩
    rw [Int.toNat_of_nonneg hk0, Int.mul_comm]
    omega

theorem positions_increasing {low : ℤ} (hstep : 0 < step) :
    (positions low high step).Pairwise (· < ·) := by
  rw [positions, List.pairwise_map]
  apply List.pairwise_lt_range.imp
  intro i j hij
  have hmul : (i : ℤ) * step < j * step := Int.mul_lt_mul_of_pos_right (by omega) hstep
  omega

theorem length_positions (low : ℤ) :
    (positions low high step).length = ((high - low + step - 1) / step).toNat := by
  rw [positions, List.length_map, List.length_range]

/-- The positions of a larger step from zero are those that it divides. -/
theorem positions_filter (hstep : 0 < step) :
    positions 0 high step = (positions 0 high 1).filter fun x => decide (step ∣ x) := by
  apply @List.Perm.eq_of_pairwise ℤ (fun a b => a < b)
  · intro a b _ _ hab hba
    omega
  · exact positions_increasing hstep
  · exact (positions_increasing (by decide)).filter _
  · rw [List.perm_ext_iff_of_nodup]
    · intro x
      rw [List.mem_filter, mem_positions hstep, mem_positions (by decide), decide_eq_true_eq]
      simp [and_assoc]
    · exact (positions_increasing hstep).imp fun h => h.ne
    · exact ((positions_increasing (by decide)).imp fun h => h.ne).filter _

end

end NodusVision.Program
