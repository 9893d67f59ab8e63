import Mathlib.Tactic.LinearCombination
import NodusVision.Geometry.Homogeneous

/-! Right-handed rotations about the coordinate axes, by the cosine and the sine of the angle. -/
namespace NodusVision.Geometry
open Matrix

variable {R : Type*} [CommRing R]

/-- The axis is fixed; of the others, in cyclic order, the first turns towards the second. -/
def rotationAbout (axis : Fin 3) (c s : R) : Matrix (Fin 3) (Fin 3) R := fun i j =>
  if i = axis ∨ j = axis then (if i = j then 1 else 0)
  else if i = j then c
  else if i = j + 1 then s
  else -s

theorem rotationAbout_mem (axis : Fin 3) {c s : R} (h : c ^ 2 + s ^ 2 = 1) :
    rotationAbout axis c s ∈ specialOrthogonalGroup (Fin 3) R := by
  rw [mem_specialOrthogonalGroup_iff, mem_orthogonalGroup_iff]
  constructor
  · ext i j
    fin_cases axis <;> fin_cases i <;> fin_cases j <;>
      simp [rotationAbout, mul_apply, Fin.sum_univ_succ] <;>
      first | ring1 | linear_combination h
  · rw [det_fin_three]
    fin_cases axis <;> simp [rotationAbout] <;> linear_combination h

end NodusVision.Geometry
