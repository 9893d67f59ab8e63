import Mathlib.LinearAlgebra.UnitaryGroup
import Mathlib.Algebra.BigOperators.Fin

/-! Rigid motions as homogeneous matrices, whose last row is that of the identity. -/
namespace NodusVision.Geometry
open Matrix

variable {n : ℕ} {R : Type*} [CommRing R]

/-- The upper left block. -/
def linearPart (m : Matrix (Fin (n + 1)) (Fin (n + 1)) R) : Matrix (Fin n) (Fin n) R :=
  fun i j => m i.castSucc j.castSucc

/-- The upper part of the last column. -/
def translation (m : Matrix (Fin (n + 1)) (Fin (n + 1)) R) (i : Fin n) : R :=
  m i.castSucc (Fin.last n)

/-- A rotation followed by a translation. -/
structure IsRigid (m : Matrix (Fin (n + 1)) (Fin (n + 1)) R) : Prop where
  rotation : linearPart m ∈ specialOrthogonalGroup (Fin n) R
  lastRow : ∀ j : Fin n, m (Fin.last n) j.castSucc = 0
  corner : m (Fin.last n) (Fin.last n) = 1

variable {a b : Matrix (Fin (n + 1)) (Fin (n + 1)) R}

theorem linearPart_mul (hb : ∀ j : Fin n, b (Fin.last n) j.castSucc = 0) :
    linearPart (a * b) = linearPart a * linearPart b := by
  ext i j
  simp only [linearPart, mul_apply]
  rw [Fin.sum_univ_castSucc, hb, mul_zero, add_zero]

theorem isRigid_one : IsRigid (1 : Matrix (Fin (n + 1)) (Fin (n + 1)) R) := by
  constructor
  · have hone : linearPart (1 : Matrix (Fin (n + 1)) (Fin (n + 1)) R) = 1 := by
      ext i j
      simp [linearPart, one_apply]
    rw [hone]
    exact one_mem _
  · intro j
    exact one_apply_ne (Fin.castSucc_lt_last j).ne'
  · exact one_apply_eq _

theorem IsRigid.mul (ha : IsRigid a) (hb : IsRigid b) : IsRigid (a * b) := by
  constructor
  · rw [linearPart_mul hb.lastRow]
    exact mul_mem ha.rotation hb.rotation
  · intro j
    rw [mul_apply, Fin.sum_univ_castSucc, hb.lastRow, mul_zero, add_zero]
    apply Finset.sum_eq_zero
    intro k _
    rw [ha.lastRow, zero_mul]
  · rw [mul_apply, Fin.sum_univ_castSucc, ha.corner, hb.corner, mul_one]
    rw [Finset.sum_eq_zero, zero_add]
    intro k _
    rw [ha.lastRow, zero_mul]

/-- A pure rotation on the right leaves the translation. -/
theorem translation_mul (hb : IsRigid b) (hpure : ∀ i, translation b i = 0) :
    translation (a * b) = translation a := by
  funext i
  simp only [translation, mul_apply]
  rw [Fin.sum_univ_castSucc, hb.corner, mul_one]
  rw [Finset.sum_eq_zero, zero_add]
  intro k _
  have hk : b k.castSucc (Fin.last n) = 0 := hpure k
  rw [hk, mul_zero]

/-- The rows of the rotation are orthonormal. -/
theorem IsRigid.orthonormal (ha : IsRigid a) (i j : Fin n) :
    ∑ k : Fin n, a i.castSucc k.castSucc * a j.castSucc k.castSucc = if i = j then 1 else 0 := by
  have horthogonal := (mem_specialOrthogonalGroup_iff.mp ha.rotation).1
  have hmul := congrFun₂ ((mem_orthogonalGroup_iff (Fin n) R).mp horthogonal) i j
  rw [mul_apply, one_apply] at hmul
  exact hmul

theorem IsRigid.det (ha : IsRigid a) : (linearPart a).det = 1 :=
  (mem_specialOrthogonalGroup_iff.mp ha.rotation).2

/-- The matrix with these blocks. -/
def homogeneous (linear : Matrix (Fin n) (Fin n) R) (t : Fin n → R) :
    Matrix (Fin (n + 1)) (Fin (n + 1)) R := fun i j =>
  Fin.lastCases (Fin.lastCases 1 (fun _ => 0) j) (fun i => Fin.lastCases (t i) (linear i) j) i

@[simp] theorem linearPart_homogeneous (linear : Matrix (Fin n) (Fin n) R) (t : Fin n → R) :
    linearPart (homogeneous linear t) = linear := by
  ext i j
  simp [linearPart, homogeneous]

@[simp] theorem translation_homogeneous (linear : Matrix (Fin n) (Fin n) R) (t : Fin n → R) :
    translation (homogeneous linear t) = t := by
  funext i
  simp [translation, homogeneous]

theorem isRigid_homogeneous {linear : Matrix (Fin n) (Fin n) R}
    (h : linear ∈ specialOrthogonalGroup (Fin n) R) (t : Fin n → R) : IsRigid (homogeneous linear t) where
  rotation := by rwa [linearPart_homogeneous]
  lastRow := by simp [homogeneous]
  corner := by simp [homogeneous]

theorem homogeneous_mul (a b : Matrix (Fin n) (Fin n) R) (s t : Fin n → R) :
    homogeneous a s * homogeneous b t = homogeneous (a * b) (s + a *ᵥ t) := by
  ext i j
  rw [mul_apply, Fin.sum_univ_castSucc]
  induction i using Fin.lastCases with
  | last =>
    induction j using Fin.lastCases with
    | last => simp [homogeneous]
    | cast j => simp [homogeneous]
  | cast i =>
    induction j using Fin.lastCases with
    | last => simp [homogeneous, mulVec, dotProduct, add_comm]
    | cast j => simp [homogeneous, mul_apply]

/-- The motion of a point. -/
def motion (m : Matrix (Fin (n + 1)) (Fin (n + 1)) R) (point : Fin n → R) : Fin n → R :=
  translation m + linearPart m *ᵥ point

def squaredDistance (p q : Fin n → R) : R := (p - q) ⬝ᵥ (p - q)

variable {m : Matrix (Fin (n + 1)) (Fin (n + 1)) R}

theorem IsRigid.mul_transpose (hm : IsRigid m) : linearPart m * (linearPart m).transpose = 1 :=
  (mem_orthogonalGroup_iff (Fin n) R).mp (mem_specialOrthogonalGroup_iff.mp hm.rotation).1

theorem IsRigid.transpose_mul (hm : IsRigid m) : (linearPart m).transpose * linearPart m = 1 :=
  (mem_orthogonalGroup_iff' (Fin n) R).mp (mem_specialOrthogonalGroup_iff.mp hm.rotation).1

theorem IsRigid.squaredDistance (hm : IsRigid m) (p q : Fin n → R) :
    squaredDistance (motion m p) (motion m q) = Geometry.squaredDistance p q := by
  have hdifference : motion m p - motion m q = linearPart m *ᵥ (p - q) := by
    rw [motion, motion, mulVec_sub]
    abel
  rw [Geometry.squaredDistance, hdifference, dotProduct_mulVec, ← mulVec_transpose, mulVec_mulVec,
    hm.transpose_mul, one_mulVec]
  rfl

/-- The transposed rotation after the negated translation undoes the motion. -/
theorem IsRigid.undo (hm : IsRigid m) (p : Fin n → R) :
    (linearPart m).transpose *ᵥ (motion m p + -translation m) = p := by
  rw [motion, add_comm (translation m), add_neg_cancel_right, mulVec_mulVec, hm.transpose_mul, one_mulVec]

theorem IsRigid.redo (hm : IsRigid m) (p : Fin n → R) :
    motion m ((linearPart m).transpose *ᵥ (p + -translation m)) = p := by
  rw [motion, mulVec_mulVec, hm.mul_transpose, one_mulVec]
  abel

section
variable {K : Type*} [Field K] [LinearOrder K] [IsStrictOrderedRing K]
  {m : Matrix (Fin (n + 1)) (Fin (n + 1)) K}

/-- The entries of a rotation are at most one. -/
theorem IsRigid.abs_le_one (hm : IsRigid m) (i j : Fin n) : |m i.castSucc j.castSucc| ≤ 1 := by
  have hsum := hm.orthonormal i i
  rw [if_pos rfl] at hsum
  have hle : m i.castSucc j.castSucc * m i.castSucc j.castSucc ≤
      ∑ k : Fin n, m i.castSucc k.castSucc * m i.castSucc k.castSucc :=
    Finset.single_le_sum (f := fun k : Fin n => m i.castSucc k.castSucc * m i.castSucc k.castSucc)
      (fun k _ => mul_self_nonneg _) (Finset.mem_univ j)
  rw [hsum] at hle
  exact abs_le_one_iff_mul_self_le_one.mpr hle

end

end NodusVision.Geometry
