import NodusVision.Geometry.CameraMountTransform

/-! The transform to the mount as the documented rigid motion. -/
namespace NodusVision.Guarantees
open Text Config Storage Program NodusVision.Geometry

section
variable {K : Type} [Field K] [LinearOrder K] [IsStrictOrderedRing K]

local instance neZero_three : NeZero 3 := ⟨by decide⟩

/-- Translation(x, y, z) * R_A1(r1) * R_A2(r2) * R_A3(r3) * O -/
def documentedMatrix (trig : Trigonometry K) (axes : Fin 3 → Fin 3) (t : MountLocalTransform) :
    Matrix4 K :=
  homogeneous 1 ![(t.x : K), t.y, t.z] * homogeneous (axisRotation trig (axes 0) t.r1) 0 *
    homogeneous (axisRotation trig (axes 1) t.r2) 0 * homogeneous (axisRotation trig (axes 2) t.r3) 0 *
    homogeneous opticalRotation 0

/-- The matrix is a rigid motion, and points move by it. In exact arithmetic the conversion to `float`
changes nothing. -/
structure MovesRigidly (transform : CameraMountTransform K) : Prop where
  orthonormal : linearPart transform.mountFromCameraOptical *
    (linearPart transform.mountFromCameraOptical).transpose = 1
  det : (linearPart transform.mountFromCameraOptical).det = 1
  lastRow : transform.mountFromCameraOptical 3 = ![0, 0, 0, 1]
  validated : validateMatrix transform.mountFromCameraOptical = .ok ()
  moved : ∀ point, (∀ row, |motion transform.mountFromCameraOptical point row| ≤ maxFloat) →
    transformCameraPointToMount id point transform = .ok (motion transform.mountFromCameraOptical point)
  isMotion : ∀ point moved, transformCameraPointToMount id point transform = .ok moved →
    moved = motion transform.mountFromCameraOptical point
  distance : ∀ p q, squaredDistance (motion transform.mountFromCameraOptical p)
    (motion transform.mountFromCameraOptical q) = squaredDistance p q
  undone : ∀ point, (linearPart transform.mountFromCameraOptical).transpose.mulVec
    (motion transform.mountFromCameraOptical point + -translation transform.mountFromCameraOptical) = point
  redone : ∀ point, motion transform.mountFromCameraOptical
    ((linearPart transform.mountFromCameraOptical).transpose.mulVec
      (point + -translation transform.mountFromCameraOptical)) = point

theorem transform_moves {transform : CameraMountTransform K}
    (hm : IsRigid transform.mountFromCameraOptical) : MovesRigidly transform := by
  have hmotion (point : Fin 3 → K) (row : Fin 3) : transform.mountFromCameraOptical row.castSucc 3 +
      ∑ column : Fin 3, transform.mountFromCameraOptical row.castSucc column.castSucc * point column =
      motion transform.mountFromCameraOptical point row := rfl
  have hfunction (point : Fin 3 → K) : transformCameraPointToMount id point transform =
      if ∃ row, maxFloat < motion transform.mountFromCameraOptical point row ∨
          motion transform.mountFromCameraOptical point row < -maxFloat then
        invalidMount "Camera mount point is outside float range."
      else .ok (motion transform.mountFromCameraOptical point) := by
    unfold transformCameraPointToMount
    rw [validateMatrix_rigid hm]
    simp only [hmotion, id_eq]
    rfl
  constructor
  · exact hm.mul_transpose
  · exact hm.det
  · funext j
    induction j using Fin.lastCases with
    | last => exact hm.corner
    | cast j =>
      have hzero := hm.lastRow j
      fin_cases j <;> exact hzero
  · exact validateMatrix_rigid hm
  · intro point hrange
    rw [hfunction, if_neg]
    rintro ⟨row, hlarge | hsmall⟩
    · exact absurd (abs_le.mp (hrange row)).2 (not_le.mpr hlarge)
    · exact absurd (abs_le.mp (hrange row)).1 (not_le.mpr hsmall)
  · intro point moved h
    rw [hfunction] at h
    split at h
    · cases h
    · cases h
      rfl
  · exact hm.squaredDistance
  · exact hm.undo
  · exact hm.redo

/-- For a supported Euler type the transform is the documented product, and moves points rigidly. -/
theorem mount_transform_documented (trig : Trigonometry K) {calibration : CalibrationConfig}
    (hid : calibration.calibrationId ≠ []) (hsensor : calibration.sensorFrame ≠ [])
    (hmount : calibration.mountFrame ≠ [])
    (heuler : isEulerTypeSupported calibration.mountLocalTransform.eulerType = true) :
    ∃ axes : Fin 3 → Fin 3,
      calibration.mountLocalTransform.eulerType = [0, 1, 2].map (fun i => axisLetter (axes i)) ∧
      ∃ transform, buildCameraMountTransform trig calibration = .ok transform ∧
        transform.mountFromCameraOptical =
          documentedMatrix trig axes calibration.mountLocalTransform ∧
        MovesRigidly transform := by
  obtain ⟨hlength, haxes⟩ := length_eulerType heuler
  generalize htransform : calibration.mountLocalTransform = t at hlength haxes
  obtain ⟨first, second, third, htype⟩ := List.length_eq_three.mp hlength
  rw [htype] at haxes
  obtain ⟨a, rfl⟩ := exists_axisLetter (haxes first (by simp))
  obtain ⟨b, rfl⟩ := exists_axisLetter (haxes second (by simp))
  obtain ⟨c, rfl⟩ := exists_axisLetter (haxes third (by simp))
  refine ⟨![a, b, c], htype, ?_⟩
  have hidentity : (makeIdentityMatrix : Matrix4 K) = homogeneous 1 0 := by
    ext i j
    fin_cases i <;> fin_cases j <;> rfl
  have hrotate : rotateAll trig makeIdentityMatrix (t.eulerType.zip [t.r1, t.r2, t.r3]) =
      .ok (homogeneous (1 * axisRotation trig a t.r1 * axisRotation trig b t.r2 *
        axisRotation trig c t.r3) 0) := by
    rw [hidentity, htype]
    exact rotateAll_eq trig 1 [(a, t.r1), (b, t.r2), (c, t.r3)]
  have hproduct : multiplyMatrices (withTranslation (homogeneous (1 * axisRotation trig a t.r1 *
      axisRotation trig b t.r2 * axisRotation trig c t.r3) 0) (t.x : K) t.y t.z)
      cameraBodyFromCameraOptical = documentedMatrix trig ![a, b, c] t := by
    rw [multiplyMatrices_eq, withTranslation_homogeneous, optical_eq, documentedMatrix]
    simp only [homogeneous_mul, Matrix.mulVec_zero, add_zero, Matrix.cons_val]
  have hrigid : IsRigid (documentedMatrix trig ![a, b, c] t) := by
    rw [documentedMatrix]
    have htranslation := isRigid_homogeneous (one_mem (Matrix.specialOrthogonalGroup (Fin 3) K))
      ![(t.x : K), t.y, t.z]
    have haxis (axis : Fin 3) (angle : ℚ) := isRigid_homogeneous (axisRotation_mem trig axis angle) 0
    exact (((htranslation.mul (haxis _ _)).mul (haxis _ _)).mul (haxis _ _)).mul
      (isRigid_homogeneous opticalRotation_mem 0)
  use {
    calibrationId := calibration.calibrationId
    sensorFrame := calibration.sensorFrame
    mountFrame := calibration.mountFrame
    mountFromCameraOptical := documentedMatrix trig ![a, b, c] t }
  refine ⟨?_, rfl, transform_moves hrigid⟩
  unfold buildCameraMountTransform
  simp only [htransform, hid, hsensor, hmount, hlength, ne_eq, not_true_eq_false, or_false, if_false]
  rw [hrotate]
  show (validateMatrix _ >>= fun _ => _) = _
  rw [hproduct, validateMatrix_rigid hrigid]
  rfl

end

/-- The angle of a triangle with the sides 3, 4 and 5. -/
def pythagorean : Trigonometry ℚ where
  cos := fun _ => 3 / 5
  sin := fun _ => 4 / 5
  unit := by
    intro _
    norm_num

def tiltedCalibration : CalibrationConfig where
  calibrationId := ascii "calibration"
  sensorFrame := ascii "optical"
  mountFrame := ascii "mount"
  mountLocalTransform := { x := 1, y := -2, z := 1 / 2, r1 := 1, r2 := 1, r3 := 1, eulerType := ascii "ZYX" }

theorem mount_transform_tilted : ∃ axes : Fin 3 → Fin 3,
    tiltedCalibration.mountLocalTransform.eulerType = [0, 1, 2].map (fun i => axisLetter (axes i)) ∧
    ∃ transform, buildCameraMountTransform pythagorean tiltedCalibration = .ok transform ∧
      transform.mountFromCameraOptical =
        documentedMatrix pythagorean axes tiltedCalibration.mountLocalTransform ∧
      MovesRigidly transform :=
  mount_transform_documented pythagorean (by decide) (by decide) (by decide) (by decide)

end NodusVision.Guarantees
