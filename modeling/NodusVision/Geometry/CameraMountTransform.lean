import NodusVision.Config.Accepted
import NodusVision.Geometry.Rotations
import NodusVision.Storage.Disk

/-! The fixed transform from the camera to the mount, over the exact numbers of an ordered field. -/
namespace NodusVision.Geometry
open Text Config Storage Program

variable {K : Type} [Field K]

/-- A row-major `std::array<double, 16>` -/
abbrev Matrix4 (K : Type) := Matrix (Fin 4) (Fin 4) K

/-- `std::cos` and `std::sin` of the angles of the configuration. -/
structure Trigonometry (K : Type) [Field K] where
  cos : ℚ → K
  sin : ℚ → K
  unit : ∀ angle, cos angle ^ 2 + sin angle ^ 2 = 1

structure CameraMountTransform (K : Type) where
  calibrationId : ByteString
  sensorFrame : ByteString
  mountFrame : ByteString
  mountFromCameraOptical : Matrix4 K

def rotationTolerance : K := 1 / 1000000000

def invalidMount {α : Type} (what : String) : Except Exception α := .error (.invalidArgument what)

def makeIdentityMatrix : Matrix4 K :=
  !![1, 0, 0, 0; 0, 1, 0, 0; 0, 0, 1, 0; 0, 0, 0, 1]

def multiplyMatrices (lhs rhs : Matrix4 K) : Matrix4 K := fun row column =>
  ∑ index, lhs row index * rhs index column

def makeAxisRotation (trig : Trigonometry K) (axis : UInt8) (angle : ℚ) :
    Except Exception (Matrix4 K) :=
  let c := trig.cos angle
  let s := trig.sin angle
  if axis = 88 then .ok !![1, 0, 0, 0; 0, c, -s, 0; 0, s, c, 0; 0, 0, 0, 1]
  else if axis = 89 then .ok !![c, 0, s, 0; 0, 1, 0, 0; -s, 0, c, 0; 0, 0, 0, 1]
  else if axis = 90 then .ok !![c, -s, 0, 0; s, c, 0, 0; 0, 0, 1, 0; 0, 0, 0, 1]
  else invalidMount "Camera mount Euler axis is invalid."

/-- Exact numbers are finite. -/
def validateMatrix [LinearOrder K] (matrix : Matrix4 K) : Except Exception Unit :=
  if rotationTolerance < |matrix 3 0| ∨ rotationTolerance < |matrix 3 1| ∨
      rotationTolerance < |matrix 3 2| ∨ rotationTolerance < |matrix 3 3 - 1| then
    invalidMount "Camera mount matrix homogeneous row is invalid."
  else if ∃ row column : Fin 3, rotationTolerance <
      |∑ index : Fin 3, matrix row.castSucc index.castSucc * matrix column.castSucc index.castSucc -
        if row = column then 1 else 0| then
    invalidMount "Camera mount rotation is not orthonormal."
  else
    let determinant :=
      matrix 0 0 * (matrix 1 1 * matrix 2 2 - matrix 1 2 * matrix 2 1) -
        matrix 0 1 * (matrix 1 0 * matrix 2 2 - matrix 1 2 * matrix 2 0) +
        matrix 0 2 * (matrix 1 0 * matrix 2 1 - matrix 1 1 * matrix 2 0)
    if rotationTolerance < |determinant - 1| then
      invalidMount "Camera mount rotation determinant is invalid."
    else .ok ()

/-- The rotations about the axes in order. -/
def rotateAll (trig : Trigonometry K) (matrix : Matrix4 K) :
    List (UInt8 × ℚ) → Except Exception (Matrix4 K)
  | [] => .ok matrix
  | (axis, angle) :: rest => do
    let rotation ← makeAxisRotation trig axis angle
    rotateAll trig (multiplyMatrices matrix rotation) rest

/-- The assignments to the last column. -/
def withTranslation (matrix : Matrix4 K) (x y z : K) : Matrix4 K := fun row column =>
  if column = 3 then ![x, y, z, matrix 3 3] row else matrix row column

def cameraBodyFromCameraOptical : Matrix4 K :=
  !![1, 0, 0, 0; 0, 0, 1, 0; 0, -1, 0, 0; 0, 0, 0, 1]

def buildCameraMountTransform [LinearOrder K] (trig : Trigonometry K) (calibration : CalibrationConfig) :
    Except Exception (CameraMountTransform K) :=
  let transform := calibration.mountLocalTransform
  if calibration.calibrationId = [] ∨ calibration.sensorFrame = [] ∨ calibration.mountFrame = [] ∨
      transform.eulerType.length ≠ 3 then
    invalidMount "Camera mount calibration is invalid."
  else do
    let rotated ← rotateAll trig makeIdentityMatrix
      (transform.eulerType.zip [transform.r1, transform.r2, transform.r3])
    let mountFromCameraBody := withTranslation rotated transform.x transform.y transform.z
    let matrix := multiplyMatrices mountFromCameraBody cameraBodyFromCameraOptical
    validateMatrix matrix
    .ok {
      calibrationId := calibration.calibrationId
      sensorFrame := calibration.sensorFrame
      mountFrame := calibration.mountFrame
      mountFromCameraOptical := matrix }

/-- `std::numeric_limits<float>::max()` -/
def maxFloat : K := 2 ^ 128 - 2 ^ 104

/-- The first three rows, in the order of the conversion of their values. -/
def matrix3x4 (matrix : Matrix4 K) : List K :=
  (List.finRange 3).flatMap fun row => (List.finRange 4).map (matrix row.castSucc)

/-- With the conversion to `float` as a parameter. -/
def buildMountFromCameraMatrix3x4 [LinearOrder K] (toFloat : K → K) (transform : CameraMountTransform K) :
    Except Exception (List K) := do
  validateMatrix transform.mountFromCameraOptical
  (matrix3x4 transform.mountFromCameraOptical).mapM fun value =>
    if maxFloat < value ∨ value < -maxFloat then
      invalidMount "Camera mount matrix is outside float range."
    else .ok (toFloat value)

/-- The conversion to `float` is a parameter; a row out of range makes it throw. -/
def transformCameraPointToMount [LinearOrder K] (toFloat : K → K) (pointCameraOptical : Fin 3 → K)
    (transform : CameraMountTransform K) : Except Exception (Fin 3 → K) := do
  validateMatrix transform.mountFromCameraOptical
  let transformed : Fin 3 → K := fun row =>
    transform.mountFromCameraOptical row.castSucc 3 +
      ∑ column : Fin 3, transform.mountFromCameraOptical row.castSucc column.castSucc *
        pointCameraOptical column
  if ∃ row, maxFloat < transformed row ∨ transformed row < -maxFloat then
    invalidMount "Camera mount point is outside float range."
  else .ok fun row => toFloat (transformed row)

theorem multiplyMatrices_eq (lhs rhs : Matrix4 K) : multiplyMatrices lhs rhs = lhs * rhs := by
  ext row column
  rw [Matrix.mul_apply, multiplyMatrices]

theorem makeIdentityMatrix_eq : (makeIdentityMatrix : Matrix4 K) = 1 := by
  ext i j
  fin_cases i <;> fin_cases j <;> simp [makeIdentityMatrix]

/-- The letters of the Euler types. -/
def axisLetter (axis : Fin 3) : UInt8 := ![88, 89, 90] axis

def axisRotation (trig : Trigonometry K) (axis : Fin 3) (angle : ℚ) : Matrix (Fin 3) (Fin 3) K :=
  rotationAbout axis (trig.cos angle) (trig.sin angle)

/-- The rotation about each axis is the right-handed one, without translation. -/
theorem makeAxisRotation_eq (trig : Trigonometry K) (axis : Fin 3) (angle : ℚ) :
    makeAxisRotation trig (axisLetter axis) angle = .ok (homogeneous (axisRotation trig axis angle) 0) := by
  have hentries {a b : Matrix4 K} (h : ∀ i j, a i j = b i j) :
      (Except.ok a : Except Exception (Matrix4 K)) = .ok b := congrArg Except.ok (Matrix.ext h)
  fin_cases axis
  all_goals
    apply hentries
    intro i j
    fin_cases i <;> fin_cases j <;> rfl

theorem axisRotation_mem (trig : Trigonometry K) (axis : Fin 3) (angle : ℚ) :
    axisRotation trig axis angle ∈ Matrix.specialOrthogonalGroup (Fin 3) K :=
  rotationAbout_mem axis (trig.unit angle)

theorem exists_axisLetter {letter : UInt8} (h : letter = 88 ∨ letter = 89 ∨ letter = 90) :
    ∃ axis, letter = axisLetter axis := by
  rcases h with rfl | rfl | rfl
  · exact ⟨0, rfl⟩
  · exact ⟨1, rfl⟩
  · exact ⟨2, rfl⟩

/-- The rotation about each axis is a rotation without translation. -/
theorem makeAxisRotation_rigid (trig : Trigonometry K) (angle : ℚ) {axis : UInt8}
    (haxis : axis = 88 ∨ axis = 89 ∨ axis = 90) :
    ∃ rotation, makeAxisRotation trig axis angle = .ok rotation ∧ IsRigid rotation ∧
      ∀ i, translation rotation i = 0 := by
  obtain ⟨k, rfl⟩ := exists_axisLetter haxis
  refine ⟨_, makeAxisRotation_eq trig k angle, isRigid_homogeneous (axisRotation_mem trig k angle) 0, ?_⟩
  intro i
  rw [translation_homogeneous]
  rfl

theorem rotateAll_rigid (trig : Trigonometry K) {matrix : Matrix4 K} {steps : List (UInt8 × ℚ)}
    (haxes : ∀ step ∈ steps, step.1 = 88 ∨ step.1 = 89 ∨ step.1 = 90) (hm : IsRigid matrix) :
    ∃ rotated, rotateAll trig matrix steps = .ok rotated ∧ IsRigid rotated := by
  induction steps generalizing matrix with
  | nil => exact ⟨matrix, rfl, hm⟩
  | cons step rest ih =>
    obtain ⟨rotation, heq, hrigid, -⟩ :=
      makeAxisRotation_rigid trig step.2 (haxes step List.mem_cons_self)
    have hnext : IsRigid (multiplyMatrices matrix rotation) := by
      rw [multiplyMatrices_eq]
      exact hm.mul hrigid
    obtain ⟨rotated, hrest, hrotated⟩ :=
      ih (fun step hstep => haxes step (List.mem_cons_of_mem _ hstep)) hnext
    refine ⟨rotated, ?_, hrotated⟩
    rw [rotateAll, heq]
    exact hrest

theorem withTranslation_rigid {matrix : Matrix4 K} (hm : IsRigid matrix) (x y z : K) :
    IsRigid (withTranslation matrix x y z) := by
  constructor
  · have hlinear : linearPart (withTranslation matrix x y z) = linearPart matrix := by
      ext i j
      have hj : j.castSucc ≠ (3 : Fin 4) := (Fin.castSucc_lt_last j).ne
      simp only [linearPart, withTranslation, if_neg hj]
    rw [hlinear]
    exact hm.rotation
  · intro j
    have hj : j.castSucc ≠ (3 : Fin 4) := (Fin.castSucc_lt_last j).ne
    simp only [withTranslation, if_neg hj]
    exact hm.lastRow j
  · exact hm.corner

/-- The axes of the optical frame in the body: x is right, y is down, and z is forward. -/
def opticalRotation : Matrix (Fin 3) (Fin 3) K := !![1, 0, 0; 0, 0, 1; 0, -1, 0]

theorem opticalRotation_mem : (opticalRotation : Matrix (Fin 3) (Fin 3) K) ∈
    Matrix.specialOrthogonalGroup (Fin 3) K := by
  rw [Matrix.mem_specialOrthogonalGroup_iff, Matrix.mem_orthogonalGroup_iff]
  constructor
  · ext i j
    fin_cases i <;> fin_cases j <;> simp [opticalRotation, Matrix.mul_apply, Fin.sum_univ_succ]
  · simp [opticalRotation, Matrix.det_fin_three]

theorem optical_eq : (cameraBodyFromCameraOptical : Matrix4 K) = homogeneous opticalRotation 0 := by
  ext i j
  fin_cases i <;> fin_cases j <;> rfl

theorem optical_rigid : IsRigid (cameraBodyFromCameraOptical : Matrix4 K) ∧
    ∀ i, translation (cameraBodyFromCameraOptical : Matrix4 K) i = 0 := by
  rw [optical_eq]
  refine ⟨isRigid_homogeneous opticalRotation_mem 0, ?_⟩
  intro i
  rw [translation_homogeneous]
  rfl

theorem withTranslation_homogeneous (linear : Matrix (Fin 3) (Fin 3) K) (x y z : K) :
    withTranslation (homogeneous linear 0) x y z = homogeneous linear ![x, y, z] := by
  ext i j
  induction j using Fin.lastCases with
  | last =>
    show ![x, y, z, homogeneous linear 0 3 3] i = _
    fin_cases i <;> rfl
  | cast j =>
    have hj : j.castSucc ≠ (3 : Fin 4) := (Fin.castSucc_lt_last j).ne
    rw [withTranslation, if_neg hj]
    fin_cases i <;> fin_cases j <;> rfl

/-- The rotations in the order of the letters, without translation. -/
theorem rotateAll_eq (trig : Trigonometry K) (linear : Matrix (Fin 3) (Fin 3) K)
    (steps : List (Fin 3 × ℚ)) :
    rotateAll trig (homogeneous linear 0) (steps.map fun step => (axisLetter step.1, step.2)) =
      .ok (homogeneous (steps.foldl (fun m step => m * axisRotation trig step.1 step.2) linear) 0) := by
  induction steps generalizing linear with
  | nil => rfl
  | cons step rest ih =>
    rw [List.map_cons, rotateAll, makeAxisRotation_eq]
    show rotateAll trig (multiplyMatrices _ _) _ = _
    rw [multiplyMatrices_eq, homogeneous_mul, Matrix.mulVec_zero, add_zero, ih]
    rfl

section
variable [LinearOrder K] [IsStrictOrderedRing K]

theorem validateMatrix_rigid {matrix : Matrix4 K} (hm : IsRigid matrix) :
    validateMatrix matrix = .ok () := by
  have htolerance : ¬ (rotationTolerance : K) < 0 := by
    rw [not_lt, rotationTolerance]
    positivity
  have h0 : matrix 3 0 = 0 := hm.lastRow 0
  have h1 : matrix 3 1 = 0 := hm.lastRow 1
  have h2 : matrix 3 2 = 0 := hm.lastRow 2
  have h3 : matrix 3 3 = 1 := hm.corner
  have hdet := hm.det
  rw [Matrix.det_fin_three] at hdet
  simp only [linearPart] at hdet
  have hdeterminant : matrix 0 0 * (matrix 1 1 * matrix 2 2 - matrix 1 2 * matrix 2 1) -
      matrix 0 1 * (matrix 1 0 * matrix 2 2 - matrix 1 2 * matrix 2 0) +
      matrix 0 2 * (matrix 1 0 * matrix 2 1 - matrix 1 1 * matrix 2 0) = 1 := by
    rw [← hdet]
    simp only [Fin.castSucc_zero, Fin.castSucc_one]
    have htwo : (2 : Fin 3).castSucc = (2 : Fin 4) := rfl
    rw [htwo]
    ring
  unfold validateMatrix
  rw [if_neg, if_neg, hdeterminant]
  · simp [htolerance]
  · rintro ⟨row, column, hlt⟩
    rw [hm.orthonormal row column, sub_self, abs_zero] at hlt
    exact htolerance hlt
  · rw [h0, h1, h2, h3]
    simp [htolerance]

theorem length_eulerType {eulerType : ByteString} (h : isEulerTypeSupported eulerType = true) :
    eulerType.length = 3 ∧ ∀ axis ∈ eulerType, axis = 88 ∨ axis = 89 ∨ axis = 90 := by
  have hall : (supportedEulerTypes.all fun supported => supported.length == 3 &&
      supported.all fun axis => axis == 88 || axis == 89 || axis == 90) = true := by decide
  have haxes := List.all_eq_true.mp hall eulerType (List.contains_iff_mem.mp h)
  simp only [Bool.and_eq_true, beq_iff_eq, List.all_eq_true, Bool.or_eq_true] at haxes
  obtain ⟨hlength, haxes⟩ := haxes
  exact ⟨hlength, fun axis haxis => or_assoc.mp (haxes axis haxis)⟩

/-- The translation is at most ten metres along each axis, so the conversion is in range. -/
theorem entry_in_range {matrix : Matrix4 K} {x y z : K} (hm : IsRigid matrix)
    (hx : |x| ≤ 10) (hy : |y| ≤ 10) (hz : |z| ≤ 10) (htranslation : translation matrix = ![x, y, z])
    (row : Fin 3) (column : Fin 4) : |matrix row.castSucc column| ≤ 10 := by
  induction column using Fin.lastCases with
  | last =>
    have hentry : matrix row.castSucc (Fin.last 3) = ![x, y, z] row := congrFun htranslation row
    rw [hentry]
    fin_cases row
    · exact hx
    · exact hy
    · exact hz
  | cast column =>
    have hone := hm.abs_le_one row column
    linarith

theorem abs_translation {value : ℚ} (h : isTranslationAllowed value = true) : |(value : K)| ≤ 10 := by
  simp only [isTranslationAllowed, Bool.and_eq_true, decide_eq_true_eq] at h
  have hmax : maxMountTranslationM = 10 := rfl
  rw [hmax] at h
  rw [← Rat.cast_abs]
  exact_mod_cast abs_le.mpr h

/-- A transform that was built from an accepted calibration. -/
structure IsMounted (transform : CameraMountTransform K) : Prop where
  rigid : IsRigid transform.mountFromCameraOptical
  entries : ∀ (row : Fin 3) (column : Fin 4),
    |transform.mountFromCameraOptical row.castSucc column| ≤ 10

/-- For any values of the cosine and the sine the checks of the transform pass. -/
theorem buildCameraMountTransform_ok (trig : Trigonometry K) {calibration : CalibrationConfig}
    (hid : calibration.calibrationId ≠ []) (hsensor : calibration.sensorFrame ≠ [])
    (hmount : calibration.mountFrame ≠ []) (haccepted : calibration.mountLocalTransform.Accepted) :
    ∃ transform, buildCameraMountTransform trig calibration = .ok transform ∧ IsMounted transform := by
  obtain ⟨hlength, haxes⟩ := length_eulerType haccepted.eulerType
  generalize htransform : calibration.mountLocalTransform = t at haccepted hlength haxes
  have hsteps : ∀ step ∈ t.eulerType.zip [t.r1, t.r2, t.r3],
      step.1 = 88 ∨ step.1 = 89 ∨ step.1 = 90 :=
    fun step hstep => haxes step.1 (List.of_mem_zip hstep).1
  obtain ⟨rotated, hrotate, hrotated⟩ := rotateAll_rigid trig hsteps isRigid_one
  have hbody := withTranslation_rigid hrotated (t.x : K) t.y t.z
  have hrigid : IsRigid (multiplyMatrices (withTranslation rotated (t.x : K) t.y t.z)
      cameraBodyFromCameraOptical) := by
    rw [multiplyMatrices_eq]
    exact hbody.mul optical_rigid.1
  have htranslation : translation (multiplyMatrices (withTranslation rotated (t.x : K) t.y t.z)
      cameraBodyFromCameraOptical) = ![(t.x : K), t.y, t.z] := by
    rw [multiplyMatrices_eq, translation_mul optical_rigid.1 optical_rigid.2]
    funext i
    fin_cases i <;> rfl
  have hentries := entry_in_range hrigid (abs_translation haccepted.x)
    (abs_translation haccepted.y) (abs_translation haccepted.z) htranslation
  use {
    calibrationId := calibration.calibrationId
    sensorFrame := calibration.sensorFrame
    mountFrame := calibration.mountFrame
    mountFromCameraOptical := multiplyMatrices (withTranslation rotated (t.x : K) t.y t.z)
      cameraBodyFromCameraOptical }
  refine ⟨?_, hrigid, hentries⟩
  unfold buildCameraMountTransform
  simp only [htransform, hid, hsensor, hmount, hlength, ne_eq, not_true_eq_false, or_false, if_false]
  rw [makeIdentityMatrix_eq, hrotate]
  show (validateMatrix _ >>= fun _ => _) = _
  rw [validateMatrix_rigid hrigid]
  rfl

theorem mapM_ok {α β : Type} {f : α → Except Exception β} {g : α → β} {items : List α}
    (h : ∀ item ∈ items, f item = .ok (g item)) : items.mapM f = .ok (items.map g) := by
  induction items with
  | nil => rfl
  | cons item rest ih =>
    rw [List.mapM_cons, h item List.mem_cons_self,
      ih fun item hitem => h item (List.mem_cons_of_mem _ hitem)]
    rfl

theorem buildMountFromCameraMatrix3x4_ok (toFloat : K → K) {transform : CameraMountTransform K}
    (h : IsMounted transform) :
    ∃ values, buildMountFromCameraMatrix3x4 toFloat transform = .ok values := by
  refine ⟨(matrix3x4 transform.mountFromCameraOptical).map toFloat, ?_⟩
  unfold buildMountFromCameraMatrix3x4
  rw [validateMatrix_rigid h.rigid]
  apply mapM_ok
  intro value hvalue
  have hmax : (10 : K) ≤ maxFloat := by
    rw [maxFloat]
    norm_num
  obtain ⟨row, -, hvalue⟩ := List.mem_flatMap.mp hvalue
  obtain ⟨column, -, rfl⟩ := List.mem_map.mp hvalue
  obtain ⟨hlower, hupper⟩ := abs_le.mp (h.entries row column)
  rw [if_neg]
  rintro (hlt | hlt)
  · linarith
  · linarith

end

end NodusVision.Geometry
