import NodusVision.Text.LittleEndian

/-! The codec of PCD1 v2 point clouds. Numbers are machine words, and floats are their 32 bits. -/
namespace NodusVision.Provider.Pcd1
open Text Program

/-- `std::invalid_argument`, or the `std::out_of_range` of `at`. -/
inductive CodecError where
  | invalidArgument (what : String)
  | outOfRange
  deriving DecidableEq

structure FrameIdentity where
  captureGeneration : UInt64 := 0
  frameNumber : UInt64 := 0
  captureTimestampNs : Int64 := 0
  captureUnixEpochNs : Int64 := 0
  deriving DecidableEq

structure StreamProfile where
  width : Int32 := 0
  height : Int32 := 0
  fps : Int32 := 0
  deriving DecidableEq

structure CameraIntrinsics where
  width : Int32 := 0
  height : Int32 := 0
  fx : UInt32 := 0
  fy : UInt32 := 0
  ppx : UInt32 := 0
  ppy : UInt32 := 0
  deriving DecidableEq

structure PointCloudPoint where
  opticalPointM : List.Vector UInt32 3
  colorRgb : List.Vector UInt8 3
  deriving DecidableEq

structure PointCloudSnapshot where
  identity : FrameIdentity := {}
  sourceProfile : StreamProfile := {}
  sourceIntrinsics : CameraIntrinsics := {}
  requestedStridePixels : Int32 := 1
  stridePixels : Int32 := 1
  mountFromCameraOpticalMatrix3x4 : List.Vector UInt32 12
  points : List PointCloudPoint := []
  deriving DecidableEq

def headerSize : ℕ := 112

def pointSize : ℕ := 15

def formatVersion : UInt32 := 2

def magic : ByteString := ascii "PCD1"

/-- `1.0e-5F` -/
def matrixTolerance : Float32 := .ofBits 0x3727C5AC

def isFinite (word : UInt32) : Bool := (Float32.ofBits word).isFinite

/-- The product of two rows of the rotation, summed from left to right. -/
def dotProduct (matrix : List.Vector UInt32 12) (row column : Fin 3) : Float32 :=
  (List.finRange 3).foldl (fun sum index =>
    sum + .ofBits (matrix.get ⟨row * 4 + index, by omega⟩) *
      .ofBits (matrix.get ⟨column * 4 + index, by omega⟩)) (.ofBits 0)

def isOrthonormal (matrix : List.Vector UInt32 12) : Bool :=
  (List.finRange 3).all fun row => (List.finRange 3).all fun column =>
    let expected : Float32 := if row = column then .ofBits 0x3F800000 else .ofBits 0
    !(matrixTolerance.lt (dotProduct matrix row column - expected).abs)

def determinant (matrix : List.Vector UInt32 12) : Float32 :=
  let m (i : Fin 12) : Float32 := .ofBits (matrix.get i)
  m 0 * (m 5 * m 10 - m 6 * m 9) - m 1 * (m 4 * m 10 - m 6 * m 8) + m 2 * (m 4 * m 9 - m 5 * m 8)

def reject {α : Type} (what : String) : Except CodecError α := .error (.invalidArgument what)

def check (condition : Bool) (what : String) : Except CodecError Unit :=
  if condition then .ok () else reject what

def validatePointCloud (snapshot : PointCloudSnapshot) : Except CodecError Unit := do
  check (decide (0 < snapshot.sourceProfile.width) && decide (0 < snapshot.sourceProfile.height) &&
    decide (0 < snapshot.requestedStridePixels) && decide (0 < snapshot.stridePixels))
    "PCD1 source dimensions and strides must be positive."
  check (decide (snapshot.points.length ≤ 2 ^ 32 - 1) &&
    decide (snapshot.points.length ≤ (2 ^ 64 - 1 - headerSize) / pointSize))
    "PCD1 point count is too large."
  check (snapshot.points.all fun point => point.opticalPointM.toList.all isFinite)
    "PCD1 point coordinate must be finite."
  check (snapshot.mountFromCameraOpticalMatrix3x4.toList.all isFinite)
    "PCD1 mount matrix value must be finite."
  check (isOrthonormal snapshot.mountFromCameraOpticalMatrix3x4)
    "PCD1 mount matrix rotation is not orthonormal."
  check (!(matrixTolerance.lt
    (determinant snapshot.mountFromCameraOpticalMatrix3x4 - .ofBits 0x3F800000).abs))
    "PCD1 mount matrix rotation determinant is invalid."

def uint32Bytes (value : UInt32) : ByteString := littleEndian 4 value.toNat

def uint64Bytes (value : UInt64) : ByteString := littleEndian 8 value.toNat

def int64Bytes (value : Int64) : ByteString := uint64Bytes value.toUInt64

/-- An `int`, cast to `std::uint32_t`. -/
def intBytes (value : Int32) : ByteString := uint32Bytes value.toUInt32

def floatsBytes (values : List UInt32) : ByteString := values.flatMap uint32Bytes

/-- What `writePcd1V2` appends between the version and the points. -/
def headerBytes (snapshot : PointCloudSnapshot) (pointCount : UInt32) : ByteString :=
  uint64Bytes snapshot.identity.frameNumber ++ int64Bytes snapshot.identity.captureTimestampNs ++
    intBytes snapshot.sourceProfile.width ++ intBytes snapshot.sourceProfile.height ++
    intBytes snapshot.requestedStridePixels ++ intBytes snapshot.stridePixels ++
    uint32Bytes pointCount ++ uint32Bytes 0 ++
    uint32Bytes snapshot.sourceIntrinsics.fx ++ uint32Bytes snapshot.sourceIntrinsics.fy ++
    uint32Bytes snapshot.sourceIntrinsics.ppx ++ uint32Bytes snapshot.sourceIntrinsics.ppy ++
    floatsBytes snapshot.mountFromCameraOpticalMatrix3x4.toList

def payload (snapshot : PointCloudSnapshot) : ByteString :=
  magic ++ uint32Bytes formatVersion ++
    headerBytes snapshot (UInt32.ofNat snapshot.points.length) ++
    snapshot.points.flatMap (fun point => floatsBytes point.opticalPointM.toList) ++
    snapshot.points.flatMap fun point => point.colorRgb.toList

def writePcd1V2 (snapshot : PointCloudSnapshot) : Except CodecError ByteString := do
  validatePointCloud snapshot
  .ok (payload snapshot)

abbrev Reader (α : Type) := Reading CodecError α

section
variable (input : ByteString)

/-- `input.at(offset++)` -/
def readAt : Reader UInt8 := fun offset =>
  match input[offset]? with
  | some b => .ok (b, offset + 1)
  | none => .error .outOfRange

/-- The loop of `readUint32` and `readUint64`: `count` bytes from the byte `i` of the word on. -/
def readLoop (value i : ℕ) : (count : ℕ) → Reader ℕ
  | 0 => pure value
  | count + 1 => do
    let b ← readAt input
    readLoop (value ||| b.toNat <<< (i * 8)) (i + 1) count

def readWord (count : ℕ) : Reader ℕ := fun offset =>
  if input.length < offset ∨ input.length - offset < count then reject "PCD1 payload is truncated."
  else (readLoop input 0 0 count).run offset

def readUint32 : Reader UInt32 := UInt32.ofNat <$> readWord input 4

def readUint64 : Reader UInt64 := UInt64.ofNat <$> readWord input 8

def readInt64 : Reader Int64 := UInt64.toInt64 <$> readUint64 input

def readFloat32 : Reader UInt32 := readUint32 input

/-- `static_cast<int>(readUint32(…))` -/
def readInt : Reader Int32 := UInt32.toInt32 <$> readUint32 input

def require (condition : Bool) (what : String) : Reader Unit := liftM (check condition what)

/-- The points come as all coordinates, then all colors. -/
def readPoints (pointCount : ℕ) : Reader (List PointCloudPoint) := do
  let coordinates ← readVector (readVector (readFloat32 input) 3) pointCount
  let colors ← readVector (readVector (readAt input) 3) pointCount
  pure ((coordinates.toList.zip colors.toList).map fun p => ⟨p.1, p.2⟩)

/-- The fields behind the version, up to the length check. -/
def readHeader : Reader (PointCloudSnapshot × UInt32) := do
  let frameNumber ← readUint64 input
  let captureTimestampNs ← readInt64 input
  let width ← readInt input
  let height ← readInt input
  let requestedStridePixels ← readInt input
  let stridePixels ← readInt input
  let pointCount ← readUint32 input
  let reserved ← readUint32 input
  require (reserved == 0) "PCD1 reserved field is invalid."
  let fx ← readFloat32 input
  let fy ← readFloat32 input
  let ppx ← readFloat32 input
  let ppy ← readFloat32 input
  let matrix ← readVector (readFloat32 input) 12
  pure ({ identity := { frameNumber, captureTimestampNs }
          sourceProfile := { width, height }
          sourceIntrinsics := { fx, fy, ppx, ppy }
          requestedStridePixels, stridePixels
          mountFromCameraOpticalMatrix3x4 := matrix }, pointCount)

def readBody : Reader PointCloudSnapshot := do
  let version ← readUint32 input
  require (version == formatVersion) "PCD1 version is invalid."
  let (header, pointCount) ← readHeader input
  require (input.length == headerSize + pointSize * pointCount.toNat) "PCD1 length is invalid."
  let points ← readPoints input pointCount.toNat
  let snapshot := { header with points }
  liftM (validatePointCloud snapshot)
  pure snapshot

def readPcd1V2 : Except CodecError PointCloudSnapshot :=
  if input.length < headerSize ∨ input.take 4 ≠ magic then reject "PCD1 magic is invalid."
  else Prod.fst <$> (readBody input).run 4

end

section
variable {input : ByteString} {offset next : ℕ}

theorem readAt_run (h : offset < input.length) :
    (readAt input).run offset = .ok (input[offset], offset + 1) := by
  show (match input[offset]? with
    | some b => Except.ok (b, offset + 1)
    | none => .error CodecError.outOfRange) = _
  rw [List.getElem?_eq_getElem h]

theorem decodes_readAt : Decodes input (readAt input) fun b => [b] := by
  intro offset b next
  have hrun : (readAt input).run offset = match input[offset]? with
    | some b => .ok (b, offset + 1)
    | none => .error .outOfRange := rfl
  rw [hrun]
  cases hb : input[offset]? with
  | none =>
    have hlength := List.getElem?_eq_none_iff.mp hb
    have hdrop := List.drop_eq_nil_of_le hlength
    simp [hdrop]
  | some c =>
    obtain ⟨hlt, rfl⟩ := List.getElem?_eq_some_iff.mp hb
    rw [List.drop_eq_getElem_cons hlt]
    simp only [Except.ok.injEq, Prod.mk.injEq, List.length_singleton, List.cons_prefix_cons,
      List.nil_prefix, and_true]
    constructor
    · rintro ⟨rfl, rfl⟩
      exact ⟨rfl, rfl⟩
    · rintro ⟨rfl, rfl⟩
      exact ⟨rfl, rfl⟩

theorem readLoop_run {value i count : ℕ} (h : offset + count ≤ input.length) :
    (readLoop input value i count).run offset =
      .ok (mergeBytes value i ((input.drop offset).take count), offset + count) := by
  induction count generalizing value i offset with
  | zero => rfl
  | succ count ih =>
    have hlt : offset < input.length := by omega
    have hrest : offset + 1 + count ≤ input.length := by omega
    rw [readLoop, StateT.run_bind, readAt_run hlt]
    show (readLoop input _ (i + 1) count).run (offset + 1) = _
    rw [ih hrest, List.drop_eq_getElem_cons hlt, List.take_succ_cons, mergeBytes,
      Nat.add_right_comm, Nat.add_assoc]

/-- A word is read where its bytes are. -/
theorem readWord_run {value count : ℕ} (hcount : 0 < count) :
    (readWord input count).run offset = .ok (value, next) ↔
      value < 256 ^ count ∧ littleEndian count value <+: input.drop offset ∧
        next = offset + count := by
  have hrun : (readWord input count).run offset =
      if input.length < offset ∨ input.length - offset < count then
        reject "PCD1 payload is truncated."
      else (readLoop input 0 0 count).run offset := rfl
  rw [hrun]
  split
  · rename_i hshort
    constructor
    · intro h
      cases h
    · rintro ⟨-, hinit, -⟩
      have hle := hinit.length_le
      rw [length_littleEndian, List.length_drop] at hle
      omega
  · rename_i hlong
    have hle : offset + count ≤ input.length := by omega
    have hlength : ((input.drop offset).take count).length = count := by
      rw [List.length_take, List.length_drop]
      omega
    rw [readLoop_run hle, mergeBytes_zero]
    constructor
    · intro h
      obtain ⟨rfl, rfl⟩ := Prod.mk.inj (Except.ok.inj h)
      have hlt := ofLittleEndian_lt ((input.drop offset).take count)
      have hbytes := littleEndian_ofLittleEndian ((input.drop offset).take count)
      rw [hlength] at hlt hbytes
      refine ⟨hlt, ?_, rfl⟩
      rw [hbytes]
      exact List.take_prefix _ _
    · rintro ⟨hlt, hinit, rfl⟩
      have hbytes := List.prefix_iff_eq_take.mp hinit
      rw [length_littleEndian] at hbytes
      rw [← hbytes, ofLittleEndian_littleEndian hlt]

/-- Words of a type that the naturals below a bound stand for. -/
theorem decodes_word {α : Type} {count : ℕ} {ofNat : ℕ → α} {toNat : α → ℕ} (hcount : 0 < count)
    (hlt : ∀ a, toNat a < 256 ^ count) (hto : ∀ n < 256 ^ count, toNat (ofNat n) = n)
    (hof : ∀ a, ofNat (toNat a) = a) :
    Decodes input (ofNat <$> readWord input count) fun a => littleEndian count (toNat a) := by
  intro offset a next
  have hmap : (ofNat <$> readWord input count).run offset =
      (readWord input count).run offset >>= fun p => .ok (ofNat p.1, p.2) := rfl
  rw [hmap]
  simp only [bind_eq_ok, Prod.exists, readWord_run hcount, Except.ok.injEq, Prod.mk.injEq,
    length_littleEndian]
  constructor
  · rintro ⟨n, _, ⟨hn, hinit, rfl⟩, rfl, rfl⟩
    rw [hto n hn]
    exact ⟨hinit, rfl⟩
  · rintro ⟨hinit, rfl⟩
    exact ⟨toNat a, _, ⟨hlt a, hinit, rfl⟩, hof a, rfl⟩

theorem decodes_readUint32 : Decodes input (readUint32 input) uint32Bytes :=
  decodes_word (by decide) UInt32.toNat_lt (fun _ => UInt32.toNat_ofNat_of_lt')
    fun _ => UInt32.ofNat_toNat

theorem decodes_readUint64 : Decodes input (readUint64 input) uint64Bytes :=
  decodes_word (by decide) UInt64.toNat_lt (fun _ => UInt64.toNat_ofNat_of_lt')
    fun _ => UInt64.ofNat_toNat

theorem decodes_readInt64 : Decodes input (readInt64 input) int64Bytes :=
  decodes_readUint64.map Int64.toInt64_toUInt64 UInt64.toUInt64_toInt64

theorem decodes_readInt : Decodes input (readInt input) intBytes :=
  decodes_readUint32.map Int32.toInt32_toUInt32 UInt32.toUInt32_toInt32

theorem decodes_readFloats (n : ℕ) :
    Decodes input (readVector (readFloat32 input) n) fun v => floatsBytes v.toList :=
  decodes_readUint32.vector n

@[simp] theorem length_uint32Bytes (value : UInt32) : (uint32Bytes value).length = 4 :=
  length_littleEndian ..

@[simp] theorem length_uint64Bytes (value : UInt64) : (uint64Bytes value).length = 8 :=
  length_littleEndian ..

@[simp] theorem length_int64Bytes (value : Int64) : (int64Bytes value).length = 8 :=
  length_littleEndian ..

@[simp] theorem length_intBytes (value : Int32) : (intBytes value).length = 4 :=
  length_littleEndian ..

theorem length_flatMap_const {α β : Type} {f : α → List β} {k : ℕ} (h : ∀ a, (f a).length = k)
    (items : List α) : (items.flatMap f).length = k * items.length := by
  induction items with
  | nil => rfl
  | cons a items ih =>
    rw [List.flatMap_cons, List.length_append, h, ih, List.length_cons, Nat.mul_succ, Nat.add_comm]

@[simp] theorem length_floatsBytes (values : List UInt32) :
    (floatsBytes values).length = 4 * values.length :=
  length_flatMap_const length_uint32Bytes values

def coordinateBytes (point : PointCloudPoint) : ByteString := floatsBytes point.opticalPointM.toList

def colorBytes (point : PointCloudPoint) : ByteString := point.colorRgb.toList

theorem length_coordinateBytes (point : PointCloudPoint) : (coordinateBytes point).length = 12 := by
  simp [coordinateBytes]

theorem length_colorBytes (point : PointCloudPoint) : (colorBytes point).length = 3 :=
  point.colorRgb.toList_length

/-- Points are read where their coordinates and, behind them, their colors are. -/
theorem readPoints_run {points : List PointCloudPoint} {n : ℕ} :
    (readPoints input n).run offset = .ok (points, next) ↔
      points.length = n ∧
      points.flatMap coordinateBytes ++ points.flatMap colorBytes <+: input.drop offset ∧
      next = offset + pointSize * n := by
  have hcoordinates := (@decodes_readFloats input 3).vector n
  have hcolors := ((@decodes_readAt input).vector 3).vector n
  have hcolor : ∀ v : List.Vector UInt8 3, v.toList.flatMap (fun b => [b]) = v.toList :=
    fun v => List.flatMap_singleton' _
  simp only [hcolor] at hcolors
  simp only [readPoints, StateT.run_bind, bind_eq_ok, Prod.exists, hcoordinates _ _ _, hcolors _ _ _,
    StateT.run_pure, prefix_drop_append]
  constructor
  · rintro ⟨coordinates, _, ⟨hc, rfl⟩, colors, _, ⟨hb, rfl⟩, hresult⟩
    obtain ⟨rfl, rfl⟩ := Prod.mk.inj (Except.ok.inj hresult)
    have hlength : coordinates.toList.length = colors.toList.length := by simp
    have hfirst : ((coordinates.toList.zip colors.toList).map fun p => PointCloudPoint.mk p.1 p.2).map
        PointCloudPoint.opticalPointM = coordinates.toList := by
      rw [List.map_map]
      exact List.map_fst_zip hlength.le
    have hsecond : ((coordinates.toList.zip colors.toList).map fun p => PointCloudPoint.mk p.1 p.2).map
        PointCloudPoint.colorRgb = colors.toList := by
      rw [List.map_map]
      exact List.map_snd_zip hlength.ge
    have hcount : ((coordinates.toList.zip colors.toList).map
        fun p => PointCloudPoint.mk p.1 p.2).length = n := by simp
    generalize ((coordinates.toList.zip colors.toList).map fun p => PointCloudPoint.mk p.1 p.2) =
      points at hfirst hsecond hcount ⊢
    rw [← hfirst, List.flatMap_map] at hc hb
    rw [← hsecond, List.flatMap_map] at hb
    have hcb := length_flatMap_const length_coordinateBytes points
    have hbb := length_flatMap_const length_colorBytes points
    refine ⟨hcount, ⟨hc, hb⟩, ?_⟩
    rw [← hfirst, ← hsecond, List.flatMap_map, List.flatMap_map]
    show offset + (points.flatMap coordinateBytes).length + (points.flatMap colorBytes).length = _
    rw [hcb, hbb, hcount, pointSize]
    omega
  · rintro ⟨hlength, ⟨hc, hb⟩, rfl⟩
    have hfirst : (points.map PointCloudPoint.opticalPointM).length = n := by simpa using hlength
    have hsecond : (points.map PointCloudPoint.colorRgb).length = n := by simpa using hlength
    have hzip : ((points.map PointCloudPoint.opticalPointM).zip
        (points.map PointCloudPoint.colorRgb)).map (fun p => PointCloudPoint.mk p.1 p.2) = points := by
      rw [List.zip_map', List.map_map]
      exact List.map_id _
    refine ⟨⟨_, hfirst⟩, _, ⟨?_, rfl⟩, ⟨_, hsecond⟩, _, ⟨?_, rfl⟩, ?_⟩
    · show (points.map _).flatMap _ <+: _
      rw [List.flatMap_map]
      exact hc
    · show (points.map _).flatMap _ <+: input.drop (offset + ((points.map _).flatMap _).length)
      rw [List.flatMap_map, List.flatMap_map]
      exact hb
    · have hcb := length_flatMap_const length_coordinateBytes points
      have hbb := length_flatMap_const length_colorBytes points
      show Except.ok (((points.map _).zip (points.map _)).map _,
        offset + ((points.map _).flatMap _).length + ((points.map _).flatMap _).length) = _
      rw [hzip, List.flatMap_map, List.flatMap_map]
      show Except.ok (points, offset + (points.flatMap coordinateBytes).length +
        (points.flatMap colorBytes).length) = _
      rw [hcb, hbb, hlength, pointSize, Nat.add_assoc, ← Nat.add_mul]

theorem require_run {condition : Bool} {what : String} {u : Unit} :
    (require condition what).run offset = .ok (u, next) ↔ condition = true ∧ next = offset := by
  cases condition with
  | true =>
    constructor
    · intro h
      cases h
      exact ⟨rfl, rfl⟩
    · rintro ⟨-, rfl⟩
      rfl
  | false =>
    constructor
    · intro h
      cases h
    · rintro ⟨h, -⟩
      cases h

/-- The fields that the format carries; the others have their defaults. -/
def PointCloudSnapshot.carried (snapshot : PointCloudSnapshot) : PointCloudSnapshot where
  identity :=
    { frameNumber := snapshot.identity.frameNumber
      captureTimestampNs := snapshot.identity.captureTimestampNs }
  sourceProfile :=
    { width := snapshot.sourceProfile.width, height := snapshot.sourceProfile.height }
  sourceIntrinsics :=
    { fx := snapshot.sourceIntrinsics.fx
      fy := snapshot.sourceIntrinsics.fy
      ppx := snapshot.sourceIntrinsics.ppx
      ppy := snapshot.sourceIntrinsics.ppy }
  requestedStridePixels := snapshot.requestedStridePixels
  stridePixels := snapshot.stridePixels
  mountFromCameraOpticalMatrix3x4 := snapshot.mountFromCameraOpticalMatrix3x4
  points := snapshot.points

theorem length_headerBytes (snapshot : PointCloudSnapshot) (pointCount : UInt32) :
    (headerBytes snapshot pointCount).length = 104 := by
  simp [headerBytes]

/-- The header is read where its bytes are. -/
theorem readHeader_run {header : PointCloudSnapshot} {pointCount : UInt32} :
    (readHeader input).run offset = .ok ((header, pointCount), next) ↔
      header = { header.carried with points := [] } ∧
      headerBytes header pointCount <+: input.drop offset ∧ next = offset + 104 := by
  simp only [readHeader, readFloat32, StateT.run_bind, bind_eq_ok, Prod.exists,
    decodes_readUint64 _ _ _, decodes_readInt64 _ _ _, decodes_readInt _ _ _,
    decodes_readUint32 _ _ _, decodes_readUint32.vector 12 _ _ _, require_run, StateT.run_pure,
    headerBytes, prefix_drop_append, List.length_append, length_uint64Bytes, length_int64Bytes,
    length_intBytes, length_uint32Bytes, length_flatMap_const length_uint32Bytes,
    List.Vector.toList_length, and_assoc, exists_and_left, exists_eq_left, Nat.add_assoc, Nat.reduceAdd,
    Nat.reduceMul]
  constructor
  · rintro ⟨frameNumber, hframe, timestamp, htimestamp, width, hwidth, height, hheight, requested,
      hrequested, stride, hstride, count, hcount, reserved, hreserved, hzero, _, fx, hfx, fy, hfy, ppx,
      hppx, ppy, hppy, matrix, hmatrix, hresult⟩
    cases hresult
    rw [beq_iff_eq] at hzero
    subst hzero
    exact ⟨rfl, hframe, htimestamp, hwidth, hheight, hrequested, hstride, hcount, hreserved, hfx, hfy,
      hppx, hppy, hmatrix, rfl⟩
  · rintro ⟨hcarried, hframe, htimestamp, hwidth, hheight, hrequested, hstride, hcount, hreserved, hfx,
      hfy, hppx, hppy, hmatrix, rfl⟩
    refine ⟨_, hframe, _, htimestamp, _, hwidth, _, hheight, _, hrequested, _, hstride, _, hcount, _,
      hreserved, rfl, (), _, hfx, _, hfy, _, hppx, _, hppy, _, hmatrix, ?_⟩
    exact congrArg (fun h => Except.ok ((h, pointCount), offset + 104)) hcarried.symm

theorem length_payload (snapshot : PointCloudSnapshot) :
    (payload snapshot).length = headerSize + pointSize * snapshot.points.length := by
  have hcoordinates := length_flatMap_const length_coordinateBytes snapshot.points
  have hcolors := length_flatMap_const length_colorBytes snapshot.points
  have hmagic : magic.length = 4 := rfl
  show (magic ++ uint32Bytes formatVersion ++ headerBytes snapshot _ ++
    snapshot.points.flatMap coordinateBytes ++ snapshot.points.flatMap colorBytes).length = _
  simp only [List.length_append, hmagic, length_uint32Bytes, length_headerBytes, hcoordinates, hcolors,
    headerSize, pointSize]
  omega

@[simp] theorem check_eq_ok {condition : Bool} {what : String} {u : Unit} :
    check condition what = .ok u ↔ condition = true := by
  cases condition <;> simp [check, reject]

theorem validatePointCloud_count {snapshot : PointCloudSnapshot} {u : Unit}
    (h : validatePointCloud snapshot = .ok u) : snapshot.points.length < 2 ^ 32 := by
  simp only [validatePointCloud, bind_eq_ok, check_eq_ok, Bool.and_eq_true, decide_eq_true_eq] at h
  obtain ⟨_, _, _, ⟨hcount, _⟩, _⟩ := h
  omega

theorem writePcd1V2_eq_ok {snapshot : PointCloudSnapshot} :
    writePcd1V2 snapshot = .ok input ↔
      validatePointCloud snapshot = .ok () ∧ payload snapshot = input := by
  rw [writePcd1V2, bind_eq_ok]
  constructor
  · rintro ⟨_, hvalid, h⟩
    exact ⟨hvalid, Except.ok.inj h⟩
  · rintro ⟨hvalid, rfl⟩
    exact ⟨(), hvalid, rfl⟩

theorem readBody_run {snapshot : PointCloudSnapshot} :
    (readBody input).run offset = .ok (snapshot, next) ↔
      snapshot = snapshot.carried ∧ validatePointCloud snapshot = .ok () ∧
      input.length = headerSize + pointSize * snapshot.points.length ∧
      uint32Bytes formatVersion ++ headerBytes snapshot (UInt32.ofNat snapshot.points.length) ++
        (snapshot.points.flatMap coordinateBytes ++ snapshot.points.flatMap colorBytes) <+:
          input.drop offset ∧
      next = offset + 108 + pointSize * snapshot.points.length := by
  have hvalidate : ∀ s : PointCloudSnapshot, ∀ (u : Unit) (next offset : ℕ),
      (liftM (validatePointCloud s) : Reader Unit).run offset = .ok (u, next) ↔
        validatePointCloud s = .ok () ∧ next = offset := by
    intro s u next offset
    show (validatePointCloud s >>= fun u => Except.ok (u, offset)) = _ ↔ _
    rw [bind_eq_ok]
    constructor
    · rintro ⟨_, hvalid, h⟩
      cases h
      exact ⟨hvalid, rfl⟩
    · rintro ⟨hvalid, rfl⟩
      exact ⟨(), hvalid, rfl⟩
  simp only [readBody, StateT.run_bind, bind_eq_ok, Prod.exists, decodes_readUint32 _ _ _, require_run,
    readHeader_run, readPoints_run, hvalidate, StateT.run_pure, prefix_drop_append, length_uint32Bytes,
    List.length_append, length_headerBytes, beq_iff_eq]
  constructor
  · rintro ⟨_, _, ⟨hversion, rfl⟩, _, _, ⟨rfl, rfl⟩, header, count, _, ⟨hheader, hbytes, rfl⟩, _, _,
      ⟨hlength, rfl⟩, points, _, ⟨hcount, hpoints, rfl⟩, _, _, ⟨hvalid, rfl⟩, hresult⟩
    cases hresult
    have hofNat : UInt32.ofNat points.length = count := by
      rw [hcount, UInt32.ofNat_toNat]
    refine ⟨?_, hvalid, ?_, ⟨⟨hversion, ?_⟩, ?_⟩, ?_⟩
    · rw [hheader]
      rfl
    · rw [hlength, hcount]
    · rw [hofNat]
      exact hbytes
    · exact hpoints
    · rw [hcount]
  · rintro ⟨hcarried, hvalid, hlength, ⟨⟨hversion, hbytes⟩, hpoints⟩, rfl⟩
    have hto : (UInt32.ofNat snapshot.points.length).toNat = snapshot.points.length :=
      UInt32.toNat_ofNat_of_lt' (validatePointCloud_count hvalid)
    refine ⟨_, _, ⟨hversion, rfl⟩, (), _, ⟨rfl, rfl⟩, { snapshot with points := [] },
      UInt32.ofNat snapshot.points.length, _, ⟨?_, hbytes, rfl⟩, (), _, ⟨?_, rfl⟩, snapshot.points, _,
      ⟨hto.symm, hpoints, rfl⟩, (), _, ⟨hvalid, rfl⟩, ?_⟩
    · exact congrArg (fun s => { s with points := [] }) hcarried
    · rw [hto]
      exact hlength
    · rw [hto, Nat.add_assoc offset 4 104]
      rfl

/-- The reader accepts what the writer writes for a snapshot with the carried fields. -/
theorem readPcd1V2_eq_ok {snapshot : PointCloudSnapshot} :
    readPcd1V2 input = .ok snapshot ↔
      snapshot = snapshot.carried ∧ writePcd1V2 snapshot = .ok input := by
  have hmagic : magic.length = 4 := rfl
  have hpayload : payload snapshot = magic ++
      (uint32Bytes formatVersion ++ headerBytes snapshot (UInt32.ofNat snapshot.points.length) ++
        (snapshot.points.flatMap coordinateBytes ++ snapshot.points.flatMap colorBytes)) := by
    simp only [payload, List.append_assoc]
    rfl
  rw [writePcd1V2_eq_ok]
  unfold readPcd1V2
  split
  · rename_i hbad
    constructor
    · intro h
      cases h
    · rintro ⟨-, -, rfl⟩
      rw [length_payload, hpayload, List.take_left' hmagic] at hbad
      rcases hbad with hshort | hne
      · omega
      · exact absurd rfl hne
  · rename_i hgood
    push Not at hgood
    obtain ⟨hlong, htake⟩ := hgood
    have hmap : Prod.fst <$> (readBody input).run 4 = .ok snapshot ↔
        ∃ next, (readBody input).run 4 = .ok (snapshot, next) := by
      cases (readBody input).run 4 with
      | error e => simp
      | ok p => simp [Prod.ext_iff]
    simp only [hmap, readBody_run]
    constructor
    · rintro ⟨_, hcarried, hvalid, hlength, hinit, -⟩
      refine ⟨hcarried, hvalid, ?_⟩
      obtain ⟨rest, hrest⟩ := hinit
      have hinput : input = payload snapshot ++ rest := by
        rw [hpayload, List.append_assoc, hrest, ← htake, List.take_append_drop]
      have hnil : rest = [] := by
        have hlengths := congrArg List.length hinput
        rw [List.length_append, length_payload, hlength] at hlengths
        exact List.length_eq_zero_iff.mp (by omega)
      rw [hinput, hnil, List.append_nil]
    · rintro ⟨hcarried, hvalid, rfl⟩
      refine ⟨_, hcarried, hvalid, length_payload snapshot, ?_, rfl⟩
      use []
      rw [List.append_nil, hpayload, List.drop_left' hmagic]

/-- Whatever is thrown is `std::invalid_argument`. -/
def Rejects {α : Type} (x : Except CodecError α) : Prop :=
  ∀ e, x = .error e → ∃ what, e = .invalidArgument what

theorem rejects_ok {α : Type} (a : α) : Rejects (.ok a) := by
  intro e h
  cases h

theorem rejects_reject {α : Type} (what : String) : Rejects (reject what : Except CodecError α) := by
  intro e h
  cases h
  exact ⟨what, rfl⟩

theorem Rejects.bind {α β : Type} {x : Except CodecError α} {f : α → Except CodecError β}
    (h : Rejects x) (hf : ∀ a, x = .ok a → Rejects (f a)) : Rejects (x >>= f) := by
  cases x with
  | error e =>
    intro e' he'
    exact h e' (congrArg Except.error (Except.error.inj he'))
  | ok a => exact hf a rfl

theorem rejects_check (condition : Bool) (what : String) : Rejects (check condition what) := by
  unfold check
  split
  · exact rejects_ok ()
  · exact rejects_reject what

theorem rejects_validatePointCloud (snapshot : PointCloudSnapshot) :
    Rejects (validatePointCloud snapshot) := by
  unfold validatePointCloud
  refine (rejects_check _ _).bind fun _ _ => ?_
  refine (rejects_check _ _).bind fun _ _ => ?_
  refine (rejects_check _ _).bind fun _ _ => ?_
  refine (rejects_check _ _).bind fun _ _ => ?_
  exact (rejects_check _ _).bind fun _ _ => rejects_check _ _

theorem rejects_require (condition : Bool) (what : String) :
    Rejects ((require condition what).run offset) :=
  (rejects_check condition what).bind fun u _ => rejects_ok (u, offset)

/-- The guard of a word covers the loop that reads it. -/
theorem rejects_readWord (count : ℕ) : Rejects ((readWord input count).run offset) := by
  have hrun : (readWord input count).run offset =
      if input.length < offset ∨ input.length - offset < count then
        reject "PCD1 payload is truncated."
      else (readLoop input 0 0 count).run offset := rfl
  rw [hrun]
  split
  · exact rejects_reject _
  · rw [readLoop_run (by omega)]
    exact rejects_ok _

theorem rejects_readUint32 : Rejects ((readUint32 input).run offset) :=
  (rejects_readWord 4).bind fun p _ => rejects_ok (UInt32.ofNat p.1, p.2)

theorem rejects_readUint64 : Rejects ((readUint64 input).run offset) :=
  (rejects_readWord 8).bind fun p _ => rejects_ok (UInt64.ofNat p.1, p.2)

theorem rejects_readInt64 : Rejects ((readInt64 input).run offset) :=
  rejects_readUint64.bind fun p _ => rejects_ok (p.1.toInt64, p.2)

theorem rejects_readInt : Rejects ((readInt input).run offset) :=
  rejects_readUint32.bind fun p _ => rejects_ok (p.1.toInt32, p.2)

theorem rejects_readVector {α : Type} {read : Reader α} (h : ∀ offset, Rejects (read.run offset))
    (n : ℕ) : Rejects ((readVector read n).run offset) := by
  induction n generalizing offset with
  | zero => exact rejects_ok _
  | succ n ih =>
    refine (h offset).bind fun p _ => ?_
    exact ih.bind fun q _ => rejects_ok (p.1 ::ᵥ q.1, q.2)

/-- Items of `k` bytes are read as long as the input reaches. -/
theorem readVector_total {α : Type} {read : Reader α} {k : ℕ}
    (h : ∀ offset, offset + k ≤ input.length → ∃ a, read.run offset = .ok (a, offset + k)) {n : ℕ}
    (hlength : offset + k * n ≤ input.length) :
    ∃ v, (readVector read n).run offset = .ok (v, offset + k * n) := by
  induction n generalizing offset with
  | zero => exact ⟨.nil, rfl⟩
  | succ n ih =>
    rw [Nat.mul_succ] at hlength ⊢
    obtain ⟨a, ha⟩ := h offset (by omega)
    obtain ⟨v, hv⟩ := ih (show offset + k + k * n ≤ input.length by omega)
    refine ⟨a ::ᵥ v, ?_⟩
    rw [readVector, StateT.run_bind, ha]
    show ((readVector read n).run (offset + k) >>= fun q => Except.ok (a ::ᵥ q.1, q.2)) = _
    rw [hv, Nat.add_comm (k * n) k, ← Nat.add_assoc]
    rfl

theorem rejects_readHeader : Rejects ((readHeader input).run offset) := by
  refine rejects_readUint64.bind fun _ _ => rejects_readInt64.bind fun _ _ => ?_
  refine rejects_readInt.bind fun _ _ => rejects_readInt.bind fun _ _ => ?_
  refine rejects_readInt.bind fun _ _ => rejects_readInt.bind fun _ _ => ?_
  refine rejects_readUint32.bind fun _ _ => rejects_readUint32.bind fun _ _ => ?_
  refine (rejects_require _ _).bind fun _ _ => ?_
  refine rejects_readUint32.bind fun _ _ => rejects_readUint32.bind fun _ _ => ?_
  refine rejects_readUint32.bind fun _ _ => rejects_readUint32.bind fun _ _ => ?_
  exact (rejects_readVector (fun _ => rejects_readUint32) 12).bind fun _ _ => rejects_ok _

/-- No color is read behind the end. -/
theorem rejects_readPoints {n : ℕ} (hlength : input.length = offset + pointSize * n) :
    Rejects ((readPoints input n).run offset) := by
  have hfloats : ∀ offset, Rejects ((readVector (readFloat32 input) 3).run offset) := fun _ =>
    rejects_readVector (fun _ => rejects_readUint32) 3
  refine (rejects_readVector hfloats n).bind fun p hp => ?_
  obtain ⟨coordinates, next⟩ := p
  have hnext := (((@decodes_readFloats input 3).vector n offset coordinates next).mp hp).2
  have hfloat : ∀ v : List.Vector UInt32 3, (floatsBytes v.toList).length = 12 := fun v => by simp
  have hbytes : (coordinates.toList.flatMap fun v => floatsBytes v.toList).length = 12 * n := by
    rw [length_flatMap_const hfloat, List.Vector.toList_length]
  rw [hbytes] at hnext
  have hcolor : ∀ offset, offset + 3 ≤ input.length →
      ∃ a, (readVector (readAt input) 3).run offset = .ok (a, offset + 3) := by
    intro offset h
    exact readVector_total (k := 1) (fun _ hlt => ⟨_, readAt_run hlt⟩) h
  rw [pointSize] at hlength
  obtain ⟨colors, hcolors⟩ := readVector_total hcolor (show next + 3 * n ≤ input.length by omega)
  show Rejects ((readVector (readVector (readAt input) 3) n).run next >>= _)
  rw [hcolors]
  exact rejects_ok _

theorem rejects_readPcd1V2 : Rejects (readPcd1V2 input) := by
  unfold readPcd1V2
  split
  · exact rejects_reject _
  · refine Rejects.bind ?_ fun p _ => rejects_ok p.1
    refine rejects_readUint32.bind fun version hversion => ?_
    refine (rejects_require _ _).bind fun checked hchecked => ?_
    refine rejects_readHeader.bind fun header hheader => ?_
    refine (rejects_require _ _).bind fun measured hmeasured => ?_
    have hoffset : measured.2 = headerSize := by
      have h₁ := ((decodes_readUint32 _ _ _).mp hversion).2
      have h₂ := (require_run.mp hchecked).2
      have h₃ := (readHeader_run.mp hheader).2.2
      have h₄ := (require_run.mp hmeasured).2
      rw [h₄, h₃, h₂, h₁, length_uint32Bytes]
      rfl
    have hlength := (require_run.mp hmeasured).1
    rw [beq_iff_eq, ← hoffset] at hlength
    refine (rejects_readPoints hlength).bind fun p _ => ?_
    obtain ⟨points, next⟩ := p
    have hvalidate (snapshot : PointCloudSnapshot) :
        Rejects ((liftM (validatePointCloud snapshot) : Reader Unit).run next) :=
      (rejects_validatePointCloud snapshot).bind fun u _ => rejects_ok (u, next)
    exact (hvalidate _).bind fun _ _ => rejects_ok _

end

end NodusVision.Provider.Pcd1
