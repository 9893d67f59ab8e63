import NodusVision.Adapters.Contracts
import NodusVision.Config.VisionConfig

/-! The deterministic camera and the queries about its frames. -/
namespace NodusVision.Adapters
open Program Recording Config

/-- The `std::sort` of the samples by depth, whose order on ties is not specified. -/
structure StdSort (D : Type) [LE D] where
  sort : List (D × ℤ × ℤ) → List (D × ℤ × ℤ)
  perm : ∀ samples, (sort samples).Perm samples
  sorted : ∀ samples, (sort samples).Pairwise fun a b => a.1 ≤ b.1

structure FakeCapturedFrame (D : Type) where
  snapshot : FrameSnapshot D
  color : List UInt8
  depth : List D

def clamp (value low high : ℤ) : ℤ := if value < low then low else if high < value then high else value

/-- `static_cast<std::size_t>` of an `int` -/
def toSize (value : ℤ) : ℤ := if value < 0 then value + 2 ^ 64 else value

section
variable {D : Type} [LinearOrder D] [Zero D] [Add D] [Sub D] [Mul D] [Div D] [IntCast D]

def deproject (intrinsics : CameraIntrinsics D) (pixelX pixelY : ℤ) (depthM : D) : D × D × D :=
  (((pixelX : D) - intrinsics.ppx) * depthM / intrinsics.fx,
    ((pixelY : D) - intrinsics.ppy) * depthM / intrinsics.fy, depthM)

def countSampleSlots (width height stridePixels : ℤ) : Checked ℤ := do
  let columns ← int32 ((← int32 (width + stridePixels)) - 1)
  let rows ← int32 ((← int32 (height + stridePixels)) - 1)
  int32 (columns.tdiv stridePixels * rows.tdiv stridePixels)

namespace FakeCapturedFrame
variable (frame : FakeCapturedFrame D)

/-- `m_depth.at(y * width + x)` -/
def depthAt (x y : ℤ) : Checked D := do
  let row ← int32 (y * frame.snapshot.depthProfile.width)
  itemAt frame.depth (toSize (← int32 (row + x)))

/-- The samples so far, and the sum of their depths. -/
def collectSample (y x : ℤ) (state : List (D × ℤ × ℤ) × D) : Checked (List (D × ℤ × ℤ) × D) := do
  let depthM ← frame.depthAt x y
  .ok (if 0 < depthM then (state.1 ++ [(depthM, x, y)], state.2 + depthM) else state)

/-- The statistics of the samples, if there are any. -/
def describeSamples (std : StdSort D) (result : RoiDepthResult D) (samples : List (D × ℤ × ℤ)) :
    Checked (RoiDepthResult D) :=
  if samples.isEmpty then .ok result
  else do
    let sorted := std.sort samples
    let front ← itemAt sorted 0
    let back ← itemAt sorted (sorted.length - 1 : ℕ)
    let median ← itemAt sorted (sorted.length / 2 : ℕ)
    .ok { result with
      valid := true
      minDepthM := front.1
      maxDepthM := back.1
      meanDepthM := result.meanDepthM / ((samples.length : ℤ) : D)
      medianDepthM := median.1
      medianPixelX := median.2.1
      medianPixelY := median.2.2
      medianOpticalPointM :=
        deproject frame.snapshot.depthIntrinsics median.2.1 median.2.2 median.1 }

def queryDepthInRoi (std : StdSort D) (pixelX pixelY width height : ℤ) : Checked (RoiDepthResult D) :=
  if width ≤ 0 ∨ height ≤ 0 then .error (.invalidArgument "ROI width and height must be positive.")
  else do
    let profile := frame.snapshot.depthProfile
    let minX := clamp pixelX 0 profile.width
    let minY := clamp pixelY 0 profile.height
    let maxX := clamp (← int32 (pixelX + width)) 0 profile.width
    let maxY := clamp (← int32 (pixelY + height)) 0 profile.height
    let clampedRoi : PixelRoi := ⟨minX, minY, max 0 (maxX - minX), max 0 (maxY - minY)⟩
    let pixelCount := clampedRoi.width.toNat * clampedRoi.height.toNat
    let (samples, sum) ← forLoop maxY 1 (by decide)
      (fun y => forLoop maxX 1 (by decide) (frame.collectSample y) minX) minY ([], 0)
    frame.describeSamples std
      { emptyRoiResult frame.snapshot.identity ⟨pixelX, pixelY, width, height⟩ with
        clampedRoi := clampedRoi
        pixelCount := pixelCount
        validPixelCount := samples.length
        fillRate := if pixelCount = 0 then 0 else ((samples.length : ℤ) : D) / ((pixelCount : ℤ) : D)
        meanDepthM := sum }
      samples

/-- The loop that widens the stride until the slots fit. -/
def searchStride (maxPoints : ℕ) (stride : ℤ) : Checked ℤ := do
  let slots ← countSampleSlots frame.snapshot.depthProfile.width frame.snapshot.depthProfile.height stride
  if (maxPoints : ℤ) < toSize slots then
    if stride + 1 < 2 ^ 31 then searchStride maxPoints (stride + 1) else .error .overflow
  else .ok stride
termination_by (2 ^ 31 - stride).toNat

/-- The three bytes of a pixel. -/
def colorAt (x y : ℤ) : Checked (UInt8 × UInt8 × UInt8) := do
  let row ← int32 (y * frame.snapshot.colorProfile.width)
  let pixel ← int32 (row + x)
  let index := toSize (← int32 (pixel * 3))
  .ok (← itemAt frame.color index, ← itemAt frame.color (index + 1), ← itemAt frame.color (index + 2))

def collectPoint (y x : ℤ) (points : List (PointCloudPoint D)) : Checked (List (PointCloudPoint D)) := do
  let depthM ← frame.depthAt x y
  if depthM ≤ 0 then .ok points
  else do
    let colorRgb ← frame.colorAt x y
    .ok (points ++ [⟨deproject frame.snapshot.depthIntrinsics x y depthM, colorRgb⟩])

def buildPointCloudSnapshot (maxPoints : ℕ) (stridePixels : ℤ) : Checked (PointCloudSnapshot D) :=
  if maxPoints = 0 ∨ stridePixels ≤ 0 then
    .error (.invalidArgument "Point cloud bounds must be positive.")
  else do
    let profile := frame.snapshot.depthProfile
    let effectiveStride ← frame.searchStride maxPoints stridePixels
    if hstride : 0 < effectiveStride then do
      let points ← forLoop profile.height effectiveStride hstride
        (fun y => forLoop profile.width effectiveStride hstride (frame.collectPoint y) 0) 0 []
      .ok {
        identity := frame.snapshot.identity
        sourceProfile := profile
        sourceIntrinsics := frame.snapshot.depthIntrinsics
        requestedStridePixels := stridePixels
        stridePixels := effectiveStride
        points := points }
    -- the search only adds to a positive stride
    else .error .overflow

def toCapturedFrame (std : StdSort D) : CapturedFrame D where
  snapshot := frame.snapshot
  queryDepthInRoi := frame.queryDepthInRoi std
  buildPointCloudSnapshot := frame.buildPointCloudSnapshot

end FakeCapturedFrame

end

end NodusVision.Adapters
