import NodusVision.Adapters.Sampling

/-! The queries about the frames of the hardware camera. -/
namespace NodusVision.Adapters
open Program Recording Config

/-- A frame with the depths that the SDK reports for its pixels. -/
structure IntelD435CapturedFrame (D : Type) where
  snapshot : FrameSnapshot D
  getDistance : ℤ → ℤ → D

namespace IntelD435CapturedFrame
variable {D : Type} [Zero D] (frame : IntelD435CapturedFrame D)

def queryDepthInRoi (pixelX pixelY width height : ℤ) : Checked (RoiDepthResult D) :=
  if width ≤ 0 ∨ height ≤ 0 then .error (.invalidArgument "ROI width and height must be positive.")
  else .ok (emptyRoiResult frame.snapshot.identity ⟨pixelX, pixelY, width, height⟩)

def buildPointCloudSnapshot (maxPoints : ℕ) (stridePixels : ℤ) : Checked (PointCloudSnapshot D) :=
  if maxPoints = 0 ∨ stridePixels ≤ 0 then
    .error (.invalidArgument "Point cloud bounds must be positive.")
  else
    .ok {
      identity := frame.snapshot.identity
      sourceProfile := frame.snapshot.depthProfile
      sourceIntrinsics := frame.snapshot.depthIntrinsics
      requestedStridePixels := stridePixels
      stridePixels := stridePixels
      points := [] }

def toCapturedFrame : CapturedFrame D where
  snapshot := frame.snapshot
  queryDepthInRoi := frame.queryDepthInRoi
  buildPointCloudSnapshot := frame.buildPointCloudSnapshot

end IntelD435CapturedFrame

/-- A query about depths, as the routes make it through the interface. -/
inductive DepthRequest where
  | roi (request : RoiRequest)
  | pointCloud (maxPoints : ℕ) (stridePixels : ℤ)

/-- The check of the route on a rectangle, and of the query on the bounds of a cloud. -/
def DepthRequest.IsValidated (profile : StreamProfile) : DepthRequest → Prop
  | .roi request => isRoiRequestValid request profile = true
  | .pointCloud maxPoints stridePixels => 0 < maxPoints ∧ 0 < stridePixels ∧ stridePixels < 2 ^ 31

instance (profile : StreamProfile) : (request : DepthRequest) → Decidable (request.IsValidated profile)
  | .roi request => inferInstanceAs (Decidable (isRoiRequestValid request profile = true))
  | .pointCloud maxPoints stridePixels =>
    inferInstanceAs (Decidable (0 < maxPoints ∧ 0 < stridePixels ∧ stridePixels < 2 ^ 31))

section
variable {D : Type}

structure SameStatistics (a b : RoiDepthResult D) : Prop where
  clampedRoi : a.clampedRoi = b.clampedRoi
  pixelCount : a.pixelCount = b.pixelCount
  validPixelCount : a.validPixelCount = b.validPixelCount
  valid : a.valid = b.valid
  depths : a.minDepthM = b.minDepthM ∧ a.maxDepthM = b.maxDepthM ∧ a.medianDepthM = b.medianDepthM

/-- The points are those of the pixels, in order: the depth of a pixel is the third coordinate. -/
def SamplesPixels (depthOf : ℤ × ℤ → D) (points : List (PointCloudPoint D)) (pixels : List (ℤ × ℤ)) :
    Prop :=
  points.map (fun point => point.opticalPointM.2.2) = pixels.map depthOf

structure SameSampling (depthOf : ℤ × ℤ → D) (maxPoints : ℕ) (a b : PointCloudSnapshot D) : Prop where
  stride : a.stridePixels = b.stridePixels
  pixels : ∃ pixels, SamplesPixels depthOf a.points pixels ∧ SamplesPixels depthOf b.points pixels
  bounded : a.points.length ≤ maxPoints ∧ b.points.length ≤ maxPoints

/-- Two frames answer a request alike. -/
def Agree (depthOf : ℤ × ℤ → D) (a b : CapturedFrame D) : DepthRequest → Prop
  | .roi request => ∃ x y,
      a.queryDepthInRoi request.x request.y request.width request.height = .ok x ∧
        b.queryDepthInRoi request.x request.y request.width request.height = .ok y ∧ SameStatistics x y
  | .pointCloud maxPoints stridePixels => ∃ x y,
      a.buildPointCloudSnapshot maxPoints stridePixels = .ok x ∧
        b.buildPointCloudSnapshot maxPoints stridePixels = .ok y ∧ SameSampling depthOf maxPoints x y

/-- The hardware reports the image of the other frame. -/
structure SameImage [Zero D] (fake : FakeCapturedFrame D) (real : IntelD435CapturedFrame D) : Prop where
  profile : real.snapshot.depthProfile = fake.snapshot.depthProfile
  distance : ∀ p ∈ fake.image.pixels, real.getDistance p.1 p.2 = fake.depthOf p

end

end NodusVision.Adapters
