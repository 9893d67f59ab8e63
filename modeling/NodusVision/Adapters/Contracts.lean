import NodusVision.Program.Loops
import NodusVision.Recording.Contracts

/-! Frames and the answers to queries about them. Floats are an ordered type with the operations that
the queries apply to them; no law of the operations is used. -/
namespace NodusVision.Adapters
open Program Recording

structure StreamProfile where
  width : ℤ
  height : ℤ
  fps : ℤ
  format : PixelFormat
  deriving DecidableEq

structure CameraIntrinsics (D : Type) where
  width : ℤ
  height : ℤ
  fx : D
  fy : D
  ppx : D
  ppy : D

structure FrameSnapshot (D : Type) where
  identity : FrameIdentity
  depthProfile : StreamProfile
  colorProfile : StreamProfile
  depthIntrinsics : CameraIntrinsics D
  hasColor : Bool
  hasDepth : Bool

structure PixelRoi where
  x : ℤ
  y : ℤ
  width : ℤ
  height : ℤ
  deriving DecidableEq

structure RoiDepthResult (D : Type) where
  identity : FrameIdentity
  requestedRoi : PixelRoi
  clampedRoi : PixelRoi
  pixelCount : ℕ
  validPixelCount : ℕ
  fillRate : D
  valid : Bool
  minDepthM : D
  maxDepthM : D
  meanDepthM : D
  medianDepthM : D
  medianPixelX : ℤ
  medianPixelY : ℤ
  medianOpticalPointM : D × D × D

structure PointCloudPoint (D : Type) where
  opticalPointM : D × D × D
  colorRgb : UInt8 × UInt8 × UInt8

/-- The matrix to the mount is set by the route. -/
structure PointCloudSnapshot (D : Type) where
  identity : FrameIdentity
  sourceProfile : StreamProfile
  sourceIntrinsics : CameraIntrinsics D
  requestedStridePixels : ℤ
  stridePixels : ℤ
  points : List (PointCloudPoint D)

/-- The interface of a frame, as the routes use it. -/
structure CapturedFrame (D : Type) where
  snapshot : FrameSnapshot D
  queryDepthInRoi : ℤ → ℤ → ℤ → ℤ → Checked (RoiDepthResult D)
  buildPointCloudSnapshot : ℕ → ℤ → Checked (PointCloudSnapshot D)

/-- A result without statistics: the members of the struct have their defaults. -/
def emptyRoiResult {D : Type} [Zero D] (identity : FrameIdentity) (requested : PixelRoi) :
    RoiDepthResult D where
  identity := identity
  requestedRoi := requested
  clampedRoi := ⟨0, 0, 0, 0⟩
  pixelCount := 0
  validPixelCount := 0
  fillRate := 0
  valid := false
  minDepthM := 0
  maxDepthM := 0
  meanDepthM := 0
  medianDepthM := 0
  medianPixelX := 0
  medianPixelY := 0
  medianOpticalPointM := (0, 0, 0)

structure RoiRequest where
  x : ℤ
  y : ℤ
  width : ℤ
  height : ℤ
  deriving DecidableEq

/-- The areas are computed in 64 bits, where the products of two `int` fit. -/
def isRoiRequestValid (request : RoiRequest) (profile : StreamProfile) : Bool :=
  if request.x < 0 ∨ request.y < 0 ∨ request.width ≤ 0 ∨ request.height ≤ 0 ∨
      profile.width ≤ request.x ∨ profile.height ≤ request.y then false
  else decide (request.width * request.height ≤ profile.width * profile.height)

end NodusVision.Adapters
