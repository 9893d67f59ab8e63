import NodusVision.Adapters.Sampling

/-! The frames of the deterministic camera. -/
namespace NodusVision.Adapters
open Program Recording Config

/-- The constants of the pattern. -/
structure FakePattern (D : Type) where
  depthBaseM : D
  depthXStepM : D
  depthYStepM : D
  intrinsicFocalLength : D

def nsPerSecond : ℤ := 1000000000

section
variable {D : Type} [Zero D] [Add D] [Mul D] [IntCast D]
variable (pattern : FakePattern D) (config : FakeCameraAdapterConfig)

/-- `static_cast<std::uint8_t>(value % 256U)` -/
def colorByte (value : ℤ) : UInt8 := UInt8.ofNat (value % 256).toNat

def depthPattern (x y : ℤ) : D :=
  if x = 0 ∧ y = 0 then 0
  else pattern.depthBaseM + pattern.depthXStepM * (x : D) + pattern.depthYStepM * (y : D)

/-- The assignments to one pixel; those to the preview are left out. -/
def paintPixel (frameNumber : ℕ) (y x : ℤ) (images : List UInt8 × List D) :
    Checked (List UInt8 × List D) := do
  let row ← int32 (y * config.width)
  let pixelIndex := toSize (← int32 (row + x))
  let color ← writeAt images.1 (pixelIndex * 3) (colorByte (x + frameNumber + config.patternSeed))
  let color ← writeAt color (pixelIndex * 3 + 1) (colorByte (y + config.patternSeed))
  let color ← writeAt color (pixelIndex * 3 + 2) (colorByte frameNumber)
  let depth ← writeAt images.2 pixelIndex (depthPattern pattern x y)
  .ok (color, depth)

def fakeSnapshot (captureGeneration frameNumber : ℕ) : FrameSnapshot D where
  identity :=
    { captureGeneration := captureGeneration
      frameNumber := frameNumber
      captureTimestampNs := (frameNumber * nsPerSecond).tdiv config.fps
      captureUnixEpochNs := (frameNumber * nsPerSecond).tdiv config.fps }
  depthProfile := ⟨config.width, config.height, config.fps, .z16⟩
  colorProfile := ⟨config.width, config.height, config.fps, .rgb8⟩
  depthIntrinsics :=
    ⟨config.width, config.height, pattern.intrinsicFocalLength, pattern.intrinsicFocalLength, 0, 0⟩
  hasColor := true
  hasDepth := true

/-- The number is that of the frame, which the caller has counted up. -/
def makeFrame (captureGeneration frameNumber : ℕ) : Checked (FakeCapturedFrame D) := do
  let area ← int32 (config.width * config.height)
  let bytes ← int32 (area * 3)
  let (color, depth) ← forLoop config.height 1 Int.zero_lt_one
    (fun y => forLoop config.width 1 Int.zero_lt_one (paintPixel pattern config frameNumber y) 0) 0
    (List.replicate (toSize bytes).toNat 0, List.replicate (toSize area).toNat 0)
  .ok ⟨fakeSnapshot pattern config captureGeneration frameNumber, color, depth⟩

/-- The images with as many bytes and depths. -/
def Lengths (bytes depths : ℕ) (images : List UInt8 × List D) : Prop :=
  images.1.length = bytes ∧ images.2.length = depths

variable {pattern config}

theorem lengths_paintPixel {frameNumber bytes depths : ℕ} {x y : ℤ} {images painted : List UInt8 × List D}
    (h : paintPixel pattern config frameNumber y x images = .ok painted)
    (hlengths : Lengths bytes depths images) : Lengths bytes depths painted := by
  obtain ⟨row, -, h⟩ := bind_eq_ok.mp h
  obtain ⟨index, -, h⟩ := bind_eq_ok.mp h
  obtain ⟨red, hred, h⟩ := bind_eq_ok.mp h
  obtain ⟨green, hgreen, h⟩ := bind_eq_ok.mp h
  obtain ⟨blue, hblue, h⟩ := bind_eq_ok.mp h
  obtain ⟨depth, hdepth, h⟩ := bind_eq_ok.mp h
  cases h
  constructor
  · rw [length_writeAt hblue, length_writeAt hgreen, length_writeAt hred]
    exact hlengths.1
  · rw [length_writeAt hdepth]
    exact hlengths.2

/-- Every frame that the camera makes has its images. -/
theorem makeFrame_hasColors {captureGeneration frameNumber : ℕ} {frame : FakeCapturedFrame D}
    (hwidth : 1 ≤ config.width ∧ config.width ≤ 4096)
    (hheight : 1 ≤ config.height ∧ config.height ≤ 4096)
    (h : makeFrame pattern config captureGeneration frameNumber = .ok frame) : frame.HasColors := by
  obtain ⟨area, harea, h⟩ := bind_eq_ok.mp h
  obtain ⟨bytes, hbytes, h⟩ := bind_eq_ok.mp h
  obtain ⟨⟨color, depth⟩, hpaint, h⟩ := bind_eq_ok.mp h
  cases h
  have hareaValue := int32_eq harea
  have hbytesValue := int32_eq hbytes
  have hpos : 0 ≤ config.width * config.height := Int.mul_nonneg (by omega) (by omega)
  have hlengths : Lengths (toSize bytes).toNat (toSize area).toNat (color, depth) := by
    apply forLoop_keeps _ hpaint ⟨List.length_replicate, List.length_replicate⟩
    intro y images next hrow hkept
    apply forLoop_keeps _ hrow hkept
    intro x images next hpixel hkept
    exact lengths_paintPixel hpixel hkept
  rw [toSize_of_nonneg (by omega), toSize_of_nonneg (by omega)] at hlengths
  have hcolor : color.length = bytes.toNat := hlengths.1
  have hdepth : depth.length = area.toNat := hlengths.2
  constructor
  · constructor
    · exact hwidth.1
    · exact hwidth.2
    · exact hheight.1
    · exact hheight.2
    · show (depth.length : ℤ) = config.width * config.height
      omega
  · rfl
  · show (color.length : ℤ) = config.width * config.height * 3
    omega

end

end NodusVision.Adapters
