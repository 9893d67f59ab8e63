import NodusVision.Recording.Store

/-! The H.264 writer of one recording. What libav writes is chosen by the environment; the
profile checks, the frame count and the flags are those of the source. -/
namespace NodusVision.Recording
open Text Storage Program RecordingStore

structure ColorVideoWriterConfig where
  outputPath : ManagedPath
  width : ℤ
  height : ℤ
  fps : ℤ
  bitRateBps : ℤ
  preset : ByteString
  tune : ByteString
  deriving DecidableEq

structure ColorVideoWriter where
  config : ColorVideoWriterConfig
  submittedFrameCount : ℕ := 0
  headerWritten : Bool := false
  finalized : Bool := false
  deriving DecidableEq

namespace ColorVideoWriter

/-- Library calls in order, each with the text thrown when it fails. -/
def libraryCalls : List String → StoreProg Unit
  | [] => .pure ()
  | what :: rest => do
    require .library rfl (.runtimeError what)
    libraryCalls rest

def isProfileValid (config : ColorVideoWriterConfig) : Bool :=
  config.outputPath != .unset && decide (0 < config.width) && decide (0 < config.height) &&
    decide (config.width % 2 = 0) && decide (config.height % 2 = 0) && decide (0 < config.fps) &&
    decide (0 < config.bitRateBps) && config.preset == ascii "veryfast" &&
    config.tune == ascii "zerolatency"

/-- `initialize` as the constructor runs it; a failure releases the libav resources only. -/
def construct (config : ColorVideoWriterConfig) : StoreProg ColorVideoWriter := do
  throwIf (isProfileValid config = false) (.invalidArgument "Color writer profile is invalid.")
  libraryCalls ["Cannot allocate MP4 output context", "FFmpeg libx264 encoder is unavailable.",
    "Cannot allocate H.264 codec context.", "Cannot configure H.264 preset",
    "Cannot configure H.264 tune", "Cannot open H.264 encoder", "Cannot create MP4 video stream.",
    "Cannot copy H.264 stream parameters"]
  require (.truncate config.outputPath) rfl (.runtimeError "Cannot open MP4 output")
  require (.encode config.outputPath) rfl (.runtimeError "Cannot write MP4 header")
  libraryCalls ["Cannot allocate FFmpeg frame or packet.", "Cannot allocate YUV frame buffer",
    "Cannot allocate RGB-to-YUV converter."]
  .pure { config := config, headerWritten := true }

/-- The packet loop, as one call that writes what the encoder has ready. -/
def writeAvailablePackets (w : ColorVideoWriter) : StoreProg Unit :=
  require (.encode w.config.outputPath) rfl (.runtimeError "Cannot write MP4 packet")

def matchesProfile (w : ColorVideoWriter) (frame : VideoFrameView) : Bool :=
  !w.finalized && frame.format == .rgb8 && frame.width == w.config.width &&
    frame.height == w.config.height && decide (w.config.width * 3 ≤ frame.strideBytes) &&
    frame.hasData && frame.hasOwner

/-- The index given to the frame, and the writer after it. -/
def writeFrame (w : ColorVideoWriter) (frame : VideoFrameView) :
    StoreProg (ℕ × ColorVideoWriter) := do
  throwIf (w.matchesProfile frame = false)
    (.invalidArgument "Color frame does not match the recording profile.")
  libraryCalls ["Cannot make YUV frame writable", "Cannot convert RGB frame to YUV.",
    "Cannot submit H.264 frame"]
  w.writeAvailablePackets
  .pure (w.submittedFrameCount, { w with submittedFrameCount := w.submittedFrameCount + 1 })

def finalize (w : ColorVideoWriter) : StoreProg ColorVideoWriter :=
  if w.finalized then .pure w
  else do
    libraryCalls ["Cannot flush H.264 encoder"]
    w.writeAvailablePackets
    require (.encode w.config.outputPath) rfl (.runtimeError "Cannot write MP4 trailer")
    require (.encode w.config.outputPath) rfl (.runtimeError "Cannot close MP4 output")
    .pure { w with finalized := true }

/-- The destructor finishes a file that has a header and swallows every failure. -/
def destroy (w : ColorVideoWriter) : StoreProg Unit :=
  if w.finalized = false ∧ w.headerWritten = true then
    (w.finalize.bind fun _ => .pure ()).tryCatch fun _ => .pure ()
  else .pure ()

end ColorVideoWriter

end NodusVision.Recording
