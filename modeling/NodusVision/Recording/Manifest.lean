import NodusVision.Recording.Store

/-! Sidecar lines, artifact digests and the finalized manifest. -/
namespace NodusVision.Recording
open Text Storage Program RecordingStore

/-- `std::filesystem` name of an artifact file. -/
def fileText : ArtifactFile → ByteString
  | .startRequest => ascii "start_request.json"
  | .stopRequest => ascii "stop_request.json"
  | .manifest => ascii "recording_manifest.json"
  | .video => ascii "color.mp4"
  | .sidecar => ascii "frames.jsonl"

structure RecordingFrameEntry where
  videoFrameIndex : ℕ
  videoPts : ℤ
  identity : FrameIdentity
  deriving DecidableEq

structure RecordingArtifactDigest where
  relativePath : ArtifactFile
  sizeBytes : ℕ
  sha256Hex : ByteString
  deriving DecidableEq

structure FinalizedRecordingManifest where
  recordingId : ByteString
  componentId : ByteString
  instanceId : ByteString
  deviceId : ByteString
  sensorFrame : ByteString
  calibrationId : ByteString
  width : ℤ
  height : ℤ
  fps : ℤ
  startedMonotonicNs : ℤ
  startedUnixEpochNs : ℤ
  stoppedMonotonicNs : ℤ
  stoppedUnixEpochNs : ℤ
  admittedFrameCount : ℕ
  submittedFrameCount : ℕ
  recordingDropCount : ℕ
  firstFrame : FrameIdentity
  lastFrame : FrameIdentity
  hasFrames : Bool
  startRequestId : ByteString
  stopRequestId : ByteString
  stopReason : RecordingStopReason
  deriving DecidableEq

def hexDigest (digest : List UInt8) : ByteString :=
  digest.flatMap fun b => [hexDigit (b.toNat / 16), hexDigit (b.toNat % 16)]

def digestBufferBytes : ℕ := 65536

def digestReadFailed : Exception := .runtimeError "Recording artifact digest read failed."

/-- The chunks still to be read; the deadline is tested before each of them. -/
def digestChunks (path : ManagedPath) (deadline : Option ℕ) : ℕ → StoreProg Unit
  | 0 => .pure ()
  | n + 1 => do
    let now : ℕ ← call .steadyNow
    throwIf (∃ d ∈ deadline, d ≤ now)
      (.runtimeError "Recording artifact digest exceeded finalize timeout.")
    let good : Bool ← call (.read path)
    throwIf (good = false) digestReadFailed
    digestChunks path deadline n

/-- A file of `n` bytes takes `n / 65536 + 1` reads to reach its end. -/
def calculateRecordingArtifactDigest (sha256 : ByteString → List UInt8) (directory : ManagedPath)
    (relativePath : ArtifactFile) (deadline : Option ℕ) : StoreProg RecordingArtifactDigest := do
  let path := directory.child (.file relativePath)
  let status ← symlinkStatus path
  throwIf (status = .symlink) (.invalidArgument "Recording artifact path is unsafe.")
  let regular : Option Bool ← call (.isRegularFile path)
  let regular ← orThrow regular
  throwIf (regular = false) (.invalidArgument "Recording artifact path is unsafe.")
  let input : Option ByteString ← call (.openInput path)
  let hashReady : Bool ← call .library
  match input with
  | none => .throw (.runtimeError "Recording artifact digest cannot initialize.")
  | some contents =>
    throwIf (hashReady = false) (.runtimeError "Recording artifact digest cannot initialize.")
    digestChunks path deadline (contents.length / digestBufferBytes + 1)
    let size : Option ℕ ← call (.fileSize path)
    let size ← orThrow size
    .pure ⟨relativePath, size, hexDigest (sha256 contents)⟩

def serializeFrameIdentity (identity : FrameIdentity) : ByteString :=
  jsonObject [
    (ascii "capture_generation", jsonNat identity.captureGeneration),
    (ascii "frame_number", jsonNat identity.frameNumber),
    (ascii "capture_timestamp_ns", jsonInt identity.captureTimestampNs),
    (ascii "capture_unix_epoch_ns", jsonInt identity.captureUnixEpochNs)]

def makeArtifact (digest : RecordingArtifactDigest) : ByteString :=
  jsonObject [
    (ascii "path", jsonString (fileText digest.relativePath)),
    (ascii "size_bytes", jsonNat digest.sizeBytes),
    (ascii "sha256", jsonString digest.sha256Hex)]

def isManifestValid (manifest : FinalizedRecordingManifest)
    (video sidecar : RecordingArtifactDigest) : Bool :=
  isRecordingIdValid manifest.recordingId && !manifest.componentId.isEmpty &&
    !manifest.instanceId.isEmpty && !manifest.deviceId.isEmpty &&
    !manifest.sensorFrame.isEmpty && !manifest.calibrationId.isEmpty &&
    decide (0 < manifest.width) && decide (0 < manifest.height) && decide (0 < manifest.fps) &&
    decide (manifest.startedMonotonicNs ≤ manifest.stoppedMonotonicNs) &&
    decide (manifest.startedUnixEpochNs ≤ manifest.stoppedUnixEpochNs) &&
    decide (manifest.submittedFrameCount ≤ manifest.admittedFrameCount) &&
    video.relativePath == .video && sidecar.relativePath == .sidecar

def manifestText (manifest : FinalizedRecordingManifest) (video sidecar : RecordingArtifactDigest) :
    ByteString :=
  jsonObject [
    (ascii "schema_version", jsonNat 1),
    (ascii "state", jsonString (ascii "finalized")),
    (ascii "recording_id", jsonString manifest.recordingId),
    (ascii "component_id", jsonString manifest.componentId),
    (ascii "instance_id", jsonString manifest.instanceId),
    (ascii "device_id", jsonString manifest.deviceId),
    (ascii "capture_generation",
      jsonNat (if manifest.hasFrames then manifest.firstFrame.captureGeneration else 0)),
    (ascii "sensor_frame", jsonString manifest.sensorFrame),
    (ascii "calibration_id", jsonString manifest.calibrationId),
    (ascii "profile", jsonObject [
      (ascii "width", jsonInt manifest.width),
      (ascii "height", jsonInt manifest.height),
      (ascii "fps", jsonInt manifest.fps),
      (ascii "input_pixel_format", jsonString (ascii "rgb24"))]),
    (ascii "video", jsonObject [
      (ascii "container", jsonString (ascii "mp4")),
      (ascii "codec", jsonString (ascii "h264")),
      (ascii "encoder", jsonString (ascii "libx264")),
      (ascii "pixel_format", jsonString (ascii "yuv420p")),
      (ascii "time_base_num", jsonNat 1),
      (ascii "time_base_den", jsonInt manifest.fps)]),
    (ascii "started_monotonic_ns", jsonInt manifest.startedMonotonicNs),
    (ascii "started_unix_epoch_ns", jsonInt manifest.startedUnixEpochNs),
    (ascii "stopped_monotonic_ns", jsonInt manifest.stoppedMonotonicNs),
    (ascii "stopped_unix_epoch_ns", jsonInt manifest.stoppedUnixEpochNs),
    (ascii "admitted_frame_count", jsonNat manifest.admittedFrameCount),
    (ascii "submitted_frame_count", jsonNat manifest.submittedFrameCount),
    (ascii "recording_drop_count", jsonNat manifest.recordingDropCount),
    (ascii "first_frame",
      if manifest.hasFrames then serializeFrameIdentity manifest.firstFrame else jsonNull),
    (ascii "last_frame",
      if manifest.hasFrames then serializeFrameIdentity manifest.lastFrame else jsonNull),
    (ascii "artifacts", jsonArray [makeArtifact video, makeArtifact sidecar]),
    (ascii "start_request_id", jsonString manifest.startRequestId),
    (ascii "stop_request_id",
      if manifest.stopRequestId.isEmpty then jsonNull else jsonString manifest.stopRequestId),
    (ascii "stop_reason", jsonString (getRecordingStopReasonName manifest.stopReason))]

def serializeFinalizedRecordingManifest (manifest : FinalizedRecordingManifest)
    (video sidecar : RecordingArtifactDigest) : Except Exception ByteString :=
  if isManifestValid manifest video sidecar = false then
    .error (.invalidArgument "Recording manifest values are invalid.")
  else .ok (manifestText manifest video sidecar)

/-- `buffer` holds what the stream has accepted and not yet written to the file. -/
structure RecordingSidecarWriter where
  outputPath : ManagedPath
  recordingId : ByteString
  sensorFrame : ByteString
  calibrationId : ByteString
  buffer : ByteString := []
  lastIdentity : FrameIdentity := {}
  entryCount : ℕ := 0
  hasIdentity : Bool := false
  finalized : Bool := false
  deriving DecidableEq

namespace RecordingSidecarWriter

def construct (outputPath : ManagedPath) (recordingId sensorFrame calibrationId : ByteString) :
    StoreProg RecordingSidecarWriter := do
  let opened : Bool ← call (.truncate outputPath)
  throwIf (isRecordingIdValid recordingId = false ∨ sensorFrame = [] ∨ calibrationId = [] ∨
    opened = false) (.invalidArgument "Recording sidecar configuration is invalid.")
  .pure {
    outputPath := outputPath, recordingId := recordingId
    sensorFrame := sensorFrame, calibrationId := calibrationId }

/-- One line of frames.jsonl, newline included. -/
def line (s : RecordingSidecarWriter) (entry : RecordingFrameEntry) : ByteString :=
  jsonObject [
    (ascii "schema_version", jsonNat 1),
    (ascii "recording_id", jsonString s.recordingId),
    (ascii "video_frame_index", jsonNat entry.videoFrameIndex),
    (ascii "video_pts", jsonInt entry.videoPts),
    (ascii "capture_generation", jsonNat entry.identity.captureGeneration),
    (ascii "frame_number", jsonNat entry.identity.frameNumber),
    (ascii "capture_timestamp_ns", jsonInt entry.identity.captureTimestampNs),
    (ascii "capture_unix_epoch_ns", jsonInt entry.identity.captureUnixEpochNs),
    (ascii "sensor_frame", jsonString s.sensorFrame),
    (ascii "calibration_id", jsonString s.calibrationId)] ++ [10]

def acceptsEntry (s : RecordingSidecarWriter) (entry : RecordingFrameEntry) : Bool :=
  !s.finalized && entry.videoFrameIndex == s.entryCount && decide (0 ≤ entry.videoPts) &&
    (!s.hasIdentity || isStrictlyAfter entry.identity s.lastIdentity)

def append (s : RecordingSidecarWriter) (entry : RecordingFrameEntry) :
    StoreProg RecordingSidecarWriter := do
  throwIf (s.acceptsEntry entry = false)
    (.invalidArgument "Recording sidecar entry violates its immutable order.")
  let written : Option ℕ ← call (.streamWrite s.outputPath (s.buffer ++ s.line entry))
  match written with
  | none => .throw (.runtimeError "Recording sidecar append failed.")
  | some n => .pure { s with
      buffer := (s.buffer ++ s.line entry).drop n
      lastIdentity := entry.identity
      hasIdentity := true
      entryCount := s.entryCount + 1 }

def finalize (s : RecordingSidecarWriter) : StoreProg RecordingSidecarWriter :=
  if s.finalized then .pure s
  else do
    require (.streamFlush s.outputPath s.buffer) rfl
      (.runtimeError "Recording sidecar flush failed.")
    require (.close s.outputPath) rfl (.runtimeError "Recording sidecar close failed.")
    .pure { s with buffer := [], finalized := true }

/-- Closing the stream in the destructor writes what is left of the buffer. -/
def destroy (s : RecordingSidecarWriter) : StoreProg Unit :=
  if s.finalized then .pure ()
  else .op (.streamFlush s.outputPath s.buffer) fun _ => .pure ()

end RecordingSidecarWriter

end NodusVision.Recording
