import NodusVision.Storage.Disk

/-! Recording identities, requests and captured frames. -/
namespace NodusVision.Recording
open Text Storage

inductive RecordingState where
  | disabled
  | idle
  | preparing
  | recording
  | finalizing
  | finalized
  | faulted
  deriving DecidableEq

/-- A recording that `startOrReplay` refuses to displace. -/
def RecordingState.isActive : RecordingState → Bool
  | .preparing | .recording | .finalizing => true
  | _ => false

inductive RecordingStopReason where
  | requested
  | maxDuration
  | applicationShutdown
  deriving DecidableEq

/-- Start and stop requests share this value; `canonicalJson` is the accepted HTTP body. -/
structure RecordingStartRequest where
  requestId : ByteString
  recordingId : ByteString
  canonicalJson : ByteString
  deriving DecidableEq

def isLowercaseAlphanumeric (c : UInt8) : Bool := (97 ≤ c && c ≤ 122) || (48 ≤ c && c ≤ 57)

/-- '.', '_' and '-' -/
def isPermittedSuffix (c : UInt8) : Bool := c == 46 || c == 95 || c == 45

def isRecordingIdValid (recordingId : ByteString) : Bool :=
  match recordingId with
  | [] => false
  | first :: _ =>
    decide (recordingId.length ≤ 64) && recordingId != ascii "." && recordingId != ascii ".." &&
      isLowercaseAlphanumeric first &&
      recordingId.all fun c => isLowercaseAlphanumeric c || isPermittedSuffix c

/-- Printable bytes except '/' and '\'. -/
def isRecordingRequestIdValid (requestId : ByteString) : Bool :=
  !requestId.isEmpty && decide (requestId.length ≤ 128) &&
    requestId.all fun c => 33 ≤ c && c ≤ 126 && c != 47 && c != 92

def unsafeStartIdentity : Exception :=
  .invalidArgument "Recording start request has an unsafe identity."

def serializeRecordingStartRequest (request : RecordingStartRequest) : Except Exception ByteString :=
  if isRecordingRequestIdValid request.requestId = false ∨
      isRecordingIdValid request.recordingId = false then
    .error unsafeStartIdentity
  else if request.canonicalJson ≠ [] then .ok request.canonicalJson
  else .ok (jsonObject [
    (ascii "schema_version", jsonNat 1),
    (ascii "request_id", jsonString request.requestId),
    (ascii "recording_id", jsonString request.recordingId)])

def getRecordingStopReasonName : RecordingStopReason → ByteString
  | .requested => ascii "requested"
  | .maxDuration => ascii "max_duration"
  | .applicationShutdown => ascii "application_shutdown"

/-- Stop evidence of a recording that no client closed. -/
def serializeInternalStopEvidence (recordingId : ByteString) (reason : RecordingStopReason) :
    ByteString :=
  ascii "\x7b\"schema_version\":1,\"recording_id\":\"" ++ recordingId ++
    ascii "\",\"stop_reason\":\"" ++ getRecordingStopReasonName reason ++ ascii "\"\x7d"

/-- Evidence bytes of a client stop, as `finalizeOrReplay` builds them. -/
def canonicalStop (request : RecordingStartRequest) : ByteString :=
  if request.canonicalJson = [] then
    ascii "\x7b\"schema_version\":1,\"request_id\":\"" ++ request.requestId ++
      ascii "\",\"recording_id\":\"" ++ request.recordingId ++ ascii "\"\x7d"
  else request.canonicalJson

structure FrameIdentity where
  captureGeneration : ℕ := 0
  frameNumber : ℕ := 0
  captureTimestampNs : ℤ := 0
  captureUnixEpochNs : ℤ := 0
  deriving DecidableEq

/-- Lexicographic order on generation and frame number. -/
def isStrictlyAfter (candidate previous : FrameIdentity) : Bool :=
  candidate.captureGeneration > previous.captureGeneration ||
    (candidate.captureGeneration == previous.captureGeneration &&
      candidate.frameNumber > previous.frameNumber)

inductive PixelFormat where
  | unknown
  | rgb8
  | bgr8
  | z16
  deriving DecidableEq

/-- A color view; of the pixels only their presence is kept. -/
structure VideoFrameView where
  width : ℤ
  height : ℤ
  strideBytes : ℤ
  format : PixelFormat
  hasOwner : Bool
  hasData : Bool
  identity : FrameIdentity
  deriving DecidableEq

/-- The snapshot identity and the outcome of `getColorFrameView`, which may throw. -/
structure CapturedFrame where
  identity : FrameIdentity
  colorFrameView : Except Exception (Option VideoFrameView)

theorem requestId_ne_nil {requestId : ByteString} (h : isRecordingRequestIdValid requestId = true) :
    requestId ≠ [] := by
  rintro rfl
  simp [isRecordingRequestIdValid] at h

/-- An accepted start request has safe identities. -/
theorem serialize_ok {request : RecordingStartRequest} {canonical : ByteString}
    (h : serializeRecordingStartRequest request = .ok canonical) :
    isRecordingRequestIdValid request.requestId = true ∧
      isRecordingIdValid request.recordingId = true := by
  unfold serializeRecordingStartRequest at h
  split at h
  · cases h
  · rename_i hv
    simpa using hv

theorem serialize_ne_nil {request : RecordingStartRequest} {canonical : ByteString}
    (h : serializeRecordingStartRequest request = .ok canonical) : canonical ≠ [] := by
  unfold serializeRecordingStartRequest at h
  split at h
  · cases h
  · split at h <;> cases h
    · assumption
    · simp [jsonObject]

end NodusVision.Recording
