import NodusVision.Recording.VideoWriter
import NodusVision.Recording.Manifest

/-! Memory of `RecordingManager::Impl`, the program points of its threads, and the record of
past events that no step reads. -/
namespace NodusVision.Manager
open Text Storage Program Recording

structure RecordingManagerConfig where
  queueCapacityFrames : ℕ
  width : ℤ
  height : ℤ
  fps : ℤ
  bitRateBps : ℤ
  maxDurationMs : ℤ
  minimumFreeBytes : ℕ
  finalizeTimeoutMs : ℤ
  preset : ByteString
  tune : ByteString
  sensorFrame : ByteString
  calibrationId : ByteString
  componentId : ByteString
  deviceId : ByteString
  instanceId : ByteString

/-- The check of the `Impl` constructor. -/
def RecordingManagerConfig.isValid (c : RecordingManagerConfig) : Bool :=
  c.queueCapacityFrames != 0 && !c.sensorFrame.isEmpty && !c.calibrationId.isEmpty &&
    !c.componentId.isEmpty && !c.deviceId.isEmpty && !c.instanceId.isEmpty &&
    decide (0 < c.maxDurationMs) && c.minimumFreeBytes != 0 && decide (0 < c.finalizeTimeoutMs) &&
    c.preset == ascii "veryfast" && c.tune == ascii "zerolatency"

/-- An accepted configuration, with the SHA-256 of libavutil as a parameter. -/
structure Setup where
  config : RecordingManagerConfig
  valid : config.isValid = true
  sha256 : ByteString → List UInt8

def millisecondsNs (ms : ℤ) : ℕ := ms.toNat * 1000000

/-- `m_queue` with its indices. -/
structure FrameRing where
  slots : List (Option CapturedFrame)
  head : ℕ := 0
  tail : ℕ := 0
  count : ℕ := 0

namespace FrameRing

def empty (capacity : ℕ) : FrameRing := { slots := List.replicate capacity none }

def push (r : FrameRing) (frame : CapturedFrame) : FrameRing :=
  { r with
    slots := r.slots.set r.tail (some frame)
    tail := (r.tail + 1) % r.slots.length
    count := r.count + 1 }

/-- The moved-from slot is left null. -/
def pop (r : FrameRing) : FrameRing :=
  { r with
    slots := r.slots.set r.head none
    head := (r.head + 1) % r.slots.length
    count := r.count - 1 }

def front (r : FrameRing) : Option CapturedFrame := r.slots.getD r.head none

def reset (r : FrameRing) : FrameRing := empty r.slots.length

end FrameRing

structure FrameCounters where
  admitted : ℕ := 0
  submitted : ℕ := 0
  recordingDrop : ℕ := 0
  contentionDrop : ℕ := 0
  deriving DecidableEq

structure IdentitySpan where
  first : FrameIdentity := {}
  last : FrameIdentity := {}
  hasIdentity : Bool := false
  deriving DecidableEq

/-- Monotonic and Unix times of start and stop. -/
structure RecordingTimes where
  startedMonotonicNs : ℤ := 0
  startedUnixEpochNs : ℤ := 0
  stoppedMonotonicNs : ℤ := 0
  stoppedUnixEpochNs : ℤ := 0
  deriving DecidableEq

structure StartLedger where
  requestId : ByteString := []
  canonical : ByteString := []
  deriving DecidableEq

structure StopLedger where
  requestId : ByteString := []
  canonical : ByteString := []
  reason : RecordingStopReason := .applicationShutdown
  deriving DecidableEq

/-- The members of `Impl`; `m_mutex` and `m_worker` are part of `System`. -/
structure Impl where
  artifactPaths : RecordingArtifactPaths := {}
  queue : FrameRing
  writer : Option ColorVideoWriter := none
  sidecar : Option RecordingSidecarWriter := none
  recordingId : ByteString := []
  start : StartLedger := {}
  stop : StopLedger := {}
  span : IdentitySpan := {}
  counters : FrameCounters := {}
  state : RecordingState := .idle
  admitting : Bool := false
  times : RecordingTimes := {}
  durationDeadline : ℕ := 0
  finalizeDeadline : ℕ := 0
  stopRequested : Bool := false

def Impl.initial (setup : Setup) : Impl :=
  { queue := FrameRing.empty setup.config.queueCapacityFrames }

/-- Who closes a recording, as `beginFinalizationLocked` is told. -/
inductive Closer where
  | requested (request : RecordingStartRequest)
  | maxDuration
  | applicationShutdown
  deriving DecidableEq

namespace Closer

def reason : Closer → RecordingStopReason
  | .requested _ => .requested
  | .maxDuration => .maxDuration
  | .applicationShutdown => .applicationShutdown

/-- Bytes written to stop_request.json. -/
def evidence (recordingId : ByteString) : Closer → ByteString
  | .requested request => canonicalStop request
  | .maxDuration => serializeInternalStopEvidence recordingId .maxDuration
  | .applicationShutdown => serializeInternalStopEvidence recordingId .applicationShutdown

def requestId : Closer → ByteString
  | .requested request => request.requestId
  | _ => []

def canonical : Closer → ByteString
  | .requested request => canonicalStop request
  | _ => []

/-- `m_stop_request_id`, `m_stop_canonical` and `m_stop_reason` after the closer. -/
def ledger (closer : Closer) : StopLedger where
  requestId := closer.requestId
  canonical := closer.canonical
  reason := closer.reason

end Closer

/-- Program points of `beginFinalizationLocked`. -/
inductive BeginPc where
  | enter
  | closeAdmission
  | evidence (p : StoreProg Unit)
  | checkDeadline
  | fail (e : Exception)

/-- Program points of the API call that holds `m_mutex`. -/
inductive Call where
  | startEntered (request : RecordingStartRequest)
  | startJoining (request : RecordingStartRequest) (canonical : ByteString)
  | startLookup (request : RecordingStartRequest) (canonical : ByteString)
      (p : StoreProg (Option PersistedRecordingArtifact))
  | startPreparing (request : RecordingStartRequest) (canonical : ByteString)
      (p : StoreProg RecordingArtifactPaths)
  | startWriter (request : RecordingStartRequest) (canonical : ByteString)
      (p : StoreProg ColorVideoWriter)
  | startReleaseWriter (request : RecordingStartRequest) (canonical : ByteString)
      (p : StoreProg Unit)
  | startSidecar (request : RecordingStartRequest) (canonical : ByteString)
      (p : StoreProg RecordingSidecarWriter)
  | startReleaseSidecar (request : RecordingStartRequest) (canonical : ByteString)
      (p : StoreProg Unit)
  | startPublish (request : RecordingStartRequest) (canonical : ByteString)
  | startSpawn (request : RecordingStartRequest)
  | startRecording (request : RecordingStartRequest)
  | startAdmit (request : RecordingStartRequest)
  | startFailed (request : RecordingStartRequest) (e : Exception)
  | startRethrow (request : RecordingStartRequest) (e : Exception)
  | stopEntered (request : RecordingStartRequest)
  | stopLookup (request : RecordingStartRequest)
      (p : StoreProg (Option PersistedRecordingArtifact))
  | stopBegin (request : RecordingStartRequest) (b : BeginPc)
  | shutdownEntered
  | shutdownBegin (b : BeginPc)
  | shutdownCatch
  | destroying (p : StoreProg Unit)

/-- Program points of `runWorker` inside its loop. -/
inductive LoopPc where
  | acquire
  | waiting
  | begin (b : BeginPc)
  | dispatch
  | frameDeadline (frame : CapturedFrame)
  | checkFrame (frame : CapturedFrame)
  | writeFrame (frame : CapturedFrame) (p : StoreProg (ℕ × ColorVideoWriter))
  | appendFrame (frame : CapturedFrame) (p : StoreProg RecordingSidecarWriter)
  | countFrame (frame : CapturedFrame)

/-- Program points of `finalizeArtifacts`. -/
inductive ClosingPc where
  | deadline1
  | writer (p : StoreProg ColorVideoWriter)
  | deadline2
  | sidecar (p : StoreProg RecordingSidecarWriter)
  | deadline3
  | readDeadline
  | digestVideo (deadline : ℕ) (p : StoreProg RecordingArtifactDigest)
  | digestSidecar (video : RecordingArtifactDigest) (p : StoreProg RecordingArtifactDigest)
  | deadline4 (video sidecar : RecordingArtifactDigest)
  | snapshot (video sidecar : RecordingArtifactDigest)
  | writeManifest (manifest : FinalizedRecordingManifest) (video sidecar : RecordingArtifactDigest)
  | manifest (p : StoreProg Unit)
  | deadline5
  | activate (p : StoreProg Unit)
  | publish

inductive WorkerPc where
  | loop (pc : LoopPc)
  | closing (pc : ClosingPc)
  | fault
  | finished

/-- `m_worker`, with the recording whose start created it. -/
structure Worker where
  recordingId : ByteString
  pc : WorkerPc

/-- A `trySubmitFrame` call that did not get the mutex: before the load of `m_admitting`, or
before the increment of the counter. -/
structure CaptureCall where
  submission : ℕ
  counting : Bool
  deriving DecidableEq

inductive RecordingStartResult where
  | started
  | replayed
  deriving DecidableEq

inductive RecordingStopResult where
  | accepted
  | replayed
  deriving DecidableEq

/-- How an API call ended. -/
inductive Return where
  | start (request : RecordingStartRequest) (result : Except Exception RecordingStartResult)
  | stop (request : RecordingStartRequest) (result : Except Exception RecordingStopResult)
  | shutdown

/-- The closing of the current recording that completed without an exception. -/
structure ClosedRecord where
  recordingId : ByteString
  closer : Closer

/-- Past events. No step of the manager reads them. -/
structure History where
  /-- Ended API calls, the latest first. -/
  returns : List Return := []
  /-- Recordings that reached PREPARING or were restored. -/
  sessions : ℕ := 0
  /-- The recording that `m_state` speaks of. -/
  current : ℕ := 0
  /-- State last stored for each recording of this process. -/
  phase : ℕ → Option RecordingState := fun _ => none
  /-- The recording of this process that created or restored the artifact of an id. -/
  owner : ByteString → Option ℕ := fun _ => none
  /-- Recordings on which `beginFinalizationLocked` ran. -/
  begun : List ByteString := []
  closed : Option ClosedRecord := none
  /-- The session fields belong to a start of this process and no restore followed it. -/
  inSession : Bool := false
  /-- The worker of the latest start has faulted. -/
  workerFaulted : Bool := false
  /-- Frames admitted since the latest start. -/
  admitted : List CapturedFrame := []
  /-- Number of `trySubmitFrame` calls with a frame. -/
  submissions : ℕ := 0
  /-- Submissions refused while a recording was in RECORDING. -/
  refused : List (ℕ × ByteString) := []
  /-- Submissions counted in the drop counters since they were last cleared. -/
  counted : List ℕ := []
  /-- Submissions counted in the manifest snapshot of a recording. -/
  reported : ByteString → Option (List ℕ) := fun _ => none

structure System where
  machine : Machine
  impl : Impl
  holder : Option Call := none
  worker : Option Worker := none
  joiners : ℕ := 0
  capture : Option CaptureCall := none
  history : History := {}

namespace History

def store (h : History) (state : RecordingState) : History :=
  { h with phase := Function.update h.phase h.current (some state) }

/-- The recording whose artifact a restore reads; one of an earlier process is new to this one. -/
def restored (h : History) (recordingId : ByteString) : ℕ :=
  (h.owner recordingId).getD (h.sessions + 1)

def restore (h : History) (recordingId : ByteString) (state : RecordingState) : History :=
  { h with
    sessions := max h.sessions (h.restored recordingId)
    current := h.restored recordingId
    phase := Function.update h.phase (h.restored recordingId) (some state)
    owner := Function.update h.owner recordingId (some (h.restored recordingId))
    inSession := false
    counted := [] }

def ended (h : History) (r : Return) : History := { h with returns := r :: h.returns }

end History

namespace WorkerPc

/-- Inside `beginFinalizationLocked` the worker holds the mutex. -/
def holdsMutex : WorkerPc → Bool
  | .loop (.begin _) | .loop .dispatch => true
  | _ => false

def isLive : WorkerPc → Bool
  | .finished => false
  | _ => true

end WorkerPc

structure RecordingStatus where
  state : RecordingState
  recordingId : ByteString
  admittedFrameCount : ℕ
  submittedFrameCount : ℕ
  recordingDropCount : ℕ
  queueDepth : ℕ
  queueCapacity : ℕ
  orphanStagingCount : ℕ
  times : RecordingTimes
  artifactPath : ByteString

namespace System

def mutexFree (s : System) : Bool :=
  s.holder.isNone && s.worker.all fun w => !w.pc.holdsMutex

/-- The worker thread exists and has not returned. -/
def workerLive (s : System) : Bool := s.worker.any fun w => w.pc.isLive

/-- `getStatus` once it has the mutex; the count of staging directories is read after it. -/
def getStatus (s : System) (stagingCount : ℕ) : RecordingStatus where
  state := s.impl.state
  recordingId := s.impl.recordingId
  admittedFrameCount := s.impl.counters.admitted
  submittedFrameCount := s.impl.counters.submitted
  recordingDropCount := s.impl.counters.recordingDrop + s.impl.counters.contentionDrop
  queueDepth := s.impl.queue.count
  queueCapacity := s.impl.queue.slots.length
  orphanStagingCount := stagingCount
  times := s.impl.times
  artifactPath :=
    if s.impl.state = .finalized then ascii "finalized/" ++ s.impl.recordingId else []

end System

end NodusVision.Manager
