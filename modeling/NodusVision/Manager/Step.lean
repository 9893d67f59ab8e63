import NodusVision.Manager.State

/-! One step of the recorder: API calls and the worker between two shared accesses, the capture
thread, the clocks and the end of the process. Short sections under `m_mutex` are one step;
`try_lock` may fail at any time, as the standard allows. -/
namespace NodusVision.Manager
open Text Storage Program Recording RecordingStore

namespace System

def hold (s : System) (c : Call) : System := { s with holder := some c }

/-- The call ends and releases `m_mutex`. -/
def release (s : System) (r : Return) : System :=
  { s with holder := none, history := s.history.ended r }

def setState (s : System) (state : RecordingState) : System :=
  { s with impl := { s.impl with state := state }, history := s.history.store state }

def moveWorker (s : System) (pc : WorkerPc) : System :=
  { s with worker := s.worker.map fun w => { w with pc := pc } }

/-- One step of a program of the mutex holder. -/
def advance {α : Type} (s : System) (c : Choice) (point : StoreProg α → Call)
    (onReturn : α → System) (onThrow : Exception → System) : StoreProg α → System
  | .pure a => onReturn a
  | .throw e => onThrow e
  | .op o k => { s with
      machine := (exec o c s.machine).2
      holder := some (point (k (exec o c s.machine).1)) }

/-- One step of a program of the worker. -/
def advanceWorker {α : Type} (s : System) (c : Choice) (point : StoreProg α → WorkerPc)
    (onReturn : α → System) (onThrow : Exception → System) : StoreProg α → System
  | .pure a => onReturn a
  | .throw e => onThrow e
  | .op o k => { s with
      machine := (exec o c s.machine).2 }.moveWorker (point (k (exec o c s.machine).1))

/-- `restorePersistedArtifactLocked` -/
def restorePersistedArtifactLocked (s : System) (artifact : PersistedRecordingArtifact)
    (request : RecordingStartRequest) (canonicalStart : ByteString) : System :=
  let state := if artifact.finalized then RecordingState.finalized else .faulted
  { s with
    impl := { s.impl with
      artifactPaths := artifact.paths
      recordingId := request.recordingId
      counters := {}
      queue := s.impl.queue.reset
      times := {}
      stop := {}
      span := { s.impl.span with hasIdentity := false }
      start := if canonicalStart ≠ [] then ⟨request.requestId, canonicalStart⟩ else {}
      stopRequested := true
      admitting := false
      state := state }
    history := s.history.restore request.recordingId state }

end System

def finalizeTimedOut : Exception :=
  .runtimeError "Recording stop evidence exceeded its configured finalize timeout."

/-- `beginFinalizationLocked`, run by the mutex holder or by the worker inside its loop.
`point` keeps the thread inside, `finish` returns from it and `rethrow` leaves its catch. -/
def BeginPc.step (setup : Setup) (s : System) (c : Choice) (closer : Closer)
    (point : System → BeginPc → System) (finish : System → System)
    (rethrow : System → Exception → System) : BeginPc → System
  | .enter => point
      { s.setState .finalizing with
        history := { s.history.store .finalizing with
          begun := s.impl.recordingId :: s.history.begun } } .closeAdmission
  | .closeAdmission => point
      { s with impl := { s.impl with
          admitting := false
          stopRequested := true
          finalizeDeadline :=
            s.machine.steady + millisecondsNs setup.config.finalizeTimeoutMs } }
      (.evidence (writeStopRequest s.impl.artifactPaths (closer.evidence s.impl.recordingId)))
  | .evidence (.pure _) => point s .checkDeadline
  | .evidence (.throw e) => point s (.fail e)
  | .evidence (.op o k) => point { s with machine := (exec o c s.machine).2 }
      (.evidence (k (exec o c s.machine).1))
  | .checkDeadline =>
    if s.impl.finalizeDeadline ≤ s.machine.steady then point s (.fail finalizeTimedOut)
    else finish { s with
      impl := { s.impl with stop := closer.ledger }
      history := { s.history with closed := some ⟨s.impl.recordingId, closer⟩ } }
  | .fail e => rethrow (s.setState .faulted) e

def alreadyActive : Exception := .runtimeError "A recording is already active."

def startContentReused : Exception :=
  .runtimeError "Recording request ID was reused with different content."

def startIdentityConflict : Exception :=
  .runtimeError "Recording identity exists with different start request content."

def freeSpaceReserve : Exception :=
  .runtimeError "Recording root does not satisfy the configured free-space reserve."

def stopContentReused : Exception :=
  .runtimeError "Recording stop request ID was reused with different content."

def stopIdentityConflict : Exception :=
  .runtimeError "Recording identity exists with different stop request content."

def finalizationIncomplete : Exception :=
  .runtimeError "Persisted recording finalization did not complete."

def recordingUnknown : Exception := .recordingNotFound "Recording is unknown."

def notAcceptingStop : Exception :=
  .runtimeError "Recording is not accepting a stop request."

def finalizationFaulted : Exception := .runtimeError "Recording finalization faulted."

def unsafeStopIdentity : Exception :=
  .invalidArgument "Recording stop request has an unsafe identity."

/-- The file work of the `try` block of `startOrReplay` up to the staging directory. -/
def prepareStaging (setup : Setup) (request : RecordingStartRequest) :
    StoreProg RecordingArtifactPaths := do
  initializeStore
  let available : Option ℕ ← call (.space .root)
  throwIf (∀ n ∈ available, n < setup.config.minimumFreeBytes) freeSpaceReserve
  createStaging request

def writerConfig (setup : Setup) (paths : RecordingArtifactPaths) : ColorVideoWriterConfig where
  outputPath := paths.stagingDirectory.child (.file .video)
  width := setup.config.width
  height := setup.config.height
  fps := setup.config.fps
  bitRateBps := setup.config.bitRateBps
  preset := setup.config.preset
  tune := setup.config.tune

/-- Destruction of the object that a `unique_ptr` held before. -/
def releaseWriter : Option ColorVideoWriter → StoreProg Unit
  | none => .pure ()
  | some w => w.destroy

def releaseSidecar : Option RecordingSidecarWriter → StoreProg Unit
  | none => .pure ()
  | some w => w.destroy

namespace System

/-- The decisions of `startOrReplay` before the join. -/
def startEntered (s : System) (request : RecordingStartRequest) : System :=
  match serializeRecordingStartRequest request with
  | .error e => s.release (.start request (.error e))
  | .ok canonical =>
    if request.recordingId = s.impl.recordingId ∧ request.requestId = s.impl.start.requestId then
      if canonical = s.impl.start.canonical then s.release (.start request (.ok .replayed))
      else s.release (.start request (.error startContentReused))
    else if s.impl.state.isActive then s.release (.start request (.error alreadyActive))
    else if s.worker.isSome then s.hold (.startJoining request canonical)
    else s.hold (.startLookup request canonical (findPersistedArtifact request.recordingId))

def startLookedUp (setup : Setup) (s : System) (request : RecordingStartRequest)
    (canonical : ByteString) : Option PersistedRecordingArtifact → System
  | some artifact =>
    if artifact.startRequest ≠ canonical then
      s.release (.start request (.error startIdentityConflict))
    else (s.restorePersistedArtifactLocked artifact request canonical).release
      (.start request (.ok .replayed))
  | none =>
    { s with
      impl := { s.impl with state := .preparing }
      holder := some (.startPreparing request canonical (prepareStaging setup request))
      history := { s.history with
        sessions := s.history.sessions + 1
        current := s.history.sessions + 1
        phase := Function.update s.history.phase (s.history.sessions + 1) (some .preparing) } }

/-- The session fields of `startOrReplay`, from the recording id to the duration deadline. -/
def publishSession (setup : Setup) (s : System) (request : RecordingStartRequest)
    (canonical : ByteString) : System :=
  { s with
    impl := { s.impl with
      recordingId := request.recordingId
      start := ⟨request.requestId, canonical⟩
      counters := {}
      queue := s.impl.queue.reset
      stopRequested := false
      stop := {}
      span := { s.impl.span with hasIdentity := false }
      times := {
        startedMonotonicNs := s.machine.steady
        startedUnixEpochNs := s.machine.unix }
      durationDeadline := s.machine.steady + millisecondsNs setup.config.maxDurationMs }
    history := { s.history with
      inSession := true
      workerFaulted := false
      admitted := []
      counted := [] } }

/-- The decisions of `finalizeOrReplay` before the lookup. -/
def stopEntered (s : System) (request : RecordingStartRequest) : System :=
  if request.recordingId = s.impl.recordingId ∧ request.requestId = s.impl.stop.requestId then
    if canonicalStop request = s.impl.stop.canonical then
      if s.impl.state = .faulted then s.release (.stop request (.error finalizationFaulted))
      else if s.impl.state = .finalized then s.release (.stop request (.ok .replayed))
      else s.release (.stop request (.ok .accepted))
    else s.release (.stop request (.error stopContentReused))
  else s.hold (.stopLookup request (findPersistedArtifact request.recordingId))

/-- `finalizeOrReplay` from the check of the current recording on. -/
def stopUnrecorded (s : System) (request : RecordingStartRequest) : System :=
  if request.recordingId ≠ s.impl.recordingId then
    s.release (.stop request (.error recordingUnknown))
  else if s.impl.state ≠ .recording then s.release (.stop request (.error notAcceptingStop))
  else s.hold (.stopBegin request .enter)

/-- The replay of a stop whose artifact is finalized. -/
def stopReplayed (s : System) (request : RecordingStartRequest)
    (artifact : PersistedRecordingArtifact) : System :=
  let restored := s.restorePersistedArtifactLocked artifact request []
  if s.impl.state ≠ .recording ∧ s.impl.state ≠ .finalizing then
    { restored with impl := { restored.impl with
        stop := ⟨request.requestId, canonicalStop request, .requested⟩ } }.release
      (.stop request (.ok .replayed))
  else s.release (.stop request (.ok .replayed))

def stopLookedUp (s : System) (request : RecordingStartRequest) :
    Option PersistedRecordingArtifact → System
  | none => s.stopUnrecorded request
  | some artifact =>
    match artifact.stopRequest with
    | none => s.stopUnrecorded request
    | some evidence =>
      if evidence ≠ canonicalStop request then
        s.release (.stop request (.error stopIdentityConflict))
      else if artifact.finalized then s.stopReplayed request artifact
      else if s.impl.state ≠ .finalizing ∨ request.recordingId ≠ s.impl.recordingId then
        s.release (.stop request (.error finalizationIncomplete))
      else s.stopUnrecorded request

/-- `finalize` after its critical section waits for the worker outside the mutex. -/
def shutdownReleases (s : System) : System := { s with holder := none, joiners := s.joiners + 1 }

def shutdownEntered (s : System) : System :=
  if s.impl.state = .recording then s.hold (.shutdownBegin .enter)
  else if s.impl.state = .finalizing ∨ s.impl.state = .finalized ∨ s.impl.state = .faulted then
    s.shutdownReleases
  else s.release .shutdown

/-- The end of the process: its memory is gone, the disk and the clocks stay. -/
def exitProcess (setup : Setup) (s : System) : System :=
  { machine := s.machine
    impl := Impl.initial setup
    history := { s.history with
      phase := fun _ => none
      owner := fun _ => none
      closed := none
      inSession := false
      workerFaulted := false
      admitted := []
      counted := [] } }

/-- The next step of the call that holds the mutex. -/
def callStep (setup : Setup) (s : System) (c : Choice) : Call → Option System
  | .startEntered request => some (s.startEntered request)
  | .startJoining request canonical =>
    if s.workerLive then none
    else some { s with
      worker := none
      holder := some (.startLookup request canonical
        (findPersistedArtifact request.recordingId)) }
  | .startLookup request canonical p => some <|
    s.advance c (.startLookup request canonical) (s.startLookedUp setup request canonical)
      (fun e => s.release (.start request (.error e))) p
  | .startPreparing request canonical p => some <|
    s.advance c (.startPreparing request canonical)
      (fun paths => { s with
        impl := { s.impl with artifactPaths := paths }
        holder := some (.startWriter request canonical
          (ColorVideoWriter.construct (writerConfig setup paths)))
        history := { s.history with
          owner := Function.update s.history.owner request.recordingId
            (some s.history.current) } })
      (fun e => s.hold (.startFailed request e)) p
  | .startWriter request canonical p => some <|
    s.advance c (.startWriter request canonical)
      (fun w => { s with
        impl := { s.impl with writer := some w }
        holder := some (.startReleaseWriter request canonical (releaseWriter s.impl.writer)) })
      (fun e => s.hold (.startFailed request e)) p
  | .startReleaseWriter request canonical p => some <|
    s.advance c (.startReleaseWriter request canonical)
      (fun _ => s.hold (.startSidecar request canonical (RecordingSidecarWriter.construct
        (s.impl.artifactPaths.stagingDirectory.child (.file .sidecar)) request.recordingId
        setup.config.sensorFrame setup.config.calibrationId)))
      (fun e => s.hold (.startFailed request e)) p
  | .startSidecar request canonical p => some <|
    s.advance c (.startSidecar request canonical)
      (fun w => { s with
        impl := { s.impl with sidecar := some w }
        holder := some (.startReleaseSidecar request canonical
          (releaseSidecar s.impl.sidecar)) })
      (fun e => s.hold (.startFailed request e)) p
  | .startReleaseSidecar request canonical p => some <|
    s.advance c (.startReleaseSidecar request canonical)
      (fun _ => s.hold (.startPublish request canonical))
      (fun e => s.hold (.startFailed request e)) p
  | .startPublish request canonical =>
    some ((s.publishSession setup request canonical).hold (.startSpawn request))
  | .startSpawn request =>
    if c.fails then some (s.hold (.startFailed request .systemError))
    else some { s with
      worker := some ⟨request.recordingId, .loop .acquire⟩
      holder := some (.startRecording request) }
  | .startRecording request => some ((s.setState .recording).hold (.startAdmit request))
  | .startAdmit request => some
    ({ s with impl := { s.impl with admitting := true } }.release (.start request (.ok .started)))
  | .startFailed request e => some ((s.setState .faulted).hold (.startRethrow request e))
  | .startRethrow request e => some
    ({ s with impl := { s.impl with admitting := false } }.release (.start request (.error e)))
  | .stopEntered request => some (s.stopEntered request)
  | .stopLookup request p => some <|
    s.advance c (.stopLookup request) (s.stopLookedUp request)
      (fun e => s.release (.stop request (.error e))) p
  | .stopBegin request b => some <|
    b.step setup s c (.requested request) (fun s b => s.hold (.stopBegin request b))
      (fun s => s.release (.stop request (.ok .accepted)))
      (fun s e => s.release (.stop request (.error e)))
  | .shutdownEntered => some s.shutdownEntered
  | .shutdownBegin b => some <|
    b.step setup s c .applicationShutdown (fun s b => s.hold (.shutdownBegin b))
      shutdownReleases (fun s _ => s.hold .shutdownCatch)
  | .shutdownCatch => some <| shutdownReleases
    { s.setState .faulted with
      impl := { s.impl with state := .faulted, admitting := false, stopRequested := true } }
  | .destroying p => some <|
    s.advance c .destroying (fun _ => s.exitProcess setup) (fun _ => s.exitProcess setup) p

/-- Leaving the loop or taking the front frame, at the end of the critical section. -/
def dispatch (s : System) : System :=
  if s.impl.queue.count = 0 ∧ s.impl.stopRequested = true then s.moveWorker (.closing .deadline1)
  else match s.impl.queue.front with
    | some frame =>
      { s with impl := { s.impl with queue := s.impl.queue.pop } }.moveWorker
        (.loop (.frameDeadline frame))
    | none => s.moveWorker .fault

/-- The critical section of the loop once the wait is over. -/
def afterWait (s : System) : System :=
  if s.impl.stopRequested = false ∧ s.impl.durationDeadline ≤ s.machine.steady then
    s.moveWorker (.loop (.begin .enter))
  else s.dispatch

/-- `requireFinalizeWithinDeadline` -/
def requireDeadline (s : System) (next : WorkerPc) : System :=
  if s.impl.stopRequested = true ∧ s.impl.finalizeDeadline ≤ s.machine.steady then
    s.moveWorker .fault
  else s.moveWorker next

/-- The identity checks of `runWorker`; the span is read without the mutex. -/
def frameView (s : System) (frame : CapturedFrame) : Option VideoFrameView :=
  match frame.colorFrameView with
  | .ok (some color) =>
    if color.identity.captureGeneration ≠ frame.identity.captureGeneration ∨
        color.identity.frameNumber ≠ frame.identity.frameNumber ∨
        (s.impl.span.hasIdentity = true ∧
          isStrictlyAfter frame.identity s.impl.span.last = false) ∨
        (s.impl.span.hasIdentity = true ∧
          frame.identity.captureGeneration ≠ s.impl.span.last.captureGeneration) then none
    else some color
  | _ => none

def countFrame (s : System) (frame : CapturedFrame) : System :=
  { s with impl := { s.impl with
      span := {
        first := if s.impl.span.hasIdentity then s.impl.span.first else frame.identity
        last := frame.identity
        hasIdentity := true }
      counters := { s.impl.counters with submitted := s.impl.counters.submitted + 1 } } }

/-- The manifest that `finalizeArtifacts` fills in under the mutex. -/
def manifestSnapshot (setup : Setup) (s : System) : FinalizedRecordingManifest where
  recordingId := s.impl.recordingId
  componentId := setup.config.componentId
  instanceId := setup.config.instanceId
  deviceId := setup.config.deviceId
  sensorFrame := setup.config.sensorFrame
  calibrationId := setup.config.calibrationId
  width := setup.config.width
  height := setup.config.height
  fps := setup.config.fps
  startedMonotonicNs := s.impl.times.startedMonotonicNs
  startedUnixEpochNs := s.impl.times.startedUnixEpochNs
  stoppedMonotonicNs := s.machine.steady
  stoppedUnixEpochNs := s.machine.unix
  admittedFrameCount := s.impl.counters.admitted
  submittedFrameCount := s.impl.counters.submitted
  recordingDropCount := s.impl.counters.recordingDrop + s.impl.counters.contentionDrop
  firstFrame := s.impl.span.first
  lastFrame := s.impl.span.last
  hasFrames := s.impl.span.hasIdentity
  startRequestId := s.impl.start.requestId
  stopRequestId := s.impl.stop.requestId
  stopReason := s.impl.stop.reason

def takeSnapshot (setup : Setup) (s : System) (video sidecar : RecordingArtifactDigest) : System :=
  { s with
    impl := { s.impl with times := { s.impl.times with
      stoppedMonotonicNs := s.machine.steady
      stoppedUnixEpochNs := s.machine.unix } }
    history := { s.history with
      reported := Function.update s.history.reported s.impl.recordingId
        (some s.history.counted) } }.moveWorker
    (.closing (.writeManifest (s.manifestSnapshot setup) video sidecar))

/-- The catch of `runWorker`. -/
def workerCatch (s : System) : System :=
  { s with
    impl := { s.impl with state := .faulted, admitting := false, stopRequested := true }
    history := { s.history.store .faulted with workerFaulted := true } }.moveWorker .finished

def loopStep (setup : Setup) (s : System) (c : Choice) : LoopPc → Option System
  | .acquire =>
    if s.holder.isSome then none
    else if s.impl.stopRequested = false ∧ s.impl.queue.count = 0 then
      some (s.moveWorker (.loop .waiting))
    else some s.afterWait
  | .waiting =>
    -- A wakeup that finds neither the predicate nor the deadline waits again.
    if s.holder.isSome then none
    else if s.impl.queue.count ≠ 0 ∨ s.impl.stopRequested = true ∨
        s.impl.durationDeadline ≤ s.machine.steady then some s.afterWait
    else some s
  | .begin b => some <|
    b.step setup s c .maxDuration (fun s b => s.moveWorker (.loop (.begin b)))
      (fun s => s.moveWorker (.loop .dispatch)) (fun s _ => s.moveWorker .fault)
  | .dispatch => some s.dispatch
  | .frameDeadline frame =>
    if s.holder.isSome then none else some (s.requireDeadline (.loop (.checkFrame frame)))
  | .checkFrame frame =>
    match s.frameView frame, s.impl.writer with
    | some color, some w => some (s.moveWorker (.loop (.writeFrame frame (w.writeFrame color))))
    | _, _ => some (s.moveWorker .fault)
  | .writeFrame frame p => some <|
    s.advanceWorker c (fun p => .loop (.writeFrame frame p))
      (fun r => { s with impl := { s.impl with writer := some r.2 } }.moveWorker
        (match s.impl.sidecar with
        | some sidecar => .loop (.appendFrame frame (sidecar.append ⟨r.1, r.1, frame.identity⟩))
        | none => .fault))
      (fun _ => s.moveWorker .fault) p
  | .appendFrame frame p => some <|
    s.advanceWorker c (fun p => .loop (.appendFrame frame p))
      (fun w => { s with impl := { s.impl with sidecar := some w } }.moveWorker
        (.loop (.countFrame frame)))
      (fun _ => s.moveWorker .fault) p
  | .countFrame frame =>
    if s.holder.isSome then none
    else some ((s.countFrame frame).moveWorker (.loop .acquire))

def closingStep (setup : Setup) (s : System) (c : Choice) : ClosingPc → Option System
  | .deadline1 =>
    if s.holder.isSome then none
    else match s.impl.writer with
      | some w => some (s.requireDeadline (.closing (.writer w.finalize)))
      | none => some (s.moveWorker .fault)
  | .writer p => some <|
    s.advanceWorker c (fun p => .closing (.writer p))
      (fun w => { s with impl := { s.impl with writer := some w } }.moveWorker
        (.closing .deadline2))
      (fun _ => s.moveWorker .fault) p
  | .deadline2 =>
    if s.holder.isSome then none
    else match s.impl.sidecar with
      | some w => some (s.requireDeadline (.closing (.sidecar w.finalize)))
      | none => some (s.moveWorker .fault)
  | .sidecar p => some <|
    s.advanceWorker c (fun p => .closing (.sidecar p))
      (fun w => { s with impl := { s.impl with sidecar := some w } }.moveWorker
        (.closing .deadline3))
      (fun _ => s.moveWorker .fault) p
  | .deadline3 =>
    if s.holder.isSome then none else some (s.requireDeadline (.closing .readDeadline))
  | .readDeadline =>
    if s.holder.isSome then none
    else some (s.moveWorker (.closing (.digestVideo s.impl.finalizeDeadline
      (calculateRecordingArtifactDigest setup.sha256 s.impl.artifactPaths.stagingDirectory
        .video (some s.impl.finalizeDeadline)))))
  | .digestVideo deadline p => some <|
    s.advanceWorker c (fun p => .closing (.digestVideo deadline p))
      (fun video => s.moveWorker (.closing (.digestSidecar video
        (calculateRecordingArtifactDigest setup.sha256 s.impl.artifactPaths.stagingDirectory
          .sidecar (some deadline)))))
      (fun _ => s.moveWorker .fault) p
  | .digestSidecar video p => some <|
    s.advanceWorker c (fun p => .closing (.digestSidecar video p))
      (fun sidecar => s.moveWorker (.closing (.deadline4 video sidecar)))
      (fun _ => s.moveWorker .fault) p
  | .deadline4 video sidecar =>
    if s.holder.isSome then none
    else some (s.requireDeadline (.closing (.snapshot video sidecar)))
  | .snapshot video sidecar =>
    if s.holder.isSome then none else some (s.takeSnapshot setup video sidecar)
  | .writeManifest manifest video sidecar =>
    match serializeFinalizedRecordingManifest manifest video sidecar with
    | .ok contents => some (s.moveWorker (.closing (.manifest
        (writeFinalizedManifest s.impl.artifactPaths contents))))
    | .error _ => some (s.moveWorker .fault)
  | .manifest p => some <|
    s.advanceWorker c (fun p => .closing (.manifest p))
      (fun _ => s.moveWorker (.closing .deadline5))
      (fun _ => s.moveWorker .fault) p
  | .deadline5 =>
    if s.holder.isSome then none
    else some (s.requireDeadline (.closing (.activate (activateFinalized s.impl.artifactPaths))))
  | .activate p => some <|
    s.advanceWorker c (fun p => .closing (.activate p))
      (fun _ => s.moveWorker (.closing .publish))
      (fun _ => s.moveWorker .fault) p
  | .publish =>
    if s.holder.isSome then none
    else some ((s.setState .finalized).moveWorker .finished)

/-- The next step of the worker thread. -/
def workerStep (setup : Setup) (s : System) (c : Choice) : WorkerPc → Option System
  | .loop pc => s.loopStep setup c pc
  | .closing pc => s.closingStep setup c pc
  | .fault => if s.holder.isSome then none else some s.workerCatch
  | .finished => none

/-- `trySubmitFrame` with the mutex. -/
def submit (s : System) (frame : CapturedFrame) : System :=
  if s.impl.state ≠ .recording then
    { s with history := { s.history with submissions := s.history.submissions + 1 } }
  else if s.impl.queue.count = s.impl.queue.slots.length then
    { s with
      impl := { s.impl with
        counters := { s.impl.counters with
          recordingDrop := s.impl.counters.recordingDrop + 1 } }
      history := { s.history with
        submissions := s.history.submissions + 1
        refused := (s.history.submissions, s.impl.recordingId) :: s.history.refused
        counted := s.history.submissions :: s.history.counted } }
  else
    { s with
      impl := { s.impl with
        queue := s.impl.queue.push frame
        counters := { s.impl.counters with admitted := s.impl.counters.admitted + 1 } }
      history := { s.history with
        submissions := s.history.submissions + 1
        admitted := s.history.admitted ++ [frame] } }

/-- `trySubmitFrame` whose `try_lock` failed. -/
def submitContended (s : System) : System :=
  { s with
    capture := some ⟨s.history.submissions, false⟩
    history := { s.history with
      submissions := s.history.submissions + 1
      refused := if s.impl.state = .recording
        then (s.history.submissions, s.impl.recordingId) :: s.history.refused
        else s.history.refused } }

/-- The load of `m_admitting`, then the increment of the contention counter. -/
def captureStep (s : System) (call : CaptureCall) : System :=
  if call.counting = true then
    { s with
      capture := none
      impl := { s.impl with
        counters := { s.impl.counters with
          contentionDrop := s.impl.counters.contentionDrop + 1 } }
      history := { s.history with counted := call.submission :: s.history.counted } }
  else if s.impl.admitting = true then { s with capture := some { call with counting := true } }
  else { s with capture := none }

end System

inductive ApiCall where
  | start (request : RecordingStartRequest)
  | stop (request : RecordingStartRequest)
  | shutdown
  | destroy
  deriving DecidableEq

inductive Event where
  | tick (ns : ℕ)
  | setUnix (ns : ℤ)
  | call (c : ApiCall)
  | callStep (c : Choice)
  | workerStep (c : Choice)
  | join
  | submit (frame : CapturedFrame)
  | submitContended (frame : CapturedFrame)
  | captureStep
  | crash

def isStopValid (request : RecordingStartRequest) : Bool :=
  isRecordingRequestIdValid request.requestId && isRecordingIdValid request.recordingId

namespace System

/-- A call gets the mutex; `finalizeOrReplay` rejects unsafe identities before it. -/
def enter (s : System) : ApiCall → Option System
  | .start request =>
    if s.mutexFree then
      some { s.hold (.startEntered request) with history := { s.history with closed := none } }
    else none
  | .stop request =>
    if isStopValid request = false then
      some { s with history := s.history.ended (.stop request (.error unsafeStopIdentity)) }
    else if s.mutexFree then some (s.hold (.stopEntered request)) else none
  | .shutdown => if s.mutexFree then some (s.hold .shutdownEntered) else none
  | .destroy =>
    if s.mutexFree ∧ s.worker.isNone ∧ s.joiners = 0 ∧ s.capture.isNone then
      some (s.hold (.destroying
        ((releaseSidecar s.impl.sidecar).bind fun _ => releaseWriter s.impl.writer)))
    else none

def step (setup : Setup) (s : System) : Event → Option System
  | .tick ns => some { s with machine := { s.machine with steady := s.machine.steady + ns } }
  | .setUnix ns => some { s with machine := { s.machine with unix := ns } }
  | .call c => s.enter c
  | .callStep c => s.holder.bind (s.callStep setup c)
  | .workerStep c => s.worker.bind fun w => s.workerStep setup c w.pc
  | .join =>
    if 0 < s.joiners ∧ s.workerLive = false then
      some { s with
        worker := none, joiners := s.joiners - 1, history := s.history.ended .shutdown }
    else none
  | .submit frame => if s.mutexFree ∧ s.capture.isNone then some (s.submit frame) else none
  | .submitContended _ => if s.capture.isNone then some s.submitContended else none
  | .captureStep => s.capture.map s.captureStep
  | .crash => some (s.exitProcess setup)

end System

/-- Disks on which the recorder starts: no artifacts, and no foreign node at a managed path. -/
def FreshDisk (d : Disk) : Prop :=
  (∀ m id, d (.artifact m id) = none) ∧ (∀ m id n, d (.entry m id n) = none) ∧
    (d .root = none ∨ d .root = some .directory) ∧
    ∀ m, d (.managed m) = none ∨ d .root = some .directory ∧ d (.managed m) = some .directory

def System.initial (setup : Setup) (machine : Machine) : System where
  machine := machine
  impl := Impl.initial setup

def IsInitial (setup : Setup) (s : System) : Prop :=
  ∃ machine, FreshDisk machine.disk ∧ s = System.initial setup machine

end NodusVision.Manager
