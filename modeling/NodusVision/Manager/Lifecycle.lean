import NodusVision.Manager.Storage.Worker

/-! The recorder as its recordings see it: the phase of every recording, the ledgers of the
current one, the two threads and the disk. Frames, counters and writers are left out. -/
namespace NodusVision.Manager
open Text Storage Disk Program Recording RecordingStore

structure Lifecycle where
  state : RecordingState
  recordingId : ByteString
  start : StartLedger
  stop : StopLedger
  stopRequested : Bool
  finalizeDeadline : ℕ
  inSession : Bool
  sessions : ℕ
  current : ℕ
  phase : ℕ → Option RecordingState
  owner : ByteString → Option ℕ
  begun : List ByteString
  closed : Option ClosedRecord
  returns : List Return
  holder : Option Call
  worker : Option Worker
  disk : Disk
  steady : ℕ

def System.lifecycle (s : System) : Lifecycle where
  state := s.impl.state
  recordingId := s.impl.recordingId
  start := s.impl.start
  stop := s.impl.stop
  stopRequested := s.impl.stopRequested
  finalizeDeadline := s.impl.finalizeDeadline
  inSession := s.history.inSession
  sessions := s.history.sessions
  current := s.history.current
  phase := s.history.phase
  owner := s.history.owner
  begun := s.history.begun
  closed := s.history.closed
  returns := s.history.returns
  holder := s.holder
  worker := s.worker
  disk := s.machine.disk
  steady := s.machine.steady

/-- The start that works on its staging artifact. -/
def Call.preparing : Call → Option RecordingStartRequest
  | .startPreparing request _ _ => some request
  | _ => none

/-- The start from the completion of its staging artifact to its return. -/
def Call.building : Call → Option RecordingStartRequest
  | .startWriter request _ _ | .startReleaseWriter request _ _ | .startSidecar request _ _
  | .startReleaseSidecar request _ _ | .startPublish request _ | .startSpawn request
  | .startRecording request | .startAdmit request => some request
  | _ => none

/-- The call is a start of the request between its lookup and its return. -/
def Call.Starts (call : Call) (request : RecordingStartRequest) : Prop :=
  call.preparing = some request ∨ call.building = some request

/-- The closer for which the call runs `beginFinalizationLocked`. -/
def Call.closing : Call → Option (Closer × BeginPc)
  | .stopBegin request b => some (.requested request, b)
  | .shutdownBegin b => some (.applicationShutdown, b)
  | _ => none

/-- Paths that the next step of a call may change, closers apart. -/
def Call.writes : Call → Set ManagedPath
  | .startPreparing request _ _ => startPaths request.recordingId
  | .startWriter _ _ _ | .startReleaseWriter _ _ _ | .startSidecar _ _ _
  | .startReleaseSidecar _ _ _ | .destroying _ => outputPaths
  | _ => ∅

/-- Paths that the next step of the worker may change, closers apart. -/
def WorkerPc.writes (recordingId : ByteString) : WorkerPc → Set ManagedPath
  | .closing (.manifest _) => writtenPaths recordingId .manifest
  | .closing (.activate _) => artifactTree .staging recordingId ∪ artifactTree .finalized recordingId
  | _ => outputPaths

/-- A client stop names the recording that it closes. -/
def Closer.IsFor (recordingId : ByteString) : Closer → Prop
  | .requested request => isStopValid request = true ∧ request.recordingId = recordingId
  | _ => True

/-- Answers that neither start a recording nor accept a stop. -/
def Return.isPlain : Return → Bool
  | .start _ (.ok .started) | .stop _ (.ok .accepted) => false
  | _ => true

/-- Where a step of `beginFinalizationLocked` leads. -/
inductive BeginResult where
  | point (b : BeginPc)
  | finished
  | failed (e : Exception)

namespace Lifecycle

def store (v : Lifecycle) (state : RecordingState) : Lifecycle :=
  { v with state := state, phase := Function.update v.phase v.current (some state) }

def restored (v : Lifecycle) (recordingId : ByteString) : ℕ :=
  (v.owner recordingId).getD (v.sessions + 1)

def restore (v : Lifecycle) (recordingId : ByteString) (state : RecordingState)
    (start : StartLedger) (stop : StopLedger) : Lifecycle :=
  { v with
    state := state
    recordingId := recordingId
    start := start
    stop := stop
    stopRequested := true
    inSession := false
    sessions := max v.sessions (v.restored recordingId)
    current := v.restored recordingId
    phase := Function.update v.phase (v.restored recordingId) (some state)
    owner := Function.update v.owner recordingId (some (v.restored recordingId)) }

def answer (v : Lifecycle) (r : Return) : Lifecycle :=
  { v with holder := none, returns := r :: v.returns }

def moveWorker (v : Lifecycle) (w : Worker) (pc : WorkerPc) : Lifecycle :=
  { v with worker := some { w with pc := pc } }

/-- The finalize deadline of a closed recording has passed. -/
def Expired (v : Lifecycle) : Prop := v.stopRequested = true ∧ v.finalizeDeadline ≤ v.steady

/-- A call moves on without touching ledgers; a closer enters a recording that takes frames. -/
structure Follows (v : Lifecycle) (call call' : Call) : Prop where
  preparing : call'.preparing = none ∨ call'.preparing = call.preparing
  building : call'.building = none ∨ call'.building = call.building
  closing : ∀ closer b, call'.closing = some (closer, b) →
    b = .enter ∧ v.state = .recording ∧ closer.IsFor v.recordingId
  lookup : ∀ request p, call' = .stopLookup request p → (∃ q, call = .stopLookup request q) ∨
    ¬(request.recordingId = v.recordingId ∧ request.requestId = v.stop.requestId)

/-- Steps of `beginFinalizationLocked`. -/
inductive Begins (v : Lifecycle) (closer : Closer) : BeginPc → BeginResult → Lifecycle → Prop
  | enter : Begins v closer .enter (.point .closeAdmission)
      { v.store .finalizing with begun := v.recordingId :: v.begun }
  | close (timeout : ℕ) (p : StoreProg Unit) :
      Begins v closer .closeAdmission (.point (.evidence p))
        { v with stopRequested := true, finalizeDeadline := v.steady + timeout }
  | write (d : Disk) (p p' : StoreProg Unit)
      (hd : Changes (writtenPaths v.recordingId .stopRequest) v.disk d) :
      Begins v closer (.evidence p) (.point (.evidence p')) { v with disk := d }
  | written (a : Unit) : Begins v closer (.evidence (.pure a)) (.point .checkDeadline) v
  | unwritten (e : Exception) : Begins v closer (.evidence (.throw e)) (.point (.fail e)) v
  | late (h : v.Expired) : Begins v closer .checkDeadline (.point (.fail finalizeTimedOut)) v
  | finish (h : v.steady < v.finalizeDeadline)
      (hs : StopIs v.disk v.recordingId (closer.evidence v.recordingId)) :
      Begins v closer .checkDeadline .finished
        { v with stop := closer.ledger, closed := some ⟨v.recordingId, closer⟩ }
  | fail (e : Exception) : Begins v closer (.fail e) (.failed e) (v.store .faulted)

/-- Moves of the worker that store no state. -/
inductive Moves (v : Lifecycle) : WorkerPc → WorkerPc → Prop
  | within {k l : LoopPc} (hk : (WorkerPc.loop k).inLoop = true ∨ k = .dispatch)
      (hl : (WorkerPc.loop l).inLoop = true) : Moves v (.loop k) (.loop l)
  | wake {k : LoopPc} (hk : (WorkerPc.loop k).inLoop = true) (h : v.stopRequested = false) :
      Moves v (.loop k) (.loop (.begin .enter))
  | leave {k : LoopPc} (hk : (WorkerPc.loop k).inLoop = true ∨ k = .dispatch)
      (h : v.stopRequested = true) : Moves v (.loop k) (.closing .deadline1)
  | close {k : ClosingPc} (hk : k ≠ .deadline1 ∧ k ≠ .publish) (h : ¬v.Expired) :
      Moves v (.closing .deadline1) (.closing k)
  | closing {j k : ClosingPc} (hj : j ≠ .deadline1) (hk : k ≠ .deadline1 ∧ k ≠ .publish)
      (ha : ∀ p, j = .activate p → ∃ q, k = .activate q) : Moves v (.closing j) (.closing k)
  | activated (a : Unit) : Moves v (.closing (.activate (.pure a))) (.closing .publish)
  | fault {pc : WorkerPc} (hl : pc.isLive = true) (hm : pc.holdsMutex = true → pc = .loop .dispatch)
      (ha : ∀ p, pc = .closing (.activate p) → ∃ e, p = .throw e)
      (hp : pc ≠ .closing .publish) : Moves v pc .fault

/-- Steps of the recorder on its recordings. -/
inductive Next (v : Lifecycle) : Lifecycle → Prop
  | tick (n : ℕ) (h : v.steady ≤ n) : Next v { v with steady := n }
  | enter (call : Call) (closed : Option ClosedRecord) (hh : v.holder = none)
      (hs : ∀ request, ¬call.Starts request) (hc : call.closing = none)
      (hcl : closed = v.closed ∨ closed = none) :
      Next v { v with holder := some call, closed := closed }
  | reject (r : Return) (hr : r.isPlain = true) : Next v { v with returns := r :: v.returns }
  | answer {call : Call} (r : Return) (hh : v.holder = some call) (hr : r.isPlain = true) :
      Next v (v.answer r)
  | repeated {request : RecordingStartRequest} (hh : v.holder = some (.stopEntered request))
      (hv : isStopValid request = true) (hid : request.recordingId = v.recordingId)
      (hreq : request.requestId = v.stop.requestId)
      (hcan : canonicalStop request = v.stop.canonical) :
      Next v (v.answer (.stop request (.ok .accepted)))
  | proceed {call call' : Call} (d : Disk) (hh : v.holder = some call) (hf : v.Follows call call')
      (hd : Changes call.writes v.disk d) : Next v { v with disk := d, holder := some call' }
  | await (hh : v.holder = some .shutdownEntered) : Next v { v with holder := none }
  | joined (hdead : ∀ w, v.worker = some w → w.pc.isLive = false) :
      Next v { v with worker := none, returns := .shutdown :: v.returns }
  | startJoined {request : RecordingStartRequest} {canonical : ByteString}
      (hh : v.holder = some (.startJoining request canonical))
      (hdead : ∀ w, v.worker = some w → w.pc.isLive = false) (p) :
      Next v { v with worker := none, holder := some (.startLookup request canonical p) }
  | startRestored {request : RecordingStartRequest} {canonical : ByteString}
      {artifact : PersistedRecordingArtifact}
      (hh : v.holder = some (.startLookup request canonical (.pure (some artifact))))
      (hw : v.worker = none) (hc : Canonical request canonical)
      (heq : artifact.startRequest = canonical)
      (hheld : Holds v.disk (place artifact.finalized) request.recordingId
        (some artifact.startRequest) artifact.stopRequest) :
      Next v ((v.restore request.recordingId (if artifact.finalized then .finalized else .faulted)
        ⟨request.requestId, canonical⟩ {}).answer (.start request (.ok .replayed)))
  | stopRestored {request : RecordingStartRequest} {artifact : PersistedRecordingArtifact}
      (hh : v.holder = some (.stopLookup request (.pure (some artifact))))
      (hfin : artifact.finalized = true) (hs : v.state ≠ .recording ∧ v.state ≠ .finalizing)
      (hv : isStopValid request = true)
      (heq : artifact.stopRequest = some (canonicalStop request))
      (hheld : Holds v.disk .finalized request.recordingId (some artifact.startRequest)
        artifact.stopRequest) :
      Next v ((v.restore request.recordingId .finalized {}
        ⟨request.requestId, canonicalStop request, .requested⟩).answer
          (.stop request (.ok .replayed)))
  | prepare {request : RecordingStartRequest} {canonical : ByteString}
      (hh : v.holder = some (.startLookup request canonical (.pure none)))
      (hw : v.worker = none) (habsent : ∀ m, v.disk (.artifact m request.recordingId) = none) (p) :
      Next v { v with
        state := .preparing
        sessions := v.sessions + 1
        current := v.sessions + 1
        phase := Function.update v.phase (v.sessions + 1) (some .preparing)
        holder := some (.startPreparing request canonical p) }
  | create {request : RecordingStartRequest} {canonical : ByteString}
      {paths : RecordingArtifactPaths}
      (hh : v.holder = some (.startPreparing request canonical (.pure paths)))
      (hw : v.worker = none) (hs : v.state = .preparing)
      (hp : Prepared request.recordingId canonical v.disk) (p) :
      Next v { v with
        owner := Function.update v.owner request.recordingId (some v.current)
        holder := some (.startWriter request canonical p) }
  | publish {request : RecordingStartRequest} {canonical : ByteString}
      (hh : v.holder = some (.startPublish request canonical)) (hw : v.worker = none)
      (hs : v.state = .preparing) (hc : Canonical request canonical)
      (hp : Started request.recordingId canonical v.disk) :
      Next v { v with
        recordingId := request.recordingId
        start := ⟨request.requestId, canonical⟩
        stop := {}
        stopRequested := false
        inSession := true
        holder := some (.startSpawn request) }
  | spawn {request : RecordingStartRequest} (hh : v.holder = some (.startSpawn request))
      (hw : v.worker = none) (hs : v.state = .preparing) (hr : v.stopRequested = false)
      (hid : v.recordingId = request.recordingId) (hin : v.inSession = true)
      (hp : Started request.recordingId v.start.canonical v.disk) :
      Next v { v with
        worker := some ⟨request.recordingId, .loop .acquire⟩
        holder := some (.startRecording request) }
  | record {request : RecordingStartRequest} (hh : v.holder = some (.startRecording request))
      (hs : v.state = .preparing) (hid : v.recordingId = request.recordingId) :
      Next v { v.store .recording with holder := some (.startAdmit request) }
  | started {request : RecordingStartRequest} (hh : v.holder = some (.startAdmit request))
      (hid : v.recordingId = request.recordingId) (hreq : v.start.requestId = request.requestId)
      (hc : Canonical request v.start.canonical)
      (hp : Started request.recordingId v.start.canonical v.disk) :
      Next v (v.answer (.start request (.ok .started)))
  | startFailed {request : RecordingStartRequest} {e : Exception}
      (hh : v.holder = some (.startFailed request e)) (hw : v.worker = none)
      (hs : v.state = .preparing) :
      Next v { v.store .faulted with holder := some (.startRethrow request e) }
  | beginPoint {call call' : Call} {closer : Closer} {b b' : BeginPc} {u : Lifecycle}
      (hh : v.holder = some call) (hc : call.closing = some (closer, b))
      (hc' : call'.closing = some (closer, b')) (hf : closer.IsFor v.recordingId)
      (hb : v.Begins closer b (.point b') u) : Next v { u with holder := some call' }
  | beginFinished {call : Call} {closer : Closer} {b : BeginPc} {u : Lifecycle}
      (rs : List Return) (hh : v.holder = some call) (hc : call.closing = some (closer, b))
      (hf : closer.IsFor v.recordingId) (hb : v.Begins closer b .finished u)
      (hr : ∀ r ∈ rs, ∃ request, closer = .requested request ∧ r = .stop request (.ok .accepted)) :
      Next v { u with holder := none, returns := rs ++ u.returns }
  | beginFailed {call : Call} {closer : Closer} {b : BeginPc} {e : Exception} {u : Lifecycle}
      (h' : Option Call) (rs : List Return) (hh : v.holder = some call)
      (hc : call.closing = some (closer, b)) (hb : v.Begins closer b (.failed e) u)
      (hh' : h' = none ∨ h' = some .shutdownCatch) (hr : ∀ r ∈ rs, r.isPlain = true) :
      Next v { u with holder := h', returns := rs ++ u.returns }
  | shutdownCatch (hh : v.holder = some .shutdownCatch) (hs : v.state = .faulted)
      (hr : v.stopRequested = true) :
      Next v { v.store .faulted with stopRequested := true, holder := none }
  | work {w : Worker} {pc : WorkerPc} (d : Disk) (hw : v.worker = some w) (hm : v.Moves w.pc pc)
      (hd : Changes (w.pc.writes w.recordingId) v.disk d) :
      Next v { v.moveWorker w pc with disk := d }
  | workBegin {w : Worker} {b b' : BeginPc} {u : Lifecycle} (hh : v.holder = none)
      (hw : v.worker = some w) (hpc : w.pc = .loop (.begin b))
      (hid : v.recordingId = w.recordingId) (hin : v.inSession = true)
      (hb : v.Begins .maxDuration b (.point b') u) : Next v (u.moveWorker w (.loop (.begin b')))
  | workFinished {w : Worker} {b : BeginPc} {u : Lifecycle} (hh : v.holder = none)
      (hw : v.worker = some w) (hpc : w.pc = .loop (.begin b))
      (hid : v.recordingId = w.recordingId) (hin : v.inSession = true)
      (hb : v.Begins .maxDuration b .finished u) : Next v (u.moveWorker w (.loop .dispatch))
  | workFailed {w : Worker} {b : BeginPc} {e : Exception} {u : Lifecycle} (hh : v.holder = none)
      (hw : v.worker = some w) (hpc : w.pc = .loop (.begin b))
      (hid : v.recordingId = w.recordingId) (hin : v.inSession = true)
      (hb : v.Begins .maxDuration b (.failed e) u) : Next v (u.moveWorker w .fault)
  | finalized {w : Worker} (hh : v.holder = none) (hw : v.worker = some w)
      (hpc : w.pc = .closing .publish) (hfin : Finalized v.disk w.recordingId) :
      Next v ((v.store .finalized).moveWorker w .finished)
  | faulted {w : Worker} (hh : v.holder = none) (hw : v.worker = some w) (hpc : w.pc = .fault) :
      Next v { (v.store .faulted).moveWorker w .finished with stopRequested := true }
  | exit : Next v { v with
      state := .idle
      recordingId := []
      start := {}
      stop := {}
      stopRequested := false
      finalizeDeadline := 0
      inSession := false
      phase := fun _ => none
      owner := fun _ => none
      closed := none
      holder := none
      worker := none }

/-- The write of stop evidence by an API closer has failed. -/
def EvidenceFailed (v : Lifecycle) : Prop :=
  ∃ call closer e, v.holder = some call ∧ call.closing = some (closer, .evidence (.throw e))

/-- The activation has failed after its rename. -/
def ActivationFailed (v : Lifecycle) : Prop :=
  ∃ w e, v.worker = some w ∧ w.pc = .closing (.activate (.throw e)) ∧
    Finalized v.disk w.recordingId

/-- A stop replay is about to restore its artifact while a worker runs. -/
def Displaces (v : Lifecycle) : Prop :=
  ∃ request artifact w, v.holder = some (.stopLookup request (.pure (some artifact))) ∧
    artifact.finalized = true ∧ artifact.stopRequest = some (canonicalStop request) ∧
    v.state ≠ .recording ∧ v.state ≠ .finalizing ∧ v.worker = some w ∧ w.pc.isLive = true

/-- A start has failed while the member fields name a finalized recording. -/
def StartFailedOver (v : Lifecycle) : Prop :=
  ∃ request e, v.holder = some (.startFailed request e) ∧ Finalized v.disk v.recordingId

/-- A closer is about to leave `beginFinalizationLocked` through its catch. -/
def ClosingFailed (v : Lifecycle) : Prop :=
  (∃ call closer e, v.holder = some call ∧ call.closing = some (closer, .fail e)) ∨
    ∃ w e, v.worker = some w ∧ w.pc = .loop (.begin (.fail e))

end Lifecycle

end NodusVision.Manager
