import NodusVision.Application.Lifecycle
import NodusVision.Application.Encoder
import NodusVision.Program.Threads
import NodusVision.Recording.Manifest

/-! The functions of the encoder thread, the capture thread and the recording worker as programs
whose calls may throw. -/
namespace NodusVision.Application
open Text Storage Provider Pilot Program Transition
open Recording (FrameIdentity VideoFrameView RecordingState isStrictlyAfter)

structure ThreadSetup where
  queueCapacityFrames : ℕ
  maxDurationMs : ℤ
  finalizeTimeoutMs : ℤ
  /-- The pilot client exists and is started with the integration enabled. -/
  hasPilot : Bool

/-- What `runWorker` reads and writes of `RecordingManager::Impl`. -/
structure RecorderMemory where
  state : RecordingState := .idle
  admitting : Bool := false
  stopRequested : Bool := false
  queue : List CapturedFrame := []
  durationDeadline : ℤ := 0
  finalizeDeadline : ℤ := 0
  /-- `m_last_identity` once `m_has_identity` holds -/
  lastIdentity : Option FrameIdentity := none
  submittedFrameCount : ℕ := 0

/-- The memory that the threads share; times are of the steady clock, in nanoseconds. -/
structure ThreadWorld where
  store : FrameStore := {}
  cache : EncodedPreviewCache := {}
  health : ProviderHealth := {}
  /-- `m_pending_state` of the pilot client -/
  pendingState : Option ProviderState := none
  stopRequested : Bool := false
  recorder : RecorderMemory := {}
  now : ℤ := 0

/-- What the critical section at the head of the loop of `runWorker` ends in. -/
inductive Taken where
  | waiting
  | leaving
  | frame (frame : CapturedFrame)

/-- The calls of `finalizeArtifacts` between which it looks at the deadline. -/
inductive FinalizeStage where
  | writer
  | sidecar
  | digestVideo
  | digestSidecar
  | manifest
  | activation

inductive ThreadOp where
  | isStopRequested
  | waitForFrameAfter (identity : FrameIdentity)
  | invalidateGeneration (captureGeneration : ℕ)
  /-- `getColorFrameView` and `getDepthPreviewFrameView` -/
  | frameView (kind : PreviewKind) (frame : CapturedFrame)
  | encodeRgbJpeg (kind : PreviewKind) (view : VideoFrameView)
  | publishPreview (kind : PreviewKind) (preview : EncodedPreview)
  | notifyStreamFrame (kind : PreviewKind)
  | setLastError (what : ByteString)
  | readFrame
  | publishFrame (frame : Option CapturedFrame)
  | trySubmitFrame (frame : Option CapturedFrame)
  | setDegraded
  | updateProviderState (state : ProviderState)
  | takeFrame
  | requireFinalizeWithinDeadline
  | checkFrame (frame : CapturedFrame) (color : Option VideoFrameView)
  | writeFrame (color : VideoFrameView)
  | appendFrame (index : ℕ) (identity : FrameIdentity)
  | countFrame (identity : FrameIdentity)
  | finalizeStage (stage : FinalizeStage)
  | setFinalized
  | setFaulted

/-- A call that can throw answers what it returns or the exception. -/
@[reducible] def ThreadOp.Res : ThreadOp → Type
  | .isStopRequested | .publishPreview .. | .setDegraded => Bool
  | .waitForFrameAfter _ => Option CapturedFrame
  | .frameView .. => Except Exception (Option VideoFrameView)
  | .encodeRgbJpeg .. => Except Exception ByteString
  | .readFrame => Except Exception (Option CapturedFrame)
  | .takeFrame => Except Exception Taken
  | .checkFrame .. => Except Exception VideoFrameView
  | .writeFrame _ => Except Exception ℕ
  | .notifyStreamFrame _ | .requireFinalizeWithinDeadline | .appendFrame .. | .finalizeStage _ =>
    Except Exception Unit
  | .invalidateGeneration _ | .setLastError _ | .publishFrame _ | .trySubmitFrame _
  | .updateProviderState _ | .countFrame _ | .setFinalized | .setFaulted => Unit

abbrev ThreadProg (α : Type) := Prog ThreadOp.Res Exception α

def ThreadOp.call (o : ThreadOp) : ThreadProg o.Res := Prog.perform o

/-! The passes of the three loops -/
open ThreadOp (call)

/-- One kind of preview: `encodeRgbJpeg` and what follows it, in their own handler. -/
def encodePreview (kind : PreviewKind) : Option VideoFrameView → ThreadProg Unit
  | none => pure ()
  | some view =>
    Prog.tryCatch
      (do
        let jpeg ← call (.encodeRgbJpeg kind view) >>= Prog.ofExcept
        let stored ← call (.publishPreview kind { identity := view.identity, jpeg })
        if stored then call (.notifyStreamFrame kind) >>= Prog.ofExcept
        else pure ())
      fun _ => call (.setLastError (Encoding.encodingFailed kind))

/-- The accessors of the frame stand outside the handlers. -/
def encoderPass (lastEncodedIdentity : FrameIdentity) : ThreadProg (Option FrameIdentity) := do
  if ← call .isStopRequested then return none
  match ← call (.waitForFrameAfter lastEncodedIdentity) with
  | none => return some lastEncodedIdentity
  | some frame =>
    call (.invalidateGeneration frame.identity.captureGeneration)
    let color ← call (.frameView .color frame) >>= Prog.ofExcept
    encodePreview .color color
    let depth ← call (.frameView .depth frame) >>= Prog.ofExcept
    encodePreview .depth depth
    return some frame.identity

def captureFailed : ByteString := ascii "Camera frame capture failed; retrying."

def captureHandler : ThreadProg (Option Unit) := do
  if ← call .isStopRequested then return some ()
  call (.setLastError captureFailed)
  if ← call .setDegraded then
    call (.updateProviderState .degraded)
    return some ()
  return some ()

def capturePass (_ : Unit) : ThreadProg (Option Unit) := do
  if ← call .isStopRequested then return none
  Prog.tryCatch
    (do
      let frame ← call .readFrame >>= Prog.ofExcept
      call (.publishFrame frame)
      call (.trySubmitFrame frame)
      return some ())
    fun _ => captureHandler

def requireFinalizeWithinDeadline : ThreadProg Unit :=
  call .requireFinalizeWithinDeadline >>= Prog.ofExcept

def finalizeStage (stage : FinalizeStage) : ThreadProg Unit :=
  call (.finalizeStage stage) >>= Prog.ofExcept

def finalizeArtifacts : ThreadProg Unit := do
  requireFinalizeWithinDeadline
  finalizeStage .writer
  requireFinalizeWithinDeadline
  finalizeStage .sidecar
  requireFinalizeWithinDeadline
  finalizeStage .digestVideo
  finalizeStage .digestSidecar
  requireFinalizeWithinDeadline
  finalizeStage .manifest
  requireFinalizeWithinDeadline
  finalizeStage .activation
  call .setFinalized

/-- The handler stands around the loop, so a pass that it handles is the last. -/
def recorderPass (_ : Unit) : ThreadProg (Option Unit) :=
  Prog.tryCatch
    (do
      match ← call .takeFrame >>= Prog.ofExcept with
      | .waiting => return some ()
      | .leaving =>
        finalizeArtifacts
        return none
      | .frame frame =>
        requireFinalizeWithinDeadline
        let color ← call (.frameView .color frame) >>= Prog.ofExcept
        let view ← call (.checkFrame frame color) >>= Prog.ofExcept
        let index ← call (.writeFrame view) >>= Prog.ofExcept
        call (.appendFrame index frame.identity) >>= Prog.ofExcept
        call (.countFrame frame.identity)
        return some ())
    fun _ => do
      call .setFaulted
      return none

/-! What the calls do -/

/-- How the environment meets one call. -/
structure ThreadChoice where
  /-- What the call throws, if it is one that can throw. -/
  throws : Option Exception := none
  /-- What an accessor of a frame answers; two calls on one frame can differ. -/
  view : Except Exception (Option VideoFrameView) := .ok none
  frame : Option CapturedFrame := none
  jpeg : ByteString := []
  index : ℕ := 0
  /-- Another thread holds the mutex of the recording manager. -/
  contended : Bool := false

def ThreadChoice.outcome {α : Type} (c : ThreadChoice) (a : α) : Except Exception α :=
  match c.throws with
  | none => .ok a
  | some e => .error e

namespace RecorderMemory

/-- `trySubmitFrame` with a frame -/
def submit (r : RecorderMemory) (setup : ThreadSetup) (c : ThreadChoice) (frame : CapturedFrame) :
    RecorderMemory :=
  if c.contended ∨ r.state ≠ .recording ∨ r.queue.length = setup.queueCapacityFrames then r
  else { r with queue := r.queue ++ [frame] }

/-- `beginFinalizationLocked` up to the evidence, which can fail. -/
def beginFinalization (r : RecorderMemory) (setup : ThreadSetup) (now : ℤ) : RecorderMemory :=
  { r with
    state := .finalizing
    admitting := false
    stopRequested := true
    finalizeDeadline := now + nanoseconds setup.finalizeTimeoutMs }

/-- The frame at the head of the queue; only a requested stop leaves the queue empty here. -/
def dequeue (r : RecorderMemory) : Taken × RecorderMemory :=
  match r.queue with
  | [] => (.leaving, r)
  | frame :: rest => (.frame frame, { r with queue := rest })

def takeFrame (r : RecorderMemory) (setup : ThreadSetup) (c : ThreadChoice) (now : ℤ) :
    Except Exception Taken × RecorderMemory :=
  if r.stopRequested = false ∧ r.queue = [] ∧ now < r.durationDeadline then (.ok .waiting, r)
  else if r.stopRequested = false ∧ r.durationDeadline ≤ now then
    match c.throws with
    | some e => (.error e, { r.beginFinalization setup now with state := .faulted })
    | none =>
      let taken := (r.beginFinalization setup now).dequeue
      (.ok taken.1, taken.2)
  else (.ok r.dequeue.1, r.dequeue.2)

def isLate (r : RecorderMemory) (now : ℤ) : Bool :=
  r.stopRequested && decide (r.finalizeDeadline ≤ now)

def finalizationLate : Exception :=
  .runtimeError "Recording finalization exceeded its configured timeout."

def identityInvalid : Exception :=
  .runtimeError "Recording frame identity is invalid or out of order."

def generationChanged : Exception := .runtimeError "Recording capture generation changed."

def checkFrame (r : RecorderMemory) (frame : CapturedFrame) :
    Option VideoFrameView → Except Exception VideoFrameView
  | none => .error identityInvalid
  | some color =>
    if color.identity.captureGeneration ≠ frame.identity.captureGeneration ∨
        color.identity.frameNumber ≠ frame.identity.frameNumber ∨
        r.lastIdentity.any (fun last => !isStrictlyAfter frame.identity last) then
      .error identityInvalid
    else if r.lastIdentity.any fun last =>
        last.captureGeneration != frame.identity.captureGeneration then
      .error generationChanged
    else .ok color

end RecorderMemory

namespace ThreadWorld

/-- One call of a thread -/
def exec (setup : ThreadSetup) : (o : ThreadOp) → ThreadChoice → ThreadWorld → o.Res × ThreadWorld
  | .isStopRequested, _, s => (s.stopRequested, s)
  | .waitForFrameAfter identity, _, s =>
    (if s.store.hasNewerFrame identity then s.store.latestFrame else none, s)
  | .invalidateGeneration captureGeneration, _, s =>
    ((), { s with cache := s.cache.invalidateGeneration captureGeneration })
  | .frameView _ _, c, s => (c.view, s)
  | .encodeRgbJpeg _ _, c, s => (c.outcome c.jpeg, s)
  | .publishPreview kind preview, _, s =>
    ((s.cache.publishPreview kind (some preview) s.now).1,
      { s with cache := (s.cache.publishPreview kind (some preview) s.now).2 })
  | .notifyStreamFrame _, c, s => (c.outcome (), s)
  | .setLastError what, _, s => ((), { s with health := { s.health with lastError := what } })
  | .readFrame, c, s => (c.outcome c.frame, s)
  | .publishFrame frame, _, s => ((), { s with store := (s.store.publishFrame frame s.now).2 })
  | .trySubmitFrame none, _, s => ((), s)
  | .trySubmitFrame (some frame), c, s =>
    ((), { s with recorder := s.recorder.submit setup c frame })
  | .setDegraded, _, s =>
    (decide (s.health.state ≠ .degraded), { s with health := { s.health with state := .degraded } })
  | .updateProviderState state, _, s =>
    ((), if setup.hasPilot then { s with pendingState := some state } else s)
  | .takeFrame, c, s =>
    ((s.recorder.takeFrame setup c s.now).1,
      { s with recorder := (s.recorder.takeFrame setup c s.now).2 })
  | .requireFinalizeWithinDeadline, _, s =>
    (if s.recorder.isLate s.now then .error RecorderMemory.finalizationLate else .ok (), s)
  | .checkFrame frame color, _, s => (s.recorder.checkFrame frame color, s)
  | .writeFrame _, c, s => (c.outcome c.index, s)
  | .appendFrame _ _, c, s => (c.outcome (), s)
  | .countFrame identity, _, s =>
    ((), { s with recorder := { s.recorder with
      lastIdentity := some identity
      submittedFrameCount := s.recorder.submittedFrameCount + 1 } })
  | .finalizeStage _, c, s => (c.outcome (), s)
  | .setFinalized, _, s => ((), { s with recorder := { s.recorder with state := .finalized } })
  | .setFaulted, _, s =>
    ((), { s with recorder := { s.recorder with
      state := .faulted
      admitting := false
      stopRequested := true } })

end ThreadWorld

/-- The three threads; `recorder` is the worker of the latest start. -/
structure Threads where
  world : ThreadWorld
  encoder : Thread ThreadOp.Res Exception FrameIdentity
  capture : Thread ThreadOp.Res Exception Unit
  recorder : Thread ThreadOp.Res Exception Unit

namespace Threads

inductive Event where
  | encoder (choice : ThreadChoice)
  | capture (choice : ThreadChoice)
  | recorder (choice : ThreadChoice)
  | requestStop
  | startRecording
  | stopRecording
  | elapse (duration : ℕ)

/-- An exception that left a thread function has terminated the process. -/
def isTerminated (s : Threads) : Bool :=
  s.encoder.isTerminated || s.capture.isTerminated || s.recorder.isTerminated

def startRecording (setup : ThreadSetup) (s : Threads) : Option Threads :=
  match s.recorder with
  | .returned =>
    some { s with
      world := { s.world with recorder := {
        state := .recording
        admitting := true
        durationDeadline := s.world.now + nanoseconds setup.maxDurationMs } }
      recorder := .running (recorderPass ()) }
  | _ => none

def stopRecording (setup : ThreadSetup) (s : Threads) : Option Threads :=
  if s.world.recorder.state = .recording then
    some { s with world := { s.world with
      recorder := s.world.recorder.beginFinalization setup s.world.now } }
  else none

/-- A step of a process that still runs -/
def act (setup : ThreadSetup) (s : Threads) : Event → Option Threads
  | .encoder c =>
    let after := s.encoder.step (ThreadWorld.exec setup) encoderPass c s.world
    some { s with encoder := after.1, world := after.2 }
  | .capture c =>
    let after := s.capture.step (ThreadWorld.exec setup) capturePass c s.world
    some { s with capture := after.1, world := after.2 }
  | .recorder c =>
    let after := s.recorder.step (ThreadWorld.exec setup) recorderPass c s.world
    some { s with recorder := after.1, world := after.2 }
  | .requestStop => some { s with world := { s.world with stopRequested := true } }
  | .startRecording => s.startRecording setup
  | .stopRecording => s.stopRecording setup
  | .elapse duration => some { s with world := { s.world with now := s.world.now + duration } }

def step (setup : ThreadSetup) (s : Threads) (event : Event) : Option Threads :=
  if s.isTerminated then none else s.act setup event

/-- The threads have just been created, and nothing is recorded. -/
def IsInitial (s : Threads) : Prop :=
  s.world.store = {} ∧ s.world.cache = {} ∧ s.world.stopRequested = false ∧
    s.encoder = .running (encoderPass {}) ∧ s.capture = .running (capturePass ()) ∧
    s.recorder = .returned

end Threads

end NodusVision.Application
