import NodusVision.Adapters.FakeFrames
import NodusVision.Provider.Contracts
import NodusVision.Transition.Reach

/-! The calls of the deterministic camera, and the frames that a history of calls returns. -/
namespace NodusVision.Adapters
open Text Program Recording Provider Config Transition

inductive CameraLifecycle where
  | disconnected
  | connected
  | streaming
  | degraded
  deriving DecidableEq

structure CameraHealthSnapshot where
  lifecycle : CameraLifecycle := .disconnected
  deviceId : ByteString := []
  latestIdentity : FrameIdentity := {}
  latestFrameAgeMs : ℤ := -1
  timeoutCount : ℕ := 0
  lastDiagnostic : String := ""

/-- The configuration with the flags that only tests set. -/
structure FakeStreamConfig extends FakeCameraAdapterConfig where
  autoAdvance : Bool := true
  injectTimeout : Bool := false
  injectReadError : Bool := false
  deviceId : ByteString := ascii "fake_camera"

/-- `FakeCameraAdapter::Impl` -/
structure FakeAdapter where
  health : CameraHealthSnapshot := {}
  connected : Bool := false
  streaming : Bool := false
  manualFrameReady : Bool := false
  captureGeneration : ℕ := 0
  nextFrameNumber : ℕ := 0

inductive FakeError where
  | runtimeError (what : String)
  /-- while the frame is made, after its number is counted -/
  | fault (fault : Fault)

/-- What an unsigned integer of 64 bits keeps of a result. -/
def uint64 (value : ℤ) : ℕ := (value % 2 ^ 64).toNat

namespace FakeAdapter

def make (config : FakeStreamConfig) : Checked FakeAdapter :=
  if config.width ≤ 0 ∨ config.height ≤ 0 ∨ config.fps ≤ 0 then
    .error (.invalidArgument "Fake camera width, height, and fps must be positive.")
  else .ok { health := { deviceId := config.deviceId } }

def connectCamera (a : FakeAdapter) : FakeAdapter :=
  { a with connected := true, health := { a.health with lifecycle := .connected } }

def disconnectCamera (a : FakeAdapter) : FakeAdapter :=
  { a with
    streaming := false
    connected := false
    health := { a.health with lifecycle := .disconnected } }

def startStream (config : FakeStreamConfig) (a : FakeAdapter) : Except FakeError FakeAdapter :=
  if a.connected then
    .ok { a with
      streaming := true
      captureGeneration := uint64 (a.captureGeneration + 1)
      nextFrameNumber := uint64 (config.startFrameNumber - 1)
      health := { a.health with lifecycle := .streaming } }
  else .error (.runtimeError "Fake camera is not connected.")

def stopStream (a : FakeAdapter) : FakeAdapter :=
  { a with
    streaming := false
    health := { a.health with lifecycle := if a.connected then .connected else .disconnected } }

def advanceFrame (a : FakeAdapter) : FakeAdapter := { a with manualFrameReady := true }

section
variable {D : Type} [Zero D] [Add D] [Mul D] [IntCast D]
variable (pattern : FakePattern D) (config : FakeStreamConfig)

/-- `makeFrame`, with the number that it counts up first. -/
def takeFrame (a : FakeAdapter) : Except FakeError (FakeCapturedFrame D) × FakeAdapter :=
  let counted := { a with nextFrameNumber := uint64 (a.nextFrameNumber + 1) }
  match makeFrame pattern config.toFakeCameraAdapterConfig a.captureGeneration
      counted.nextFrameNumber with
  | .error fault => (.error (.fault fault), counted)
  | .ok frame => (.ok frame, { counted with
      health := { a.health with
        latestIdentity := frame.snapshot.identity
        latestFrameAgeMs := 0 } })

def timedOut (a : FakeAdapter) : FakeAdapter :=
  { a with health := { a.health with timeoutCount := a.health.timeoutCount + 1 } }

def readFrame (timeoutMs : ℤ) (a : FakeAdapter) :
    Except FakeError (FakeCapturedFrame D) × FakeAdapter :=
  if !a.streaming then (.error (.runtimeError "Fake camera stream is not running."), a)
  else if timeoutMs ≤ 0 ∨ config.injectTimeout then
    (.error (.runtimeError "Fake camera frame read timed out."), a.timedOut)
  else if config.injectReadError then
    (.error (.runtimeError "Fake camera injected read error."),
      { a with health := { a.health with lastDiagnostic := "Fake camera injected read error." } })
  else if !config.autoAdvance && !a.manualFrameReady then
    (.error (.runtimeError "Fake camera has no caller-advanced frame."), a.timedOut)
  else takeFrame pattern config { a with manualFrameReady := false }

/-- The call left everything but the health as it was. -/
def SameStream (a b : FakeAdapter) : Prop :=
  b.connected = a.connected ∧ b.streaming = a.streaming ∧ b.manualFrameReady = a.manualFrameReady ∧
    b.captureGeneration = a.captureGeneration ∧ b.nextFrameNumber = a.nextFrameNumber

/-- A read counted up the frame number. -/
structure Counts (a b : FakeAdapter) : Prop where
  streaming : a.streaming = true
  advanced : config.autoAdvance = true ∨ a.manualFrameReady = true
  connected : b.connected = a.connected
  streams : b.streaming = a.streaming
  taken : b.manualFrameReady = false
  captureGeneration : b.captureGeneration = a.captureGeneration
  nextFrameNumber : b.nextFrameNumber = uint64 (a.nextFrameNumber + 1)

end

section
variable {D : Type} [Zero D] [Add D] [Mul D] [IntCast D]
variable {pattern : FakePattern D} {config : FakeStreamConfig}

theorem makeFrame_identity {plain : FakeCameraAdapterConfig} {captureGeneration frameNumber : ℕ}
    {frame : FakeCapturedFrame D}
    (h : makeFrame pattern plain captureGeneration frameNumber = .ok frame) :
    frame.snapshot.identity.captureGeneration = captureGeneration ∧
      frame.snapshot.identity.frameNumber = frameNumber := by
  obtain ⟨_, -, h⟩ := bind_eq_ok.mp h
  obtain ⟨_, -, h⟩ := bind_eq_ok.mp h
  obtain ⟨_, -, h⟩ := bind_eq_ok.mp h
  cases h
  exact ⟨rfl, rfl⟩

/-- The answer of a read that counted: a frame with the new number, or a fault. -/
def Answers (answer : Except FakeError (FakeCapturedFrame D)) (b : FakeAdapter) : Prop :=
  (∃ fault, answer = .error (.fault fault)) ∨
    ∃ frame, answer = .ok frame ∧
      frame.snapshot.identity.captureGeneration = b.captureGeneration ∧
      frame.snapshot.identity.frameNumber = b.nextFrameNumber

theorem takeFrame_cases (a : FakeAdapter) :
    SameStream { a with nextFrameNumber := uint64 (a.nextFrameNumber + 1) }
        (takeFrame pattern config a).2 ∧
      Answers (takeFrame pattern config a).1 (takeFrame pattern config a).2 := by
  unfold takeFrame
  dsimp only
  split
  · rename_i fault _
    constructor
    · exact ⟨rfl, rfl, rfl, rfl, rfl⟩
    · exact .inl ⟨fault, rfl⟩
  · rename_i frame hframe
    constructor
    · exact ⟨rfl, rfl, rfl, rfl, rfl⟩
    · exact .inr ⟨frame, rfl, makeFrame_identity hframe⟩

/-- A read is refused, or it counts up the number, which the frame then has. -/
theorem readFrame_cases (timeoutMs : ℤ) (a : FakeAdapter) :
    ((∃ what, (readFrame pattern config timeoutMs a).1 = .error (.runtimeError what)) ∧
      SameStream a (readFrame pattern config timeoutMs a).2) ∨
    (Counts config a (readFrame pattern config timeoutMs a).2 ∧
      Answers (readFrame pattern config timeoutMs a).1 (readFrame pattern config timeoutMs a).2) := by
  unfold readFrame
  split
  · exact .inl ⟨⟨_, rfl⟩, rfl, rfl, rfl, rfl, rfl⟩
  · rename_i hstreaming
    split
    · exact .inl ⟨⟨_, rfl⟩, rfl, rfl, rfl, rfl, rfl⟩
    · split
      · exact .inl ⟨⟨_, rfl⟩, rfl, rfl, rfl, rfl, rfl⟩
      · split
        · exact .inl ⟨⟨_, rfl⟩, rfl, rfl, rfl, rfl, rfl⟩
        · rename_i hready
          obtain ⟨⟨hconnected, hstreams, htaken, hgeneration, hnumber⟩, h⟩ :=
            @takeFrame_cases D _ _ _ _ pattern config { a with manualFrameReady := false }
          have hadvanced : config.autoAdvance = true ∨ a.manualFrameReady = true := by
            cases hauto : config.autoAdvance with
            | true => exact .inl rfl
            | false =>
              right
              simpa [hauto] using hready
          right
          constructor
          · exact ⟨by simpa using hstreaming, hadvanced, hconnected, hstreams, htaken, hgeneration,
              hnumber⟩
          · exact h

end
end FakeAdapter

end NodusVision.Adapters
