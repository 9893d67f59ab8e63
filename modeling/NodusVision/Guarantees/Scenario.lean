import NodusVision.Manager.Refinement

/-! Runs from a process that starts on an empty disk, for inputs on which a property fails. -/
namespace NodusVision.Guarantees
open Text Storage Recording Manager Transition

def sampleConfig : RecordingManagerConfig where
  queueCapacityFrames := 2
  width := 64
  height := 64
  fps := 30
  bitRateBps := 100000
  maxDurationMs := 10000
  minimumFreeBytes := 1
  finalizeTimeoutMs := 1000
  preset := ascii "veryfast"
  tune := ascii "zerolatency"
  sensorFrame := ascii "color"
  calibrationId := ascii "calibration"
  componentId := ascii "vision"
  deviceId := ascii "device"
  instanceId := ascii "instance"

def sampleSetup : Setup where
  config := sampleConfig
  valid := by decide
  sha256 := fun contents => [UInt8.ofNat contents.length]

def emptyMachine : Machine where
  disk := fun _ => none
  steady := 0
  unix := 0

def sampleStart : System := System.initial sampleSetup emptyMachine

theorem sampleStart_isInitial : IsInitial sampleSetup sampleStart :=
  ⟨emptyMachine, ⟨fun _ _ => rfl, fun _ _ _ => rfl, .inl rfl, fun _ => .inl rfl⟩, rfl⟩

/-- Transfers are complete and nothing fails. -/
def smooth : Choice := { amount := 1000000 }

def failing : Choice := { fails := true }

def calls (n : ℕ) : List Event := List.replicate n (.callStep smooth)

def works (n : ℕ) : List Event := List.replicate n (.workerStep smooth)

def request (requestId recordingId : String) : RecordingStartRequest where
  requestId := ascii requestId
  recordingId := ascii recordingId
  canonicalJson := []

/-- A run whose steps all pass a check leads to a state that passes a test. -/
theorem sample_reach (ok : System → Event → System → Prop) (check test : System → Bool)
    (hcheck : ∀ s e t, check s = true → ok s e t) (events : List Event)
    (h : (runEvents (System.step sampleSetup) (fun s _ => check s) sampleStart events).any test =
      true) :
    ∃ s, Reach (IsInitial sampleSetup) (System.step sampleSetup) ok s ∧ test s = true :=
  (Reach.start sampleStart_isInitial).exists_run (fun s e t hc _ => hcheck s e t hc) h

end NodusVision.Guarantees
