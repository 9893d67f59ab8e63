import NodusVision.Geometry.CameraMountTransform
import NodusVision.Manager.Step
import NodusVision.Pilot.Serialization
import NodusVision.Pilot.Transport

/-! What the application constructs from its configuration, and the checks of the constructors. -/
namespace NodusVision.Application
open Text Config Storage Recording Manager

/-- The constructor of `FakeCameraAdapter`. -/
def makeFakeCameraAdapter (config : FakeCameraAdapterConfig) : Except Exception Unit :=
  if config.width ≤ 0 ∨ config.height ≤ 0 ∨ config.fps ≤ 0 then
    .error (.invalidArgument "Fake camera width, height, and fps must be positive.")
  else .ok ()

/-- The adapter that the configuration selects is constructed. -/
def AdapterConstructs : DeviceConfig → Prop
  | .fake config => makeFakeCameraAdapter config = .ok ()
  | .intelD435 config => validateIntelD435AdapterConfig config = .ok ()

structure StreamProfile where
  width : ℤ
  height : ℤ
  fps : ℤ

def colorProfile : DeviceConfig → StreamProfile
  | .fake config => ⟨config.width, config.height, config.fps⟩
  | .intelD435 config => ⟨config.colorWidth, config.colorHeight, config.colorFps⟩

/-- The configuration of the recording manager, whose instance id is that of the process. -/
def recordingManagerConfig (config : VisionConfig) (pid : ℕ) : RecordingManagerConfig where
  queueCapacityFrames := config.recording.queueCapacityFrames.toNat
  width := (colorProfile config.device).width
  height := (colorProfile config.device).height
  fps := (colorProfile config.device).fps
  bitRateBps := config.recording.bitRateBps
  maxDurationMs := config.recording.maxDurationMs
  minimumFreeBytes := config.recording.minimumFreeBytes
  finalizeTimeoutMs := config.recording.finalizeTimeoutMs
  preset := config.recording.preset
  tune := config.recording.tune
  sensorFrame := config.calibration.sensorFrame
  calibrationId := config.calibration.calibrationId
  componentId := config.componentId
  deviceId := config.deviceId
  instanceId := ascii "vision-" ++ jsonNat pid

/-- The constructor of `RecordingManager`, after that of its store. -/
def makeRecordingManager (root : ByteString) (config : RecordingManagerConfig) :
    Except Exception Unit :=
  if isAbsolutePath root = false then
    .error (.invalidArgument "Recording root must be absolute.")
  else if config.isValid = false then
    .error (.invalidArgument "Recording manager configuration is invalid.")
  else .ok ()

/-- The program opens a file, and returns when that succeeds. -/
def ReturnsWhenOpened {α : Type} (path : ManagedPath) (p : StoreProg α) : Prop :=
  ∃ (k : Bool → StoreProg α) (a : α), p = .op (.truncate path) k ∧ k true = .pure a

variable {config : VisionConfig}

theorem adapter_constructs {device : DeviceConfig} (h : device.Accepted) : AdapterConstructs device := by
  cases device with
  | fake config =>
    obtain ⟨hwidth, hheight, hfps⟩ := h
    have hpositive : ¬ (config.width ≤ 0 ∨ config.height ≤ 0 ∨ config.fps ≤ 0) := by omega
    exact if_neg hpositive
  | intelD435 config => exact h.1

theorem colorProfile_pos {device : DeviceConfig} (h : device.Accepted) :
    0 < (colorProfile device).width ∧ 0 < (colorProfile device).height ∧
      0 < (colorProfile device).fps := by
  cases device with
  | fake config => exact h
  | intelD435 config => exact h.2

theorem colorProfile_even {device : DeviceConfig} (h : device.isRecordable = true) :
    (colorProfile device).width % 2 = 0 ∧ (colorProfile device).height % 2 = 0 := by
  cases device with
  | fake config =>
    simp only [DeviceConfig.isRecordable, Bool.and_eq_true, beq_iff_eq] at h
    exact h
  | intelD435 config =>
    simp only [DeviceConfig.isRecordable, Bool.and_eq_true, beq_iff_eq] at h
    exact ⟨h.1.2, h.2⟩

theorem recordingManagerConfig_valid (hb : config.Bounded) (ha : config.recording.Accepted)
    (pid : ℕ) : (recordingManagerConfig config pid).isValid = true := by
  have hqueue : ((recordingManagerConfig config pid).queueCapacityFrames != 0) = true := by
    have hpos := ha.queueCapacityFrames
    simp only [recordingManagerConfig, bne_iff_ne]
    omega
  have hfree : ((recordingManagerConfig config pid).minimumFreeBytes != 0) = true := by
    have hpos := ha.minimumFreeBytes
    simp only [recordingManagerConfig, bne_iff_ne]
    omega
  have hinstance : (recordingManagerConfig config pid).instanceId.isEmpty = false := by
    simp [recordingManagerConfig, ascii]
  have hnonempty {text : ByteString} (h : BoundedText text) : text.isEmpty = false := by
    simpa using h.ne_nil
  simp only [RecordingManagerConfig.isValid, hqueue, hfree, hinstance]
  simp [recordingManagerConfig, hnonempty hb.sensorFrame, hnonempty hb.calibrationId,
    hnonempty hb.componentId, hnonempty hb.deviceId, ha.maxDurationMs, ha.finalizeTimeoutMs,
    ha.preset, ha.tune]

theorem makeRecordingManager_ok (hb : config.Bounded) (ha : config.recording.Accepted) (pid : ℕ) :
    makeRecordingManager config.recording.root (recordingManagerConfig config pid) = .ok () := by
  unfold makeRecordingManager
  rw [ha.root, recordingManagerConfig_valid hb ha pid]
  rfl

/-- The profile of an enabled recording, with the output in a staging artifact. -/
theorem writerConfig_valid {setup : Setup} {pid : ℕ} (recordingId : ByteString)
    (ha : config.Accepted) (hsetup : setup.config = recordingManagerConfig config pid)
    (henabled : config.recording.enabled = true) :
    ColorVideoWriter.isProfileValid (writerConfig setup (artifactPaths recordingId)) = true := by
  obtain ⟨hwidth, hheight, hfps⟩ := colorProfile_pos ha.device
  obtain ⟨hevenWidth, hevenHeight⟩ := colorProfile_even (ha.recordable henabled)
  have hrate := ha.recording.bitRateBps
  have hpath : ((artifactPaths recordingId).stagingDirectory.child (.file .video) != .unset) = true := rfl
  simp only [ColorVideoWriter.isProfileValid, writerConfig, hsetup, recordingManagerConfig, hpath]
  simp [hwidth, hheight, hfps, hevenWidth, hevenHeight, hrate, ha.recording.preset,
    ha.recording.tune]

theorem sidecar_returns {recordingId : ByteString} (path : ManagedPath)
    (hid : isRecordingIdValid recordingId = true) (hb : config.Bounded) :
    ReturnsWhenOpened path (RecordingSidecarWriter.construct path recordingId
      config.calibration.sensorFrame config.calibration.calibrationId) := by
  have hvalid : ¬ (isRecordingIdValid recordingId = false ∨ config.calibration.sensorFrame = [] ∨
      config.calibration.calibrationId = [] ∨ true = false) := by
    simp [hid, hb.sensorFrame.ne_nil, hb.calibrationId.ne_nil]
  have hthrow (e : Exception) : RecordingStore.throwIf (isRecordingIdValid recordingId = false ∨
      config.calibration.sensorFrame = [] ∨ config.calibration.calibrationId = [] ∨ true = false) e =
        .pure () := if_neg hvalid
  let writer : RecordingSidecarWriter :=
    { outputPath := path, recordingId := recordingId
      sensorFrame := config.calibration.sensorFrame
      calibrationId := config.calibration.calibrationId }
  refine ⟨_, writer, rfl, ?_⟩
  rw [Program.Prog.pure_bind, hthrow]
  rfl

end NodusVision.Application
