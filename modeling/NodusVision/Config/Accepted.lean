import NodusVision.Config.VisionConfig

/-! What the parser has checked of a configuration that it returns. -/
namespace NodusVision.Config
open Text Program

/-- The profiles that a device streams. -/
def DeviceConfig.Accepted : DeviceConfig → Prop
  | .fake config => 0 < config.width ∧ 0 < config.height ∧ 0 < config.fps
  | .intelD435 config =>
    validateIntelD435AdapterConfig config = .ok () ∧ 0 < config.colorWidth ∧
      0 < config.colorHeight ∧ 0 < config.colorFps

structure MountLocalTransform.Accepted (transform : MountLocalTransform) : Prop where
  x : isTranslationAllowed transform.x = true
  y : isTranslationAllowed transform.y = true
  z : isTranslationAllowed transform.z = true
  eulerType : isEulerTypeSupported transform.eulerType = true

structure PilotConfig.Accepted (config : PilotConfig) : Prop where
  baseUrl : isAdvertisedUrlValid config.baseUrl = .ok true
  connectTimeoutMs : 0 < config.connectTimeoutMs
  requestTimeoutMs : 0 < config.requestTimeoutMs
  maxResponseBytes : 0 < config.maxResponseBytes

structure RecordingConfig.Accepted (config : RecordingConfig) : Prop where
  root : isAbsolutePath config.root = true
  queueCapacityFrames : 0 < config.queueCapacityFrames
  maxDurationMs : 0 < config.maxDurationMs
  minimumFreeBytes : 0 < config.minimumFreeBytes
  finalizeTimeoutMs : 0 < config.finalizeTimeoutMs
  bitRateBps : 0 < config.bitRateBps
  preset : config.preset = ascii "veryfast"
  tune : config.tune = ascii "zerolatency"

structure VisionConfig.Accepted (config : VisionConfig) : Prop where
  device : config.device.Accepted
  transform : config.calibration.mountLocalTransform.Accepted
  advertisedBaseUrl : isAdvertisedUrlValid config.provider.advertisedBaseUrl = .ok true
  pilot : config.pilot.Accepted
  recording : config.recording.Accepted
  recordable : config.recording.enabled = true → config.device.isRecordable = true

/-- The conditions on a URL, with its port as a number. -/
structure UrlValid (url : ByteString) (port : ℕ) : Prop where
  scheme : httpPrefix.isPrefixOf url = true
  wildcard : url.tails.any (ascii "0.0.0.0").isPrefixOf = false
  excluded : (ascii "*@?#").any url.contains = false
  separator : (authority url).contains 58 = true
  host : (portText (authority url)).length + 1 ≠ (authority url).length
  nonempty : portText (authority url) ≠ []
  digits : (portText (authority url)).all isDigit = true
  number : stoi (portText (authority url)) = .ok port
  range : 1 ≤ port ∧ port ≤ 65535

theorem isAdvertisedUrlValid_iff {url : ByteString} :
    isAdvertisedUrlValid url = .ok true ↔ ∃ port, UrlValid url port := by
  unfold isAdvertisedUrlValid
  simp only [ite_eq_ok, bind_eq_ok, Except.ok.injEq, Bool.false_eq_true, and_false, false_or,
    Bool.or_eq_true, Bool.not_eq_true', not_or, Bool.not_eq_false, Bool.not_eq_true, beq_eq_false_iff_ne,
    List.isEmpty_eq_false_iff, Bool.and_eq_true, decide_eq_true_eq]
  constructor
  · rintro ⟨⟨⟨hscheme, hwildcard⟩, hexcluded⟩, ⟨⟨⟨hseparator, hhost⟩, hne⟩, hdigits⟩, port, hport, hrange⟩
    exact ⟨port, hscheme, hwildcard, hexcluded, hseparator, hhost, hne, hdigits, hport, hrange⟩
  · rintro ⟨port, h⟩
    exact ⟨⟨⟨h.scheme, h.wildcard⟩, h.excluded⟩, ⟨⟨⟨h.separator, h.host⟩, h.nonempty⟩, h.digits⟩, port,
      h.number, h.range⟩

theorem requireBoundedInt_bounds {object : JsonObject} {key path : String}
    {minimum maximum value : ℤ}
    (h : requireBoundedInt object key path minimum maximum = .ok value) :
    minimum ≤ value ∧ value ≤ maximum := by
  obtain ⟨found, -, h⟩ := bind_eq_ok.mp h
  dsimp only at h
  split at h
  all_goals
    obtain ⟨parsed, -, h⟩ := bind_eq_ok.mp h
    simp only [ite_eq_ok, reject_ne_ok, and_false, false_or] at h
    obtain ⟨hrange, h⟩ := h
    cases h
    omega

theorem requireBoundedUint64_bounds {object : JsonObject} {key path : String}
    {minimum maximum value : ℕ}
    (h : requireBoundedUint64 object key path minimum maximum = .ok value) :
    minimum ≤ value ∧ value ≤ maximum := by
  obtain ⟨found, -, h⟩ := bind_eq_ok.mp h
  dsimp only at h
  split at h
  on_goal 1 => split at h
  all_goals
    obtain ⟨parsed, -, h⟩ := bind_eq_ok.mp h
    simp only [ite_eq_ok, reject_ne_ok, and_false, false_or] at h
    obtain ⟨hrange, h⟩ := h
    cases h
    omega

theorem parseFake_accepted {device : JsonObject} {config : FakeCameraAdapterConfig}
    (h : parseFake device = .ok config) : (DeviceConfig.fake config).Accepted := by
  simp only [parseFake, bind_eq_ok] at h
  obtain ⟨_, _, _, _, _, _, width, hwidth, height, hheight, fps, hfps, h⟩ := h
  obtain ⟨_, _, _, _, h⟩ := h
  cases h
  have hw := requireBoundedInt_bounds hwidth
  have hh := requireBoundedInt_bounds hheight
  have hf := requireBoundedInt_bounds hfps
  simp only [DeviceConfig.Accepted]
  omega

theorem parseIntelD435_accepted {rounding : Rounding} {device : JsonObject}
    {config : IntelD435AdapterConfig} (h : parseIntelD435 rounding device = .ok config) :
    (DeviceConfig.intelD435 config).Accepted := by
  simp only [parseIntelD435, bind_eq_ok] at h
  obtain ⟨_, _, _, _, _, _, _, _, _, _, _, _, _, _, h⟩ := h
  obtain ⟨colorWidth, hwidth, colorHeight, hheight, colorFps, hfps, h⟩ := h
  obtain ⟨_, _, _, _, _, _, _, hvalidate, h⟩ := h
  cases h
  have hw := requireBoundedInt_bounds hwidth
  have hh := requireBoundedInt_bounds hheight
  have hf := requireBoundedInt_bounds hfps
  refine ⟨hvalidate, ?_⟩
  dsimp only
  omega

theorem parseDevice_accepted {rounding : Rounding} {root : JsonObject} {device : DeviceConfig}
    (h : parseDevice rounding root = .ok device) : device.Accepted := by
  simp only [parseDevice, bind_eq_ok, ite_eq_ok] at h
  obtain ⟨_, _, _, _, _, _, h⟩ := h
  rcases h with ⟨-, config, hfake, h⟩ | ⟨-, ⟨-, config, hintel, h⟩ | ⟨-, h⟩⟩
  · cases h
    exact parseFake_accepted hfake
  · cases h
    exact parseIntelD435_accepted hintel
  · simp at h

theorem parseMountLocalTransform_accepted {rounding : Rounding} {calibration : JsonObject}
    {transform : MountLocalTransform}
    (h : parseMountLocalTransform rounding calibration = .ok transform) : transform.Accepted := by
  simp only [parseMountLocalTransform, bind_eq_ok, check_eq_ok, Bool.and_eq_true] at h
  obtain ⟨_, _, _, _, _, _, _, _, _, _, _, _, _, _, _, _, _, _, h⟩ := h
  obtain ⟨_, ⟨⟨hx, hy⟩, hz⟩, _, heuler, h⟩ := h
  cases h
  exact ⟨hx, hy, hz, heuler⟩

theorem parseCalibration_accepted {rounding : Rounding} {root : JsonObject}
    {calibration : CalibrationConfig} (h : parseCalibration rounding root = .ok calibration) :
    calibration.mountLocalTransform.Accepted := by
  simp only [parseCalibration, bind_eq_ok] at h
  obtain ⟨_, _, _, _, _, _, _, _, _, _, transform, htransform, h⟩ := h
  cases h
  exact parseMountLocalTransform_accepted htransform

theorem parseProvider_accepted {root : JsonObject} {provider : ProviderConfig}
    (h : parseProvider root = .ok provider) :
    isAdvertisedUrlValid provider.advertisedBaseUrl = .ok true := by
  simp only [parseProvider, bind_eq_ok, check_eq_ok] at h
  obtain ⟨_, _, _, _, _, _, _, _, url, _, valid, hvalid, _, hcheck, h⟩ := h
  obtain ⟨_, _, _, _, _, _, _, _, _, _, _, _, _, _, _, _, _, _, h⟩ := h
  cases h
  rw [hvalid, hcheck]

theorem parsePilot_accepted {root : JsonObject} {pilot : PilotConfig}
    (h : parsePilot root = .ok pilot) : pilot.Accepted := by
  simp only [parsePilot, bind_eq_ok, check_eq_ok] at h
  obtain ⟨_, _, _, _, _, _, url, _, valid, hvalid, _, hcheck, _, _, _, _, h⟩ := h
  obtain ⟨connectMs, hconnect, requestMs, hrequest, maxBytes, hmax, h⟩ := h
  obtain ⟨_, _, _, _, _, _, _, _, h⟩ := h
  cases h
  have hc := requireBoundedInt_bounds hconnect
  have hr := requireBoundedInt_bounds hrequest
  have hm := requireBoundedInt_bounds hmax
  constructor
  · show isAdvertisedUrlValid url = .ok true
    rw [hvalid, hcheck]
  · show 0 < connectMs
    omega
  · show 0 < requestMs
    omega
  · show 0 < maxBytes
    omega

/-- The ranges of the times of the Pilot client, in milliseconds. -/
structure PilotConfig.InRange (config : PilotConfig) : Prop where
  connectTimeoutMs : 1000 ≤ config.connectTimeoutMs ∧ config.connectTimeoutMs ≤ 60000
  requestTimeoutMs : 1000 ≤ config.requestTimeoutMs ∧ config.requestTimeoutMs ≤ 60000
  shutdownTimeoutMs : 1000 ≤ config.shutdownTimeoutMs ∧ config.shutdownTimeoutMs ≤ 60000
  retryInitialDelayMs : 1 ≤ config.retryInitialDelayMs
  retryMaxDelayMs : config.retryMaxDelayMs ≤ 60000
  retryDelays : config.retryInitialDelayMs ≤ config.retryMaxDelayMs

theorem parsePilot_inRange {root : JsonObject} {pilot : PilotConfig}
    (h : parsePilot root = .ok pilot) : pilot.InRange := by
  simp only [parsePilot, bind_eq_ok, check_eq_ok, decide_eq_true_eq] at h
  obtain ⟨_, _, _, _, _, _, _, _, _, _, _, _, _, _, _, _, h⟩ := h
  obtain ⟨connectMs, hconnect, requestMs, hrequest, _, _, initialMs, hinitial, maxMs, hmax, h⟩ := h
  obtain ⟨shutdownMs, hshutdown, _, hdelays, h⟩ := h
  cases h
  have hi := requireBoundedInt_bounds hinitial
  have hm := requireBoundedInt_bounds hmax
  exact ⟨requireBoundedInt_bounds hconnect, requireBoundedInt_bounds hrequest,
    requireBoundedInt_bounds hshutdown, hi.1, hm.2, hdelays⟩

theorem parseRecording_accepted {root : JsonObject} {recording : RecordingConfig}
    (h : parseRecording root = .ok recording) : recording.Accepted := by
  simp only [parseRecording, bind_eq_ok, check_eq_ok, Bool.and_eq_true, beq_iff_eq] at h
  obtain ⟨_, _, _, _, _, _, path, _, _, hroot, queue, hqueue, maxMs, hmaxMs, freeBytes, hfree, h⟩ := h
  obtain ⟨finalizeMs, hfinalize, rate, hrate, preset, _, tune, _, _, ⟨hpreset, htune⟩, h⟩ := h
  cases h
  have hq := requireBoundedInt_bounds hqueue
  have hd := requireBoundedInt_bounds hmaxMs
  have hb := requireBoundedUint64_bounds hfree
  have hf := requireBoundedInt_bounds hfinalize
  have hr := requireBoundedInt_bounds hrate
  constructor
  · exact hroot
  · show 0 < queue
    omega
  · show 0 < maxMs
    omega
  · show 0 < freeBytes
    omega
  · show 0 < finalizeMs
    omega
  · show 0 < rate
    omega
  · exact hpreset
  · exact htune

theorem parseVisionConfig_accepted {parse : JsonParser} {rounding : Rounding} {jsonText : ByteString}
    {config : VisionConfig} (h : parseVisionConfig parse rounding jsonText = .ok config) :
    config.Accepted := by
  unfold parseVisionConfig at h
  split at h
  · simp only [bind_eq_ok, check_eq_ok, Bool.or_eq_true, Bool.not_eq_true'] at h
    obtain ⟨_, _, _, _, _, _, _, _, _, _, device, hdevice, calibration, hcalibration, h⟩ := h
    obtain ⟨provider, hprovider, pilot, hpilot, recording, hrecording, _, henabled, h⟩ := h
    cases h
    constructor
    · exact parseDevice_accepted hdevice
    · exact parseCalibration_accepted hcalibration
    · exact parseProvider_accepted hprovider
    · exact parsePilot_accepted hpilot
    · exact parseRecording_accepted hrecording
    · intro hon
      rcases henabled with hoff | hrecordable
      · rw [hoff] at hon
        cases hon
      · exact hrecordable
  · cases h

theorem parseVisionConfig_inRange {parse : JsonParser} {rounding : Rounding} {jsonText : ByteString}
    {config : VisionConfig} (h : parseVisionConfig parse rounding jsonText = .ok config) :
    config.pilot.InRange := by
  unfold parseVisionConfig at h
  split at h
  · simp only [bind_eq_ok] at h
    obtain ⟨_, _, _, _, _, _, _, _, _, _, _, _, _, _, h⟩ := h
    obtain ⟨_, _, pilot, hpilot, _, _, _, _, h⟩ := h
    cases h
    exact parsePilot_inRange hpilot
  · cases h

end NodusVision.Config
