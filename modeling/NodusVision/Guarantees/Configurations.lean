import NodusVision.Application.Construction
import NodusVision.Guarantees.PilotContract

/-! Whether a configuration that the parser returns fails a check somewhere else. -/
namespace NodusVision.Guarantees
open Text Config Pilot Application NodusVision.Geometry Recording Manager

/-- The validators and the constructors that run on the values of the configuration do not throw. -/
structure Constructs (config : VisionConfig) : Prop where
  mount : ∀ (K : Type) [Field K] [LinearOrder K] [IsStrictOrderedRing K] (trig : Trigonometry K)
    (toFloat : K → K), ∃ transform values,
      buildCameraMountTransform trig config.calibration = .ok transform ∧
      buildMountFromCameraMatrix3x4 toFloat transform = .ok values
  adapter : AdapterConstructs config.device
  recordingManager : ∀ pid,
    makeRecordingManager config.recording.root (recordingManagerConfig config pid) = .ok ()
  videoWriter : config.recording.enabled = true → ∀ (setup : Setup) (pid : ℕ) (recordingId : ByteString),
    setup.config = recordingManagerConfig config pid →
    ColorVideoWriter.isProfileValid (writerConfig setup (artifactPaths recordingId)) = true
  sidecar : ∀ path recordingId, isRecordingIdValid recordingId = true →
    ReturnsWhenOpened path (RecordingSidecarWriter.construct path recordingId
      config.calibration.sensorFrame config.calibration.calibrationId)
  transport : ∃ url,
    makePilotHttpTransport config.pilot.baseUrl (Http.clientBounds config.pilot) = .ok url
  registration : ∀ (setup : ClientSetup) (identity : ClientIdentity) (state : ProviderState),
    setup.config = config → isInstanceIdValid identity.instanceId = true →
    ∃ object, serializeRegistrationRequest (registrationRequest setup identity state) = .ok object
  publication : ∀ (setup : ClientSetup) (identity : ClientIdentity),
    setup.config = config → isInstanceIdValid identity.instanceId = true →
    ∃ object, serializeCatalogPublicationRequest (publicationId identity) 0
      setup.catalog.descriptors = .ok object

theorem accepted_constructs {parse : JsonParser} {rounding : Rounding} {jsonText : ByteString}
    {config : VisionConfig} (hconfig : parseVisionConfig parse rounding jsonText = .ok config) :
    Constructs config := by
  have hb := parseVisionConfig_bounded hconfig
  have ha := parseVisionConfig_accepted hconfig
  constructor
  case mount =>
    intro K _ _ _ trig toFloat
    obtain ⟨transform, hbuild, hmounted⟩ := buildCameraMountTransform_ok trig hb.calibrationId.ne_nil
      hb.sensorFrame.ne_nil hb.mountFrame.ne_nil ha.transform
    obtain ⟨values, hvalues⟩ := buildMountFromCameraMatrix3x4_ok toFloat hmounted
    exact ⟨transform, values, hbuild, hvalues⟩
  case adapter => exact adapter_constructs ha.device
  case recordingManager =>
    intro pid
    exact makeRecordingManager_ok hb ha.recording pid
  case videoWriter =>
    intro henabled setup pid recordingId hsetup
    exact writerConfig_valid recordingId ha hsetup henabled
  case sidecar =>
    intro path recordingId hid
    exact sidecar_returns path hid hb
  case transport => exact makePilotHttpTransport_ok ha.pilot (parseVisionConfig_inRange hconfig)
  case registration =>
    rintro setup identity state rfl hinstance
    exact registration_serializes state hb hinstance
  case publication =>
    rintro setup identity rfl hinstance
    exact publication_serializes hinstance

set_option maxRecDepth 100000 in
theorem accepted_constructs_fake : ∃ config,
    parsed (configDocument (ascii "fake") (ascii "camera.fake") (ascii "optical")) = .ok config ∧
      config.pilot.enabled = true ∧ Constructs config := by
  obtain ⟨config, hconfig, henabled, -⟩ := @accepts_spec
    (configDocument (ascii "fake") (ascii "camera.fake") (ascii "optical")) (fun _ => true) (by decide +kernel)
  exact ⟨config, hconfig, henabled, accepted_constructs hconfig⟩

end NodusVision.Guarantees
