import NodusVision.Pilot.Conformity

/-! Whether what the client sends to Pilot satisfies the pinned request schemas. -/
namespace NodusVision.Guarantees
open Text Config Pilot

/-- The registration and the publication of a client satisfy their schemas, and their capabilities and
descriptor ids are sorted and unique. -/
structure RequestsConform (setup : ClientSetup) (identity : ClientIdentity) (state : ProviderState) :
    Prop where
  registration : ∃ object,
    serializeRegistrationRequest (registrationRequest setup identity state) = .ok object ∧
    conforms setup.formatDouble componentRegistrationRequest (.object object) = true
  publication : ∃ object,
    serializeCatalogPublicationRequest (publicationId identity) 0 setup.catalog.descriptors =
      .ok object ∧
    conforms setup.formatDouble endpointCatalogPublicationRequest (.object object) = true
  capabilities : isStableSorted setup.catalog.capabilities = true
  descriptorIds : isStableSorted (setup.catalog.descriptors.map (·.descriptorId)) = true

/-- Conforming requests need a short component id and short strings in the static metadata. -/
theorem RequestsConform.bounds {parse : JsonParser} {rounding : Rounding} {jsonText : ByteString}
    {setup : ClientSetup} {identity : ClientIdentity} {state : ProviderState}
    (hconfig : parseVisionConfig parse rounding jsonText = .ok setup.config)
    (hinstance : isInstanceIdValid identity.instanceId = true)
    (h : RequestsConform setup identity state) :
    setup.config.componentId.length ≤ 120 ∧
      variableBytes setup.formatDouble setup.geometry setup.config ≤ 883 := by
  have hgroup := @streamGroupId_length setup.config
  have hdescriptors := (publication_conforms hinstance).mp h.publication
  obtain ⟨hsize, hlength⟩ := (catalog_conforms (parseVisionConfig_bounded hconfig)).mp hdescriptors
  rw [metadataBytes_eq] at hsize
  constructor <;> omega

/-- For an accepted configuration the requests conform exactly when the component id leaves room for
the suffix of the stream group id and the strings and numbers of the static metadata are short. -/
theorem requests_conform_iff {parse : JsonParser} {rounding : Rounding}
    {jsonText bytes : ByteString} {injected : Option ByteString} {setup : ClientSetup}
    {identity : ClientIdentity} {state : ProviderState}
    (hconfig : parseVisionConfig parse rounding jsonText = .ok setup.config)
    (hbytes : bytes.length = 16)
    (hidentity : generateInstanceId injected bytes = .ok identity.instanceId)
    (hstarted : identity.startedAtNs ≤ maxInt64Value) :
    RequestsConform setup identity state ↔
      setup.config.componentId.length ≤ 120 ∧
        variableBytes setup.formatDouble setup.geometry setup.config ≤ 883 := by
  have hinstance := generateInstanceId_valid hbytes hidentity
  have hb := parseVisionConfig_bounded hconfig
  have hgroup := @streamGroupId_length setup.config
  constructor
  · exact fun h => h.bounds hconfig hinstance
  · rintro ⟨hlength, hvariable⟩
    have hsize : metadataBytes setup.formatDouble setup.geometry setup.config ≤ 1024 := by
      rw [metadataBytes_eq]
      omega
    have hdescriptors := (catalog_conforms hb).mpr ⟨hsize, by omega⟩
    have hkeys := catalog_sorted (isColorEnabled setup.config) setup.config.recording.enabled
    refine ⟨registration_conforms hb hinstance hstarted hsize,
      (publication_conforms hinstance).mpr hdescriptors, ?_, ?_⟩
    · exact @catalog_capabilities setup.geometry setup.config ▸ hkeys.2.2.1
    · exact @catalog_ids setup.geometry setup.config ▸ hkeys.2.1

/-- A configuration document with these strings. -/
def configDocument (deviceId componentId frame : ByteString) : JsonValue :=
  .object [(ascii "schema_version", .int64 1),
    (ascii "device_id", .string deviceId),
    (ascii "component_id", .string componentId),
    (ascii "device", .object
      [(ascii "adapter", .string (ascii "fake")),
        (ascii "fake", .object
          [(ascii "width", .int64 8), (ascii "height", .int64 6), (ascii "fps", .int64 30),
            (ascii "start_frame_number", .int64 1), (ascii "pattern_seed", .int64 7)])]),
    (ascii "calibration", .object
      [(ascii "calibration_id", .string frame),
        (ascii "sensor_frame", .string frame),
        (ascii "mount_frame", .string frame),
        (ascii "mount_local_transform", .object
          [(ascii "x", .double 0), (ascii "y", .double 0), (ascii "z", .double 0),
            (ascii "r1", .double 0), (ascii "r2", .double 0), (ascii "r3", .double 0),
            (ascii "euler_type", .string (ascii "XYZ"))])]),
    (ascii "provider", .object
      [(ascii "bind_host", .string (ascii "127.0.0.1")),
        (ascii "port", .int64 8900),
        (ascii "advertised_base_url", .string (ascii "http://127.0.0.1:8900")),
        (ascii "max_connections", .int64 8),
        (ascii "max_stream_clients", .int64 2),
        (ascii "request_timeout_ms", .int64 1000),
        (ascii "max_header_bytes", .int64 8192),
        (ascii "max_body_bytes", .int64 65536),
        (ascii "max_frame_age_ms", .int64 1000)]),
    (ascii "pilot", .object
      [(ascii "enabled", .bool true),
        (ascii "base_url", .string (ascii "http://127.0.0.1:9000")),
        (ascii "clock_domain", .string (ascii "monotonic_same_host")),
        (ascii "connect_timeout_ms", .int64 1000),
        (ascii "request_timeout_ms", .int64 1000),
        (ascii "max_response_bytes", .int64 4096),
        (ascii "retry_initial_delay_ms", .int64 5),
        (ascii "retry_max_delay_ms", .int64 20),
        (ascii "shutdown_timeout_ms", .int64 1000)]),
    (ascii "recording", .object
      [(ascii "enabled", .bool true),
        (ascii "root", .string (ascii "/recordings")),
        (ascii "queue_capacity_frames", .int64 2),
        (ascii "max_duration_ms", .int64 1000),
        (ascii "minimum_free_bytes", .int64 1),
        (ascii "finalize_timeout_ms", .int64 1000),
        (ascii "bit_rate_bps", .int64 100000),
        (ascii "preset", .string (ascii "veryfast")),
        (ascii "tune", .string (ascii "zerolatency"))])]

/-- The document with another value at the end of a path of keys. -/
def withMember (value : JsonValue) : List String → JsonValue → JsonValue
  | [], _ => value
  | key :: path, .object members =>
    .object (members.map fun m => if m.1 = ascii key then (m.1, withMember value path m.2) else m)
  | _ :: _, document => document

/-- The texts of the doubles 0, 1 and -1. -/
def unitText (value : ℚ) : ByteString :=
  if value = 1 then ascii "1E0" else if value = -1 then ascii "-1E0" else ascii "0E0"

/-- The JSON parser on the text of one document. -/
def parseOne (document : JsonValue) : JsonParser := fun text =>
  if text = document.serialize unitText then some document else none

/-- The numbers of these documents are representable. -/
def exact : Rounding where
  toDouble := fun value => value
  toFloat := fun value => (value : WithTop ℚ)

/-- No rotation and no translation. -/
def unitGeometry : CameraGeometry where
  mountMatrix := fun _ => [1, 0, 0, 0, 0, 0, 1, 0, 0, -1, 0, 0, 0, 0, 0, 1]
  length_mountMatrix := fun _ => rfl
  mountMatrix_bounded := by
    intro _
    show ∀ v ∈ ([1, 0, 0, 0, 0, 0, 1, 0, 0, -1, 0, 0, 0, 0, 0, 1] : List ℚ),
      -(maxInt64Value : ℚ) ≤ v ∧ v ≤ maxInt64Value
    decide

def unitSetup (document : JsonValue) (config : VisionConfig) : ClientSetup where
  config := config
  geometry := unitGeometry
  parse := parseOne document
  formatDouble := unitText

def unitBytes : ByteString :=
  [0, 17, 34, 51, 68, 85, 102, 119, 136, 153, 170, 187, 204, 221, 238, 255]

/-- The identity of a client started with these random bytes. -/
def unitIdentity : ClientIdentity := ⟨ascii "vision-00112233445566778899aabbccddeeff", 1000⟩

/-- Parse the text of the document. -/
def parsed (document : JsonValue) : Parsed VisionConfig :=
  parseVisionConfig (parseOne document) exact (document.serialize unitText)

/-- The document is accepted, and its configuration passes the test. -/
def accepts (document : JsonValue) (test : VisionConfig → Bool) : Bool :=
  match parsed document with
  | .ok config => config.pilot.enabled && test config
  | .error _ => false

theorem accepts_spec {document : JsonValue} {test : VisionConfig → Bool}
    (h : accepts document test = true) :
    ∃ config, parsed document = .ok config ∧ config.pilot.enabled = true ∧ test config = true := by
  unfold accepts at h
  split at h
  · rename_i config hconfig
    obtain ⟨henabled, htest⟩ := Bool.and_eq_true_iff.mp h
    exact ⟨config, hconfig, henabled, htest⟩
  · cases h

set_option maxRecDepth 100000 in
theorem requests_conform_fake : ∃ config,
    parsed (configDocument (ascii "fake") (ascii "camera.fake") (ascii "optical")) = .ok config ∧
    config.pilot.enabled = true ∧
    RequestsConform (unitSetup (configDocument (ascii "fake") (ascii "camera.fake")
      (ascii "optical")) config) unitIdentity .ready := by
  obtain ⟨config, hconfig, henabled, htest⟩ := @accepts_spec
    (configDocument (ascii "fake") (ascii "camera.fake") (ascii "optical"))
    (fun config => decide (config.componentId.length ≤ 120) &&
      decide (variableBytes unitText unitGeometry config ≤ 883)) (by decide +kernel)
  obtain ⟨hlength, hsize⟩ := Bool.and_eq_true_iff.mp htest
  refine ⟨config, hconfig, henabled, ?_⟩
  exact (@requests_conform_iff _ _ _ unitBytes none (unitSetup (configDocument (ascii "fake")
    (ascii "camera.fake") (ascii "optical")) config) unitIdentity .ready hconfig rfl
    (by decide) (by decide)).mpr ⟨of_decide_eq_true hlength, of_decide_eq_true hsize⟩

/-- The requests that follow from a document do not conform when one of the bounds is exceeded. -/
theorem astray {document : JsonValue}
    (h : accepts document (fun config => !(decide (config.componentId.length ≤ 120) &&
      decide (variableBytes unitText unitGeometry config ≤ 883))) = true) :
    ∃ config, parsed document = .ok config ∧ config.pilot.enabled = true ∧
      ¬ RequestsConform (unitSetup document config) unitIdentity .ready := by
  obtain ⟨config, hconfig, henabled, htest⟩ := accepts_spec h
  refine ⟨config, hconfig, henabled, ?_⟩
  intro hconform
  have hbounds : config.componentId.length ≤ 120 ∧
      variableBytes unitText unitGeometry config ≤ 883 :=
    @RequestsConform.bounds _ _ _ (unitSetup document config) unitIdentity .ready hconfig
      (by decide +kernel) hconform
  simp [hbounds] at htest

set_option maxRecDepth 100000 in
/-- A component id of 128 bytes, and strings of 128 quotation marks. -/
theorem requests_astray :
    (∃ config, parsed (configDocument (ascii "fake") (List.replicate 128 97) (ascii "optical")) =
        .ok config ∧ config.pilot.enabled = true ∧
      ¬ RequestsConform (unitSetup (configDocument (ascii "fake") (List.replicate 128 97)
        (ascii "optical")) config) unitIdentity .ready) ∧
    ∃ config, parsed (configDocument (List.replicate 128 34) (ascii "camera.fake")
        (List.replicate 128 34)) = .ok config ∧ config.pilot.enabled = true ∧
      ¬ RequestsConform (unitSetup (configDocument (List.replicate 128 34) (ascii "camera.fake")
        (List.replicate 128 34)) config) unitIdentity .ready := by
  constructor
  · exact astray (by decide +kernel)
  · exact astray (by decide +kernel)

end NodusVision.Guarantees
