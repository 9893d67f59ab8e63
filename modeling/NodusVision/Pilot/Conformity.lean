import NodusVision.Pilot.Contract

/-! How the requests that the client serializes compare with the pinned schemas. -/
namespace NodusVision.Pilot
open Text Config Program

variable {geometry : CameraGeometry} {config : VisionConfig} {formatDouble : ℚ → ByteString}

/-- A text with a length from 1 to the bound. -/
def isShort (maxBytes : ℕ) (text : String) : Bool :=
  !(ascii text).isEmpty && decide ((ascii text).length ≤ maxBytes)

/-- The texts that the source fixes for a descriptor. -/
def areTexts (descriptorId capability path mediaType schemaId : String) : Bool :=
  isShort 128 descriptorId && isShort 128 capability && isShort 1024 path &&
    isShort 128 mediaType && isShort 256 schemaId

def areServiceTexts (method requestSchemaId : String) : Bool :=
  (["GET", "POST", "PUT", "DELETE"].map ascii).contains (ascii method) &&
    decide ((ascii requestSchemaId).length ≤ 256)

@[simp] theorem conforms_text {nonEmpty : Bool} {maxBytes : ℕ} {value : ByteString} :
    conforms formatDouble (.text nonEmpty maxBytes) (.string value) = true ↔
      (nonEmpty = true → value ≠ []) ∧ value.length ≤ maxBytes := by
  cases nonEmpty <;> simp [conforms, JsonValue.asString]

/-- A text or null, for a text that is empty when there is none. -/
theorem conforms_stringOrNull {maxBytes : ℕ} {value : ByteString} :
    conforms formatDouble (.oneOf (.text true maxBytes) .null) (stringOrNull value) = true ↔
      value.length ≤ maxBytes := by
  cases value with
  | nil => simp [stringOrNull, conforms, JsonValue.asString]
  | cons b rest =>
    have hnull : conforms formatDouble .null (.string (b :: rest)) = false := rfl
    simp only [stringOrNull, conforms, List.isEmpty_cons, JsonValue.asString]
    simp

theorem makeEndpoint_bounded (hb : BoundedText config.provider.advertisedBaseUrl) {path : String}
    (hpath : ascii path ≠ [] ∧ (ascii path).length ≤ 1024) :
    makeEndpoint config.provider.advertisedBaseUrl path ≠ [] ∧
      (makeEndpoint config.provider.advertisedBaseUrl path).length ≤ 2048 := by
  have hlength := hb.length_le
  unfold makeEndpoint
  constructor
  · intro h
    exact hpath.1 (List.append_eq_nil_iff.mp h).2
  · rw [List.length_append]
    split
    · rw [List.length_dropLast]
      omega
    · omega

theorem areDiagnostic_doubles {values : List ℚ} (h : ∀ v ∈ values, inNumberRange v = true) :
    areDiagnostic (values.map .double) = true := by
  induction values with
  | nil => rfl
  | cons v values ih =>
    have hv : isDiagnostic (.double v) = true := h v List.mem_cons_self
    simp only [List.map_cons, areDiagnostic, hv, Bool.true_and]
    exact ih fun v hv => h v (List.mem_cons_of_mem _ hv)

theorem itemsDepth_doubles (values : List ℚ) : itemsDepth (values.map .double) ≤ 1 := by
  induction values with
  | nil => exact Nat.zero_le _
  | cons v values ih =>
    simp only [List.map_cons, itemsDepth, JsonValue.depth]
    omega

theorem mountMatrix_diagnostic (geometry : CameraGeometry) (calibration : CalibrationConfig) :
    areDiagnostic ((geometry.mountMatrix calibration).map .double) = true := by
  apply areDiagnostic_doubles
  intro v hv
  obtain ⟨hl, hu⟩ := geometry.mountMatrix_bounded calibration v hv
  have hmax : (maxInt64Value : ℚ) = 9223372036854775807 := rfl
  rw [hmax] at hl hu
  simp only [inNumberRange, Bool.and_eq_true, decide_eq_true_eq]
  exact ⟨hl, hu⟩

theorem staticMetadata_diagnostic (hb : config.Bounded) :
    areDiagnosticMembers (buildVisionStaticMetadata geometry config) = true := by
  have hdevice := hb.deviceId.length_le
  have hsensor := hb.sensorFrame.length_le
  have hmount := hb.mountFrame.length_le
  have hcalibration := hb.calibrationId.length_le
  have hkeys : (["device_id", "sensor_frame", "mount_frame", "calibration_id",
      "mount_from_camera_optical_matrix4x4", "api_version", "1.3.0"].all fun key =>
        decide ((ascii key).length ≤ diagnosticBytes)) = true := by decide +kernel
  simp only [List.all_cons, Bool.and_eq_true, decide_eq_true_eq, List.all_nil, and_true] at hkeys
  obtain ⟨h1, h2, h3, h4, h5, h6, h7⟩ := hkeys
  have hitems : decide (((geometry.mountMatrix config.calibration).map JsonValue.double).length ≤
      diagnosticItems) = true := by
    rw [List.length_map, geometry.length_mountMatrix]
    rfl
  have hshort {s : ByteString} (h : s.length ≤ 128) : decide (s.length ≤ diagnosticBytes) = true :=
    decide_eq_true (h.trans (by decide))
  simp only [buildVisionStaticMetadata, areDiagnosticMembers, isDiagnostic, h1, h2, h3, h4, h5, h6, h7,
    hshort hdevice, hshort hsensor, hshort hmount, hshort hcalibration, hitems,
    mountMatrix_diagnostic, decide_true, Bool.and_self]

/-- The size of the static metadata as JSON text. -/
def metadataBytes (formatDouble : ℚ → ByteString) (geometry : CameraGeometry)
    (config : VisionConfig) : ℕ :=
  ((JsonValue.object (buildVisionStaticMetadata geometry config)).serialize formatDouble).length

theorem length_intercalate (items : List ByteString) (h : items ≠ []) :
    (List.intercalate [44] items).length + 1 = (items.map List.length).sum + items.length := by
  induction items with
  | nil => exact absurd rfl h
  | cons item rest ih =>
    cases rest with
    | nil => simp
    | cons next rest =>
      have hrest := ih (by simp)
      rw [List.intercalate_cons_cons]
      simp only [List.length_append, List.length_cons, List.map_cons, List.sum_cons,
        List.length_nil] at hrest ⊢
      omega

theorem serializeItems_doubles (values : List ℚ) :
    serializeItems formatDouble (values.map .double) = values.map formatDouble := by
  induction values with
  | nil => rfl
  | cons value values ih => rw [List.map_cons, serializeItems, ih, JsonValue.serialize, List.map_cons]

/-- What the strings and the numbers of the static metadata take in its text. -/
def variableBytes (formatDouble : ℚ → ByteString) (geometry : CameraGeometry)
    (config : VisionConfig) : ℕ :=
  (jsonString config.deviceId).length + (jsonString config.calibration.sensorFrame).length +
    (jsonString config.calibration.mountFrame).length +
    (jsonString config.calibration.calibrationId).length +
    ((geometry.mountMatrix config.calibration).map fun value => (formatDouble value).length).sum

theorem jsonArray_doubles_length :
    (jsonArray ((geometry.mountMatrix config.calibration).map formatDouble)).length =
      ((geometry.mountMatrix config.calibration).map fun value => (formatDouble value).length).sum +
        17 := by
  have hlength := geometry.length_mountMatrix config.calibration
  have hne : (geometry.mountMatrix config.calibration).map formatDouble ≠ [] := by
    intro h
    have hzero := congrArg List.length h
    rw [List.length_map, hlength] at hzero
    cases hzero
  have hitems := length_intercalate _ hne
  rw [List.length_map, hlength, List.map_map] at hitems
  simp only [jsonArray, List.length_append, List.length_cons, List.length_nil]
  have hcomp : (List.length ∘ formatDouble) = fun value => (formatDouble value).length := rfl
  rw [hcomp] at hitems
  omega

/-- The names, the punctuation and the API version take 141 bytes. -/
theorem metadataBytes_eq :
    metadataBytes formatDouble geometry config = 141 + variableBytes formatDouble geometry config := by
  have h1 : (jsonString (ascii "device_id")).length = 11 := by decide
  have h2 : (jsonString (ascii "sensor_frame")).length = 14 := by decide
  have h3 : (jsonString (ascii "mount_frame")).length = 13 := by decide
  have h4 : (jsonString (ascii "calibration_id")).length = 16 := by decide
  have h5 : (jsonString (ascii "mount_from_camera_optical_matrix4x4")).length = 37 := by
    decide
  have h6 : (jsonString (ascii "api_version")).length = 13 := by decide
  have h7 : (jsonString (ascii "1.3.0")).length = 7 := by decide
  have harray := @jsonArray_doubles_length geometry config formatDouble
  simp only [metadataBytes, buildVisionStaticMetadata, JsonValue.serialize, serializeMembers,
    serializeItems_doubles, jsonObject, List.map_cons, List.map_nil, List.length_append,
    List.length_cons, List.length_nil, List.intercalate_cons_cons, List.intercalate_singleton,
    h1, h2, h3, h4, h5, h6, h7, harray, variableBytes]
  omega

theorem staticMetadata_depth :
    (JsonValue.object (buildVisionStaticMetadata geometry config)).depth ≤ 3 := by
  have h := itemsDepth_doubles (geometry.mountMatrix config.calibration)
  simp only [buildVisionStaticMetadata, JsonValue.depth, membersDepth]
  omega

/-- Static metadata conforms exactly when its text is short enough. -/
theorem endpointMetadata_conforms (hb : config.Bounded) :
    conforms formatDouble endpointMetadata (.object (buildVisionStaticMetadata geometry config)) =
      true ↔ metadataBytes formatDouble geometry config ≤ 1024 := by
  have hdepth := (@staticMetadata_depth geometry config).trans (by decide : 3 ≤ 4)
  simp only [endpointMetadata, conforms, withinLimit, Option.all_none,
    staticMetadata_diagnostic hb, Bool.and_true, decide_eq_true hdepth, decide_eq_true_eq,
    metadataBytes]

theorem descriptorFields_nodup {kind : String} {service stream : Schema} :
    ((descriptorFields kind service stream).map Prod.fst).Nodup := by
  show (["descriptor_id", "kind", "capability", "contract_version", "protocol", "endpoint",
    "media_type", "schema_id", "metadata", "service", "stream"].map ascii).Nodup
  decide

/-- A descriptor against the schema of its kind, member by member. -/
theorem descriptorObject_conforms {kind : String} {service stream : Schema}
    {d : PilotEndpointDescriptor} :
    conforms formatDouble (.object (descriptorFields kind service stream))
        (.object (descriptorObject d)) = true ↔
      conforms formatDouble identifierSchema (.string d.descriptorId) = true ∧
      (if d.isStream then ascii "stream" else ascii "service") = ascii kind ∧
      conforms formatDouble identifierSchema (.string d.capability) = true ∧
      (1 ≤ d.contractVersion ∧ d.contractVersion ≤ maxInt64Value) ∧
      conforms formatDouble (.text true 2048) (.string d.endpoint) = true ∧
      conforms formatDouble endpointMediaType (.string d.mediaType) = true ∧
      conforms formatDouble endpointSchemaId (.string d.schemaId) = true ∧
      conforms formatDouble endpointMetadata (.object d.metadata) = true ∧
      conforms formatDouble service
        (if d.isStream then .null else .object (serializeServiceContract d.service)) = true ∧
      conforms formatDouble stream
        (if d.isStream then .object (serializeStreamContract d.stream) else .null) = true := by
  rw [conforms_object rfl descriptorFields_nodup]
  have hprotocol : conforms formatDouble endpointProtocol (.string (ascii "http")) = true := by
    show (["http", "https"].map ascii).contains (ascii "http") = true
    decide
  have hkind {value : ByteString} : conforms formatDouble (.choice [ascii kind]) (.string value) =
      true ↔ value = ascii kind := by
    simp [conforms, JsonValue.asString]
  have hversion : conforms formatDouble positiveInt64 (.uint64 d.contractVersion) = true ↔
      1 ≤ d.contractVersion ∧ d.contractVersion ≤ maxInt64Value := by
    simp only [positiveInt64, conforms, JsonValue.asInteger, Option.any_some, Bool.and_eq_true,
      decide_eq_true_eq, maxInt64Value]
    omega
  simp only [descriptorFields, descriptorObject, List.forall₂_cons, List.forall₂_nil_right_iff,
    hprotocol, hkind, hversion, true_and, and_true]

theorem isShort_iff {maxBytes : ℕ} {text : String} :
    isShort maxBytes text = true ↔ ascii text ≠ [] ∧ (ascii text).length ≤ maxBytes := by
  simp [isShort]

theorem isShort_conforms {nonEmpty : Bool} {maxBytes : ℕ} {text : String}
    (h : isShort maxBytes text = true) :
    conforms formatDouble (.text nonEmpty maxBytes) (.string (ascii text)) = true := by
  obtain ⟨hne, hlength⟩ := isShort_iff.mp h
  rw [conforms_text]
  exact ⟨fun _ => hne, hlength⟩

theorem schemaId_conforms {text : String} (h : isShort 256 text = true) :
    conforms formatDouble endpointSchemaId (.string (ascii text)) = true := by
  have hnull : conforms formatDouble .null (.string (ascii text)) = false := rfl
  rw [endpointSchemaId, conforms_oneOf, isShort_conforms h, hnull]
  rfl

theorem kind_conforms_iff {text kind : String} {service stream : Schema}
    {d : PilotEndpointDescriptor} (hd : (if d.isStream then ascii "stream" else ascii "service") =
      ascii text) (hne : ascii text ≠ ascii kind) :
    conforms formatDouble (.object (descriptorFields kind service stream))
      (.object (descriptorObject d)) = false := by
  apply Bool.eq_false_iff.mpr
  intro h
  have hkind := (descriptorObject_conforms.mp h).2.1
  exact hne (hd.symm.trans hkind)

/-- A service descriptor conforms when its metadata does. -/
theorem makeService_conforms (hb : config.Bounded)
    {descriptorId capability path mediaType schemaId method requestSchemaId : String}
    (ht : areTexts descriptorId capability path mediaType schemaId = true)
    (hs : areServiceTexts method requestSchemaId = true) :
    conforms formatDouble endpointDescriptor (.object (descriptorObject
        (makeService geometry config descriptorId capability path mediaType schemaId method
          requestSchemaId))) = true ↔ metadataBytes formatDouble geometry config ≤ 1024 := by
  have hother : ascii "service" ≠ ascii "stream" := by decide
  simp only [areTexts, Bool.and_eq_true] at ht
  obtain ⟨⟨⟨⟨hid, hcapability⟩, hpath⟩, hmedia⟩, hschema⟩ := ht
  simp only [areServiceTexts, Bool.and_eq_true, decide_eq_true_eq] at hs
  have hendpoint := makeEndpoint_bounded hb.advertisedBaseUrl (isShort_iff.mp hpath)
  have hresponse : (ascii schemaId).length ≤ 256 := (isShort_iff.mp hschema).2
  have hcontract : conforms formatDouble endpointServiceContract
      (.object (serializeServiceContract
        { method := ascii method
          requestSchemaId := ascii requestSchemaId
          responseSchemaId := ascii schemaId })) = true := by
    have hnodup : (["method", "request_schema_id", "response_schema_id"].map ascii).Nodup := by
      decide
    have hmethod : conforms formatDouble
        (.choice (["GET", "POST", "PUT", "DELETE"].map ascii)) (.string (ascii method)) = true := hs.1
    rw [endpointServiceContract, serializeServiceContract, conforms_object]
    · simp only [List.forall₂_cons, hmethod, endpointSchemaId, conforms_stringOrNull, hs.2,
        hresponse, true_and]
      exact .nil
    · rfl
    · exact hnodup
  rw [endpointDescriptor, conforms_oneOf, endpointStreamDescriptor,
    kind_conforms_iff rfl hother, Bool.xor_false, endpointServiceDescriptor,
    descriptorObject_conforms]
  have hendpoint' : conforms formatDouble (.text true 2048)
      (.string (makeEndpoint config.provider.advertisedBaseUrl path)) = true :=
    conforms_text.mpr ⟨fun _ => hendpoint.1, hendpoint.2⟩
  constructor
  · rintro ⟨_, _, _, _, _, _, _, hmetadata, _⟩
    exact (endpointMetadata_conforms hb).mp hmetadata
  · intro hsize
    exact ⟨isShort_conforms hid, rfl, isShort_conforms hcapability, ⟨Nat.le_refl _, (by decide : 1 ≤ maxInt64Value)⟩,
      hendpoint', isShort_conforms hmedia, schemaId_conforms hschema,
      (endpointMetadata_conforms hb).mpr hsize, hcontract, rfl⟩

/-- A stream descriptor also needs a group id that is short enough. -/
theorem makeStream_conforms (hb : config.Bounded)
    {descriptorId capability path schemaId : String}
    (ht : areTexts descriptorId capability path "multipart/x-mixed-replace" schemaId = true) :
    conforms formatDouble endpointDescriptor (.object (descriptorObject
        (makeStream geometry config descriptorId capability path schemaId))) = true ↔
      metadataBytes formatDouble geometry config ≤ 1024 ∧ (streamGroupId config).length ≤ 128 := by
  have hother : ascii "stream" ≠ ascii "service" := by decide
  simp only [areTexts, Bool.and_eq_true] at ht
  obtain ⟨⟨⟨⟨hid, hcapability⟩, hpath⟩, hmedia⟩, hschema⟩ := ht
  have hendpoint := makeEndpoint_bounded hb.advertisedBaseUrl (isShort_iff.mp hpath)
  have hcontract : conforms formatDouble endpointStreamContract
      (.object (serializeStreamContract
        { clockDomain := ascii "monotonic_same_host", streamGroupId := streamGroupId config })) =
      true ↔ (streamGroupId config).length ≤ 128 := by
    have hnodup : (["clock_domain", "stream_group_id"].map ascii).Nodup := by
      decide
    have hclock : conforms formatDouble (.choice
        (["monotonic_same_host", "unix_epoch_synchronized", "provider_defined"].map ascii))
        (.string (ascii "monotonic_same_host")) = true := by
      show (["monotonic_same_host", "unix_epoch_synchronized", "provider_defined"].map
        ascii).contains (ascii "monotonic_same_host") = true
      decide
    rw [endpointStreamContract, serializeStreamContract, conforms_object]
    · simp only [List.forall₂_cons, hclock, conforms_stringOrNull, true_and,
        List.forall₂_nil_right_iff, and_true]
    · rfl
    · exact hnodup
  rw [endpointDescriptor, conforms_oneOf, endpointServiceDescriptor,
    kind_conforms_iff rfl hother, Bool.false_xor, endpointStreamDescriptor,
    descriptorObject_conforms]
  have hendpoint' : conforms formatDouble (.text true 2048)
      (.string (makeEndpoint config.provider.advertisedBaseUrl path)) = true :=
    conforms_text.mpr ⟨fun _ => hendpoint.1, hendpoint.2⟩
  constructor
  · rintro ⟨_, _, _, _, _, _, _, hmetadata, _, hstream⟩
    exact ⟨(endpointMetadata_conforms hb).mp hmetadata, hcontract.mp hstream⟩
  · rintro ⟨hsize, hgroup⟩
    exact ⟨isShort_conforms hid, rfl, isShort_conforms hcapability, ⟨Nat.le_refl _, (by decide : 1 ≤ maxInt64Value)⟩,
      hendpoint', isShort_conforms hmedia, schemaId_conforms hschema,
      (endpointMetadata_conforms hb).mpr hsize, rfl, hcontract.mpr hgroup⟩

/-- What the two sorts look at. -/
def descriptorKey (d : PilotEndpointDescriptor) : ByteString × ByteString :=
  (d.descriptorId, d.capability)

/-- The keys of the catalog in the order in which the descriptors are added. -/
def addedKeys (color recording : Bool) : List (ByteString × ByteString) :=
  [(ascii "health", ascii "camera.health.get"), (ascii "metadata", ascii "camera.metadata.get"),
    (ascii "depth-preview", ascii "camera.stream.depth.preview"),
    (ascii "depth-snapshot", ascii "camera.snapshot.depth.preview"),
    (ascii "roi-depth", ascii "camera.query.roi_depth"),
    (ascii "pixel-to-point", ascii "camera.query.pixel_to_point"),
    (ascii "pointcloud-binary", ascii "camera.snapshot.pointcloud")] ++
  (if color then [(ascii "color-preview", ascii "camera.stream.color.preview"),
    (ascii "color-snapshot", ascii "camera.snapshot.color")] else []) ++
  (if recording then [(ascii "recording-start", ascii "camera.recording.start"),
    (ascii "recording-stop", ascii "camera.recording.stop"),
    (ascii "recording-current", ascii "camera.recording.current")] else [])

theorem addedDescriptors_keys : (addedDescriptors geometry config).map descriptorKey =
    addedKeys (isColorEnabled config) config.recording.enabled := by
  unfold addedDescriptors
  cases isColorEnabled config <;> cases config.recording.enabled <;> rfl

theorem map_sortBytes {α β : Type} {f : α → β} {key : α → ByteString} {key' : β → ByteString}
    (hkey : ∀ a, key' (f a) = key a) (items : List α) :
    (sortBytes key items).map f = sortBytes key' (items.map f) := by
  apply List.map_insertionSort
  intro a _ b _
  rw [hkey, hkey]

theorem catalog_keys : (buildCatalog geometry config).descriptors.map descriptorKey =
    sortBytes Prod.fst (addedKeys (isColorEnabled config) config.recording.enabled) := by
  rw [← @addedDescriptors_keys geometry config]
  exact @map_sortBytes _ _ descriptorKey (·.descriptorId) Prod.fst (fun _ => rfl) _

theorem catalog_ids : (buildCatalog geometry config).descriptors.map (·.descriptorId) =
    (sortBytes Prod.fst (addedKeys (isColorEnabled config) config.recording.enabled)).map
      Prod.fst := by
  rw [← catalog_keys, List.map_map]
  rfl

theorem catalog_capabilities : (buildCatalog geometry config).capabilities =
    sortBytes id ((sortBytes Prod.fst
      (addedKeys (isColorEnabled config) config.recording.enabled)).map Prod.snd) := by
  rw [← catalog_keys, List.map_map]
  rfl

/-- Each id is above the one before it. -/
def ascending (previous : ByteString) : List ByteString → Bool
  | [] => true
  | id :: rest => (previous.isEmpty || byteLess previous id) && ascending id rest

/-- The four catalogs that a configuration can select. -/
theorem catalog_sorted (color recording : Bool) :
    ascending [] ((sortBytes Prod.fst (addedKeys color recording)).map Prod.fst) = true ∧
    isStableSorted ((sortBytes Prod.fst (addedKeys color recording)).map Prod.fst) = true ∧
    isStableSorted (sortBytes id ((sortBytes Prod.fst (addedKeys color recording)).map Prod.snd)) =
      true ∧
    (sortBytes id ((sortBytes Prod.fst (addedKeys color recording)).map Prod.snd)).all
      (fun capability => !capability.isEmpty && decide (capability.length ≤ 128)) = true ∧
    (sortBytes id ((sortBytes Prod.fst (addedKeys color recording)).map Prod.snd)).length ≤ 32 := by
  revert color recording
  decide

/-- A descriptor that conforms is one that the codec serializes. -/
theorem serializeDescriptor_conforming {d : PilotEndpointDescriptor}
    (h : conforms formatDouble endpointDescriptor (.object (descriptorObject d)) = true) :
    serializeDescriptor d = .ok (descriptorObject d) := by
  have hmembers (kind : String) (service stream : Schema)
      (h : conforms formatDouble (.object (descriptorFields kind service stream))
        (.object (descriptorObject d)) = true) :
      serializeDescriptor d = .ok (descriptorObject d) := by
    obtain ⟨hid, _, hcapability, hversion, hendpoint, hmedia, hschema, _⟩ :=
      descriptorObject_conforms.mp h
    have hid := conforms_text.mp hid
    have hcapability := conforms_text.mp hcapability
    have hendpoint := conforms_text.mp hendpoint
    have hmedia := conforms_text.mp hmedia
    have hschema : d.schemaId ≠ [] := by
      rintro hnil
      rw [hnil] at hschema
      cases hschema
    simp only [serializeDescriptor, bind_eq_ok, validateIdentifier_eq_ok, ensure_eq_ok]
    refine ⟨(), ⟨hid.1 rfl, hid.2⟩, (), ⟨hcapability.1 rfl, hcapability.2⟩, (), ?_, trivial⟩
    simp only [Bool.and_eq_true, bne_iff_ne, decide_eq_true_eq, Bool.not_eq_true',
      List.isEmpty_eq_false_iff]
    exact ⟨⟨⟨⟨by omega, hversion.2⟩, hendpoint.1 rfl⟩, hmedia.1 rfl⟩, hschema⟩
  rw [endpointDescriptor, conforms_oneOf] at h
  cases hs : conforms formatDouble endpointServiceDescriptor (.object (descriptorObject d)) with
  | true => exact hmembers _ _ _ hs
  | false =>
    rw [hs, Bool.false_xor] at h
    exact hmembers _ _ _ h

theorem serializeDescriptors_conforming {previous : ByteString}
    {descriptors : List PilotEndpointDescriptor}
    (hsorted : ascending previous (descriptors.map (·.descriptorId)) = true)
    (h : ∀ d ∈ descriptors, conforms formatDouble endpointDescriptor
      (.object (descriptorObject d)) = true) :
    serializeDescriptors previous descriptors =
      .ok (descriptors.map fun d => .object (descriptorObject d)) := by
  induction descriptors generalizing previous with
  | nil => rfl
  | cons d rest ih =>
    simp only [List.map_cons, ascending, Bool.and_eq_true] at hsorted
    have hd := serializeDescriptor_conforming (h d List.mem_cons_self)
    have hrest := ih hsorted.2 fun d hd => h d (List.mem_cons_of_mem _ hd)
    simp only [serializeDescriptors, ensure, hsorted.1, hd, hrest]
    rfl

/-- Whatever is serialized is the descriptors, one by one. -/
theorem serializeDescriptors_eq {previous : ByteString}
    {descriptors : List PilotEndpointDescriptor} {values : List JsonValue}
    (h : serializeDescriptors previous descriptors = .ok values) :
    values = descriptors.map fun d => .object (descriptorObject d) := by
  induction descriptors generalizing previous values with
  | nil =>
    cases h
    rfl
  | cons d rest ih =>
    simp only [serializeDescriptors, bind_eq_ok] at h
    obtain ⟨_, _, object, hobject, rest', hrest, h⟩ := h
    simp only [serializeDescriptor, bind_eq_ok] at hobject
    obtain ⟨_, _, _, _, _, _, hobject⟩ := hobject
    cases hobject
    cases h
    rw [ih hrest]
    rfl

/-- All descriptors of the catalog conform exactly when the metadata and the group id are short. -/
theorem catalog_conforms (hb : config.Bounded) :
    (∀ d ∈ (buildCatalog geometry config).descriptors,
      conforms formatDouble endpointDescriptor (.object (descriptorObject d)) = true) ↔
    metadataBytes formatDouble geometry config ≤ 1024 ∧ (streamGroupId config).length ≤ 128 := by
  have hadded (d : PilotEndpointDescriptor) :
      d ∈ (buildCatalog geometry config).descriptors ↔ d ∈ addedDescriptors geometry config :=
    (List.perm_insertionSort _ _).mem_iff
  constructor
  · intro h
    have hstream := h (makeStream geometry config "depth-preview" "camera.stream.depth.preview"
      "/stream/depth.mjpg" "nodus.vision.mjpeg.depth_part.v1")
      ((hadded _).mpr (by simp [addedDescriptors, baseDescriptors]))
    exact (makeStream_conforms hb (by decide +kernel)).mp hstream
  · rintro ⟨hsize, hgroup⟩ d hd
    have hmem := (hadded d).mp hd
    have hcolor : d ∈ (if isColorEnabled config then colorDescriptors geometry config else []) →
        d ∈ colorDescriptors geometry config := by
      split <;> simp
    have hrecording : d ∈ (if config.recording.enabled then recordingDescriptors geometry config
        else []) → d ∈ recordingDescriptors geometry config := by
      split <;> simp
    rcases List.mem_append.mp hmem with hmem | hmem
    · rcases List.mem_append.mp hmem with hmem | hmem
      · simp only [baseDescriptors, List.mem_cons, List.not_mem_nil, or_false] at hmem
        rcases hmem with rfl | rfl | rfl | rfl | rfl | rfl | rfl
        · exact (makeService_conforms hb (by decide +kernel) (by decide +kernel)).mpr hsize
        · exact (makeService_conforms hb (by decide +kernel) (by decide +kernel)).mpr hsize
        · exact (makeStream_conforms hb (by decide +kernel)).mpr ⟨hsize, hgroup⟩
        · exact (makeService_conforms hb (by decide +kernel) (by decide +kernel)).mpr hsize
        · exact (makeService_conforms hb (by decide +kernel) (by decide +kernel)).mpr hsize
        · exact (makeService_conforms hb (by decide +kernel) (by decide +kernel)).mpr hsize
        · exact (makeService_conforms hb (by decide +kernel) (by decide +kernel)).mpr hsize
      · have hmem := hcolor hmem
        simp only [colorDescriptors, List.mem_cons, List.not_mem_nil, or_false] at hmem
        rcases hmem with rfl | rfl
        · exact (makeStream_conforms hb (by decide +kernel)).mpr ⟨hsize, hgroup⟩
        · exact (makeService_conforms hb (by decide +kernel) (by decide +kernel)).mpr hsize
    · have hmem := hrecording hmem
      simp only [recordingDescriptors, List.mem_cons, List.not_mem_nil, or_false] at hmem
      rcases hmem with rfl | rfl | rfl
      · exact (makeService_conforms hb (by decide +kernel) (by decide +kernel)).mpr hsize
      · exact (makeService_conforms hb (by decide +kernel) (by decide +kernel)).mpr hsize
      · exact (makeService_conforms hb (by decide +kernel) (by decide +kernel)).mpr hsize

theorem publicationObject_conforms {publicationId : ByteString} {values : List JsonValue}
    (hid : publicationId ≠ [] ∧ publicationId.length ≤ 128) :
    conforms formatDouble endpointCatalogPublicationRequest
        (.object (publicationObject publicationId 0 values)) = true ↔
      ∀ value ∈ values, conforms formatDouble endpointDescriptor value = true := by
  have hnodup : (["schema_version", "publication_id", "expected_catalog_generation",
      "descriptors"].map ascii).Nodup := by
    decide
  have hidentifier : conforms formatDouble identifierSchema (.string publicationId) = true :=
    conforms_text.mpr ⟨fun _ => hid.1, hid.2⟩
  have hversion : conforms formatDouble (.integer 1 1) (.int64 1) = true := rfl
  have hgeneration : conforms formatDouble nonNegativeInt64 (.uint64 0) = true := rfl
  have hdescriptors : conforms formatDouble (.array 0 none endpointDescriptor) (.array values) =
      true ↔ ∀ value ∈ values, conforms formatDouble endpointDescriptor value = true := by
    simp [conforms, withinLimit]
  rw [endpointCatalogPublicationRequest, publicationObject, conforms_object]
  · simp only [List.forall₂_cons, hversion, hidentifier, hgeneration, hdescriptors,
      List.forall₂_nil_right_iff, true_and, and_true]
  · rfl
  · exact hnodup

theorem length_intercalate_concat (separator : ByteString) (items : List ByteString)
    (item : ByteString) :
    (separator.intercalate (items ++ [item])).length ≤
      (separator.intercalate items).length + separator.length + item.length := by
  induction items with
  | nil => simp [List.intercalate]
  | cons first items ih =>
    cases items with
    | nil =>
      simp [List.intercalate]
      omega
    | cons second items =>
      simp only [List.cons_append, List.intercalate, List.intersperse_cons_cons, List.flatten_cons,
        List.length_append] at *
      omega

theorem serializeMembers_append (first second : List (ByteString × JsonValue)) :
    serializeMembers formatDouble (first ++ second) =
      serializeMembers formatDouble first ++ serializeMembers formatDouble second := by
  induction first with
  | nil => rfl
  | cons m first ih =>
    simp only [List.cons_append, serializeMembers, ih]

/-- One more member adds its text, a separator and a colon. -/
theorem length_serialize_concat (members : JsonObject) (key : ByteString) (value : JsonValue) :
    ((JsonValue.object (members ++ [(key, value)])).serialize formatDouble).length ≤
      ((JsonValue.object members).serialize formatDouble).length +
        ((jsonString key).length + (value.serialize formatDouble).length + 2) := by
  have h := length_intercalate_concat [44]
    ((serializeMembers formatDouble members).map fun m => jsonString m.1 ++ [58] ++ m.2)
    (jsonString key ++ [58] ++ value.serialize formatDouble)
  have hmap : (serializeMembers formatDouble (members ++ [(key, value)])).map
      (fun m => jsonString m.1 ++ [58] ++ m.2) =
      (serializeMembers formatDouble members).map (fun m => jsonString m.1 ++ [58] ++ m.2) ++
        [jsonString key ++ [58] ++ value.serialize formatDouble] := by
    rw [serializeMembers_append, List.map_append]
    rfl
  simp only [JsonValue.serialize, jsonObject, hmap, List.length_append, List.length_cons,
    List.length_nil] at h ⊢
  omega

theorem membersDepth_append (first second : List (ByteString × JsonValue)) :
    membersDepth (first ++ second) = max (membersDepth first) (membersDepth second) := by
  induction first with
  | nil => simp [membersDepth]
  | cons m first ih =>
    simp only [List.cons_append, membersDepth, ih]
    omega

theorem areDiagnosticMembers_append (first second : List (ByteString × JsonValue)) :
    areDiagnosticMembers (first ++ second) =
      (areDiagnosticMembers first && areDiagnosticMembers second) := by
  induction first with
  | nil => rfl
  | cons m first ih =>
    simp only [List.cons_append, areDiagnosticMembers, ih, Bool.and_assoc]

theorem registrationMetadata_conforms {setup : ClientSetup} (hb : setup.config.Bounded)
    (hsize : metadataBytes setup.formatDouble setup.geometry setup.config ≤ 1024) :
    conforms setup.formatDouble (.bounded 8192 8 (.free (some 128)))
      (.object (registrationMetadata setup)) = true := by
  have hversion : ((jsonString (ascii "provider_api_version")).length +
      (jsonString (ascii "1.3.0")).length + 2) ≤ 100 ∧
      areDiagnosticMembers [(ascii "provider_api_version", .string (ascii "1.3.0"))] = true := by
    decide
  have hlength : ((JsonValue.object (registrationMetadata setup)).serialize
      setup.formatDouble).length ≤ 8192 := by
    have h := @length_serialize_concat setup.formatDouble
      (buildVisionStaticMetadata setup.geometry setup.config) (ascii "provider_api_version")
      (.string (ascii "1.3.0"))
    have hsize' : ((JsonValue.object (buildVisionStaticMetadata setup.geometry
      setup.config)).serialize setup.formatDouble).length ≤ 1024 := hsize
    have hvalue : (JsonValue.string (ascii "1.3.0")).serialize setup.formatDouble =
      jsonString (ascii "1.3.0") := by rw [JsonValue.serialize]
    rw [hvalue] at h
    unfold registrationMetadata
    omega
  have hdepth : (JsonValue.object (registrationMetadata setup)).depth ≤ 8 := by
    have h := @staticMetadata_depth setup.geometry setup.config
    simp only [JsonValue.depth, registrationMetadata, membersDepth_append, membersDepth] at *
    omega
  have hmembers : areDiagnosticMembers (registrationMetadata setup) = true := by
    rw [registrationMetadata, areDiagnosticMembers_append, staticMetadata_diagnostic hb, hversion.2]
    rfl
  have hcount : withinLimit (some 128) (registrationMetadata setup).length = true := rfl
  simp only [conforms, decide_eq_true hlength, decide_eq_true hdepth, hmembers, hcount,
    Bool.and_self]

/-- Every provider state is a common state of the contract. -/
theorem makePilotState_conforms (state : ProviderState) :
    ∃ object, serializeCommonState (makePilotState state) = .ok object ∧
      conforms formatDouble commonStateSchema (.object object) = true := by
  cases state
  · exact ⟨_, rfl, rfl⟩
  · exact ⟨_, rfl, rfl⟩
  · exact ⟨_, rfl, rfl⟩
  · exact ⟨_, rfl, rfl⟩

theorem mapM_validateIdentifier {capabilities : List ByteString}
    (h : (capabilities.all fun capability =>
      !capability.isEmpty && decide (capability.length ≤ 128)) = true) :
    ∃ units, capabilities.mapM (fun capability => validateIdentifier capability "capability") =
      .ok units := by
  induction capabilities with
  | nil => exact ⟨[], rfl⟩
  | cons capability rest ih =>
    simp only [List.all_cons, Bool.and_eq_true] at h
    obtain ⟨units, hunits⟩ := ih h.2
    have hvalid : validateIdentifier capability "capability" = .ok () := by
      rw [validateIdentifier_eq_ok]
      simpa [identifierMaxBytes] using h.1
    refine ⟨() :: units, ?_⟩
    rw [List.mapM_cons, hvalid, hunits]
    rfl

theorem registrationObject_conforms {request : PilotRegistrationRequest} {initialState : JsonObject}
    (hcomponent : BoundedText request.componentId)
    (hinstance : isInstanceIdValid request.instanceId = true)
    (hcount : request.capabilities.length ≤ 32)
    (hcapabilities : (request.capabilities.all fun capability =>
      !capability.isEmpty && decide (capability.length ≤ 128)) = true)
    (hstate : conforms formatDouble commonStateSchema (.object initialState) = true)
    (hstarted : request.startedAtNs ≤ maxInt64Value)
    (hmetadata : conforms formatDouble (.bounded 8192 8 (.free (some 128)))
      (.object request.metadata) = true)
    (hclock : request.clockDomain = ascii "monotonic_same_host") :
    conforms formatDouble componentRegistrationRequest
      (.object (registrationObject request initialState)) = true := by
  have hnodup : (["component_id", "instance_id", "component_type", "protocol_version",
      "supported_schema_versions", "capabilities", "service_endpoints", "initial_state",
      "started_at", "metadata", "clock_domain"].map ascii).Nodup := by
    decide
  have hcomponent' : conforms formatDouble identifierSchema (.string request.componentId) = true :=
    conforms_text.mpr ⟨fun _ => hcomponent.ne_nil, hcomponent.length_le⟩
  have hinstance' : conforms formatDouble identifierSchema (.string request.instanceId) = true := by
    simp only [isInstanceIdValid, Bool.and_eq_true, decide_eq_true_eq] at hinstance
    obtain ⟨⟨hlength, _⟩, _⟩ := hinstance
    refine conforms_text.mpr ⟨?_, by omega⟩
    rintro _ hnil
    rw [hnil] at hlength
    cases hlength
  have htype : conforms formatDouble componentType (.string (ascii "camera")) = true := by
    show (["input_source", "camera", "policy", "ui", "observer", "service_provider"].map
      ascii).contains (ascii "camera") = true
    decide
  have hversions : conforms formatDouble (.array 1 (some 16) positiveInt64)
      (.array [.int64 1]) = true := rfl
  have hcapabilities' : conforms formatDouble (.array 0 (some 32) identifierSchema)
      (.array (request.capabilities.map .string)) = true := by
    simp only [conforms, withinLimit, List.length_map, Nat.zero_le, decide_true, Bool.true_and,
      Option.all_some, decide_eq_true hcount, List.all_eq_true, List.mem_map,
      forall_exists_index, and_imp, forall_apply_eq_imp_iff₂]
    intro capability hmem
    have h := List.all_eq_true.mp hcapabilities capability hmem
    simp only [Bool.and_eq_true, Bool.not_eq_true', List.isEmpty_eq_false_iff,
      decide_eq_true_eq] at h
    exact conforms_text.mpr ⟨fun _ => h.1, h.2⟩
  have hendpoints : conforms formatDouble (.object []) (.object []) = true := rfl
  have hstarted' : conforms formatDouble nonNegativeInt64 (.uint64 request.startedAtNs) = true := by
    simp only [nonNegativeInt64, conforms, JsonValue.asInteger, Option.any_some, Bool.and_eq_true,
      decide_eq_true_eq]
    unfold maxInt64Value at hstarted
    omega
  have hclock' : conforms formatDouble
      (.choice (["monotonic_same_host", "unix_epoch_synchronized"].map ascii))
      (.string request.clockDomain) = true := by
    rw [hclock]
    show (["monotonic_same_host", "unix_epoch_synchronized"].map ascii).contains
      (ascii "monotonic_same_host") = true
    decide
  have hprotocol : conforms formatDouble (.integer 1 1) (.int64 1) = true := rfl
  rw [componentRegistrationRequest, registrationObject, conforms_object]
  · simp only [List.forall₂_cons, hcomponent', hinstance', htype, hprotocol, hversions,
      hcapabilities', hendpoints, hstate, hstarted', hmetadata, hclock', true_and]
    exact .nil
  · rfl
  · exact hnodup

/-- The registration is serialized, and it conforms when the static metadata is short. -/
theorem registration_conforms {setup : ClientSetup} {identity : ClientIdentity}
    {state : ProviderState} (hb : setup.config.Bounded)
    (hinstance : isInstanceIdValid identity.instanceId = true)
    (hstarted : identity.startedAtNs ≤ maxInt64Value)
    (hsize : metadataBytes setup.formatDouble setup.geometry setup.config ≤ 1024) :
    ∃ object, serializeRegistrationRequest (registrationRequest setup identity state) =
        .ok object ∧
      conforms setup.formatDouble componentRegistrationRequest (.object object) = true := by
  have hkeys := catalog_sorted (isColorEnabled setup.config) setup.config.recording.enabled
  obtain ⟨_, _, hsorted, hcapabilities, hcount⟩ := hkeys
  rw [← @catalog_capabilities setup.geometry] at hsorted hcapabilities hcount
  obtain ⟨units, hunits⟩ := mapM_validateIdentifier hcapabilities
  obtain ⟨initialState, hserialized, hstate⟩ :=
    @makePilotState_conforms setup.formatDouble state
  refine ⟨registrationObject (registrationRequest setup identity state) initialState, ?_, ?_⟩
  · simp only [serializeRegistrationRequest, bind_eq_ok, validateIdentifier_eq_ok, ensure_eq_ok]
    refine ⟨(), ⟨hb.componentId.ne_nil, hb.componentId.length_le⟩, (), ?_, (), hsorted, units,
      hunits, initialState, hserialized, rfl⟩
    simp only [Bool.and_eq_true, beq_iff_eq]
    exact ⟨hinstance, hb.clockDomain⟩
  · exact registrationObject_conforms hb.componentId hinstance hcount hcapabilities hstate hstarted
      (registrationMetadata_conforms hb hsize) hb.clockDomain

theorem publicationId_bounded {identity : ClientIdentity}
    (hinstance : isInstanceIdValid identity.instanceId = true) :
    publicationId identity ≠ [] ∧ (publicationId identity).length ≤ 128 := by
  have hfixed : (ascii "catalog-").length = 8 ∧ (ascii "-1").length = 2 := by decide
  simp only [isInstanceIdValid, Bool.and_eq_true, decide_eq_true_eq] at hinstance
  have hlength : (publicationId identity).length = 49 := by
    simp only [publicationId, List.length_append, hfixed]
    omega
  constructor
  · intro hnil
    rw [hnil] at hlength
    cases hlength
  · omega

/-- The publication conforms exactly when all of its descriptors do. -/
theorem publication_conforms {setup : ClientSetup} {identity : ClientIdentity}
    (hinstance : isInstanceIdValid identity.instanceId = true) :
    (∃ object, serializeCatalogPublicationRequest (publicationId identity) 0
        setup.catalog.descriptors = .ok object ∧
      conforms setup.formatDouble endpointCatalogPublicationRequest (.object object) = true) ↔
    ∀ d ∈ setup.catalog.descriptors,
      conforms setup.formatDouble endpointDescriptor (.object (descriptorObject d)) = true := by
  have hid := publicationId_bounded hinstance
  constructor
  · rintro ⟨object, hobject, hconforms⟩ d hd
    simp only [serializeCatalogPublicationRequest, bind_eq_ok] at hobject
    obtain ⟨_, _, _, _, values, hvalues, hobject⟩ := hobject
    cases hobject
    rw [serializeDescriptors_eq hvalues, publicationObject_conforms hid] at hconforms
    exact hconforms _ (List.mem_map_of_mem hd)
  · intro h
    have hascending : ascending [] (setup.catalog.descriptors.map (·.descriptorId)) = true := by
      have hids := @catalog_ids setup.geometry setup.config
      have hkeys := catalog_sorted (isColorEnabled setup.config) setup.config.recording.enabled
      exact hids ▸ hkeys.1
    have hvalues := serializeDescriptors_conforming hascending h
    refine ⟨publicationObject (publicationId identity) 0
      (setup.catalog.descriptors.map fun d => .object (descriptorObject d)), ?_,
      (publicationObject_conforms hid).mpr ?_⟩
    · simp only [serializeCatalogPublicationRequest, bind_eq_ok, validateIdentifier_eq_ok]
      exact ⟨(), hid, (), rfl, _, hvalues, rfl⟩
    · intro value hvalue
      obtain ⟨d, hd, rfl⟩ := List.mem_map.mp hvalue
      exact h d hd

theorem streamGroupId_length : (streamGroupId config).length = config.componentId.length + 8 := by
  have hfixed : (ascii ".capture").length = 8 := by decide
  rw [streamGroupId, List.length_append, hfixed]

end NodusVision.Pilot
