import NodusVision.Pilot.Conformity

/-! The codec serializes what the client sends, whatever the lengths of its strings. -/
namespace NodusVision.Pilot
open Text Config Program

variable {geometry : CameraGeometry} {config : VisionConfig}

theorem areTexts_iff {descriptorId capability path mediaType schemaId : String}
    (h : areTexts descriptorId capability path mediaType schemaId = true) :
    isShort 128 descriptorId = true ∧ isShort 128 capability = true ∧ isShort 1024 path = true ∧
      isShort 128 mediaType = true ∧ isShort 256 schemaId = true := by
  simpa [areTexts, and_assoc] using h

/-- A descriptor with texts that the source fixes is serialized. -/
theorem descriptor_serializes {d : PilotEndpointDescriptor}
    {descriptorId capability path mediaType schemaId : String}
    (ht : areTexts descriptorId capability path mediaType schemaId = true)
    (hid : d.descriptorId = ascii descriptorId) (hcapability : d.capability = ascii capability)
    (hversion : d.contractVersion = 1)
    (hendpoint : d.endpoint = makeEndpoint config.provider.advertisedBaseUrl path)
    (hmedia : d.mediaType = ascii mediaType) (hschema : d.schemaId = ascii schemaId) :
    serializeDescriptor d = .ok (descriptorObject d) := by
  obtain ⟨hid', hcapability', hpath, hmedia', hschema'⟩ := areTexts_iff ht
  rw [isShort_iff] at hid' hcapability' hpath hmedia' hschema'
  have hendpoint' : d.endpoint ≠ [] := by
    rw [hendpoint, makeEndpoint]
    intro hnil
    exact hpath.1 (List.append_eq_nil_iff.mp hnil).2
  simp only [serializeDescriptor, bind_eq_ok, validateIdentifier_eq_ok, ensure_eq_ok]
  refine ⟨(), ?_, (), ?_, (), ?_, trivial⟩
  · rw [hid]
    exact hid'
  · rw [hcapability]
    exact hcapability'
  · have hmax : 1 ≤ maxInt64Value := by decide
    rw [hversion, hmedia, hschema]
    simp [hendpoint', hmedia'.1, hschema'.1, hmax]

theorem makeService_serializes
    {descriptorId capability path mediaType schemaId method requestSchemaId : String}
    (ht : areTexts descriptorId capability path mediaType schemaId = true) :
    serializeDescriptor (makeService geometry config descriptorId capability path mediaType schemaId
        method requestSchemaId) =
      .ok (descriptorObject (makeService geometry config descriptorId capability path mediaType
        schemaId method requestSchemaId)) :=
  descriptor_serializes ht rfl rfl rfl rfl rfl rfl

theorem makeStream_serializes {descriptorId capability path schemaId : String}
    (ht : areTexts descriptorId capability path "multipart/x-mixed-replace" schemaId = true) :
    serializeDescriptor (makeStream geometry config descriptorId capability path schemaId) =
      .ok (descriptorObject (makeStream geometry config descriptorId capability path schemaId)) :=
  descriptor_serializes ht rfl rfl rfl rfl rfl rfl

theorem added_serializes : ∀ d ∈ addedDescriptors geometry config,
    serializeDescriptor d = .ok (descriptorObject d) := by
  intro d hd
  rw [addedDescriptors, List.mem_append, List.mem_append] at hd
  rcases hd with (hbase | hcolor) | hrecording
  · simp only [baseDescriptors, List.mem_cons, List.not_mem_nil, or_false] at hbase
    rcases hbase with rfl | rfl | rfl | rfl | rfl | rfl | rfl
    · exact makeService_serializes (by decide +kernel)
    · exact makeService_serializes (by decide +kernel)
    · exact makeStream_serializes (by decide +kernel)
    · exact makeService_serializes (by decide +kernel)
    · exact makeService_serializes (by decide +kernel)
    · exact makeService_serializes (by decide +kernel)
    · exact makeService_serializes (by decide +kernel)
  · split at hcolor
    · simp only [colorDescriptors, List.mem_cons, List.not_mem_nil, or_false] at hcolor
      rcases hcolor with rfl | rfl
      · exact makeStream_serializes (by decide +kernel)
      · exact makeService_serializes (by decide +kernel)
    · cases hcolor
  · split at hrecording
    · simp only [recordingDescriptors, List.mem_cons, List.not_mem_nil, or_false] at hrecording
      rcases hrecording with rfl | rfl | rfl
      · exact makeService_serializes (by decide +kernel)
      · exact makeService_serializes (by decide +kernel)
      · exact makeService_serializes (by decide +kernel)
    · cases hrecording

theorem serializeDescriptors_ok {previous : ByteString}
    {descriptors : List PilotEndpointDescriptor}
    (hsorted : ascending previous (descriptors.map (·.descriptorId)) = true)
    (h : ∀ d ∈ descriptors, serializeDescriptor d = .ok (descriptorObject d)) :
    serializeDescriptors previous descriptors =
      .ok (descriptors.map fun d => .object (descriptorObject d)) := by
  induction descriptors generalizing previous with
  | nil => rfl
  | cons d rest ih =>
    simp only [List.map_cons, ascending, Bool.and_eq_true] at hsorted
    have hd := h d List.mem_cons_self
    have hrest := ih hsorted.2 fun d hd => h d (List.mem_cons_of_mem _ hd)
    simp only [serializeDescriptors, ensure, hsorted.1, hd, hrest]
    rfl

theorem publication_serializes {setup : ClientSetup} {identity : ClientIdentity}
    (hinstance : isInstanceIdValid identity.instanceId = true) :
    ∃ object, serializeCatalogPublicationRequest (publicationId identity) 0
      setup.catalog.descriptors = .ok object := by
  have hascending : ascending [] (setup.catalog.descriptors.map (·.descriptorId)) = true := by
    have hids := @catalog_ids setup.geometry setup.config
    have hkeys := catalog_sorted (isColorEnabled setup.config) setup.config.recording.enabled
    exact hids ▸ hkeys.1
  have hvalues := serializeDescriptors_ok hascending fun d hd =>
    added_serializes d ((List.perm_insertionSort _ _).mem_iff.mp hd)
  use publicationObject (publicationId identity) 0
    (setup.catalog.descriptors.map fun d => .object (descriptorObject d))
  simp only [serializeCatalogPublicationRequest, bind_eq_ok, validateIdentifier_eq_ok]
  exact ⟨(), publicationId_bounded hinstance, (), rfl, _, hvalues, rfl⟩

theorem registration_serializes {setup : ClientSetup} {identity : ClientIdentity}
    (state : ProviderState) (hb : setup.config.Bounded)
    (hinstance : isInstanceIdValid identity.instanceId = true) :
    ∃ object, serializeRegistrationRequest (registrationRequest setup identity state) =
      .ok object := by
  have hkeys := catalog_sorted (isColorEnabled setup.config) setup.config.recording.enabled
  obtain ⟨_, _, hsorted, hcapabilities, _⟩ := hkeys
  rw [← @catalog_capabilities setup.geometry] at hsorted hcapabilities
  obtain ⟨units, hunits⟩ := mapM_validateIdentifier hcapabilities
  obtain ⟨initialState, hserialized, -⟩ := @makePilotState_conforms setup.formatDouble state
  use registrationObject (registrationRequest setup identity state) initialState
  simp only [serializeRegistrationRequest, bind_eq_ok, validateIdentifier_eq_ok, ensure_eq_ok]
  refine ⟨(), ⟨hb.componentId.ne_nil, hb.componentId.length_le⟩, (), ?_, (), hsorted, units,
    hunits, initialState, hserialized, rfl⟩
  simp only [Bool.and_eq_true, beq_iff_eq]
  exact ⟨hinstance, hb.clockDomain⟩

end NodusVision.Pilot
