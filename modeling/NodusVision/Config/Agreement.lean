import NodusVision.Config.Devices
import NodusVision.Config.Sections

/-! The parser on a whole document: when it returns a configuration, and when it throws nothing but
`std::invalid_argument`. -/
namespace NodusVision.Config
open Text Program

section
variable {root device object : JsonObject} {key : String} {rounding : Rounding}

theorem isEven_intCast (n : ℤ) : isEven n = (n % 2 == 0) := by
  simp [isEven]

theorem has_isTrue {enabled : Bool} (h : object.find? (ascii key) = some (.bool enabled)) :
    has object key isTrue = enabled := by
  rw [has, h]
  rfl

theorem parseFake_recordable (hwords : areRepresentable device = true) {config : FakeCameraAdapterConfig}
    (h : parseFake device = .ok config) : (DeviceConfig.fake config).isRecordable =
      (has (memberOf device "fake") "width" (isNumber isEven) &&
        has (memberOf device "fake") "height" (isNumber isEven)) := by
  simp only [parseFake, bind_eq_ok, requireObject_eq_ok] at h
  obtain ⟨_, _, fake, hfake, _, _, width, hwidth, height, hheight, h⟩ := h
  obtain ⟨_, _, _, _, _, _, h⟩ := h
  cases h
  have hmembers := representable_member hwords hfake
  obtain ⟨hwidth, -⟩ := (requireBoundedInt_stored (by decide) (by decide) hmembers).mp hwidth
  obtain ⟨hheight, -⟩ := (requireBoundedInt_stored (by decide) (by decide) hmembers).mp hheight
  rw [memberOf_eq hfake, has_isNumber hwidth, has_isNumber hheight, isEven_intCast, isEven_intCast]
  rfl

theorem parseIntelD435_recordable (hwords : areRepresentable device = true)
    {config : IntelD435AdapterConfig} (h : parseIntelD435 rounding device = .ok config) :
    (DeviceConfig.intelD435 config).isRecordable =
      (has (memberOf device "intel_d435") "enable_color" isTrue &&
        has (memberOf device "intel_d435") "color_width" (isNumber isEven) &&
        has (memberOf device "intel_d435") "color_height" (isNumber isEven)) := by
  simp only [parseIntelD435, bind_eq_ok, requireObject_eq_ok, requireAsBool_eq_ok] at h
  obtain ⟨_, _, d435, hd435, _, _, _, _, _, _, _, _, _, _, h⟩ := h
  obtain ⟨width, hwidth, height, hheight, _, _, enable, henable, _, _, _, _, _, _, h⟩ := h
  cases h
  have hmembers := representable_member hwords hd435
  obtain ⟨hwidth, -⟩ := (requireBoundedInt_stored (by decide) (by decide) hmembers).mp hwidth
  obtain ⟨hheight, -⟩ := (requireBoundedInt_stored (by decide) (by decide) hmembers).mp hheight
  rw [memberOf_eq hd435, has_isTrue henable, has_isNumber hwidth, has_isNumber hheight, isEven_intCast,
    isEven_intCast]
  rfl

theorem parseDevice_recordable (hwords : areRepresentable root = true) {config : DeviceConfig}
    (h : parseDevice rounding root = .ok config) :
    config.isRecordable = isRecordableDevice (memberOf root "device") := by
  simp only [parseDevice, bind_eq_ok, requireObject_eq_ok, requireString_eq_ok] at h
  obtain ⟨device, hdevice, _, _, adapter, ⟨hadapter, -⟩, h⟩ := h
  have hmembers := representable_member hwords hdevice
  rw [memberOf_eq hdevice, isRecordableDevice, has_values hadapter]
  split at h
  · rename_i hfake
    subst hfake
    obtain ⟨fake, hparse, h⟩ := bind_eq_ok.mp h
    cases h
    rw [if_pos (by decide)]
    exact parseFake_recordable hmembers hparse
  · split at h
    · rename_i hintel
      subst hintel
      obtain ⟨d435, hparse, h⟩ := bind_eq_ok.mp h
      cases h
      rw [if_neg (by decide)]
      exact parseIntelD435_recordable hmembers hparse
    · simp at h

theorem parseRecording_enabled {recording : RecordingConfig} (h : parseRecording root = .ok recording) :
    recording.enabled = has (memberOf root "recording") "enabled" isTrue := by
  simp only [parseRecording, bind_eq_ok, requireObject_eq_ok, requireBool_eq_ok] at h
  obtain ⟨object, hobject, _, _, enabled, henabled, h⟩ := h
  obtain ⟨_, _, _, _, _, _, _, _, _, _, _, _, _, _, _, _, _, _, _, _, h⟩ := h
  cases h
  rw [memberOf_eq hobject, has_isTrue henabled]

variable {parse : JsonParser} {jsonText : ByteString}

/-- The parser on the object of the document. -/
theorem parseVisionConfig_object (hparse : parse jsonText = some (.object root)) :
    parseVisionConfig parse rounding jsonText = (do
      rejectUnknownFields root ["schema_version", "device_id", "component_id", "device", "calibration",
        "provider", "pilot", "recording"] "/"
      let schemaVersion ← requireBoundedInt root "schema_version" "/schema_version" 1 1
      let deviceId ← requireString root "device_id" "/device_id"
      let componentId ← requireString root "component_id" "/component_id"
      let device ← parseDevice rounding root
      let calibration ← parseCalibration rounding root
      let provider ← parseProvider root
      let pilot ← parsePilot root
      let recording ← parseRecording root
      check (!recording.enabled || device.isRecordable) "/recording/enabled"
        "requires an enabled even-dimension RGB color profile."
      .ok { schemaVersion, deviceId, componentId, device, calibration, provider, pilot, recording }) := by
  unfold parseVisionConfig
  rw [hparse]
  rfl

theorem succeeds_parseVisionConfig (hparse : parse jsonText = some (.object root))
    (hwords : areRepresentable root = true) (hrounding : rounding.Faithful) :
    Succeeds (parseVisionConfig parse rounding jsonText) ↔
      configSchema root = true ∧ isConfigPlain rounding root = true := by
  rw [parseVisionConfig_object hparse]
  simp (disch := first | exact hwords | decide) only [succeeds_bind, rejectUnknownFields_eq_ok,
    requireBoundedInt_stored, requireString_eq_ok, check_eq_ok, succeeds_ok, and_true, exists_const,
    and_assoc, configSchema, rootHead, isConfigPlain, Bool.and_eq_true]
  constructor
  · rintro ⟨hknown, version, hversion, hv, hv', id, hid, hidBounded, hidPlain, component, hcomponent,
      hcomponentBounded, hcomponentPlain, device, hdevice, calibration, hcalibration, provider, hprovider,
      pilot, hpilot, recording, hrecording, hrecordable⟩
    rw [parseRecording_enabled hrecording, parseDevice_recordable hwords hdevice] at hrecordable
    obtain ⟨hdevice, hdevicePlain⟩ := (succeeds_parseDevice hwords).mp ⟨device, hdevice⟩
    obtain ⟨hcalibration, hcalibrationPlain⟩ :=
      (succeeds_parseCalibration hrounding).mp ⟨calibration, hcalibration⟩
    obtain ⟨hprovider, hproviderPlain⟩ := (succeeds_parseProvider hwords).mp ⟨provider, hprovider⟩
    obtain ⟨hpilot, hpilotPlain⟩ := (succeeds_parsePilot hwords).mp ⟨pilot, hpilot⟩
    obtain ⟨hrecording, hrecordingPlain⟩ := (succeeds_parseRecording hwords).mp ⟨recording, hrecording⟩
    obtain ⟨hversion, hversion'⟩ := has_stored_iff.mpr ⟨version, hversion, hv, hv'⟩
    exact ⟨hknown, hversion, has_boundedText.mpr ⟨id, hid, hidBounded, hidPlain⟩,
      has_boundedText.mpr ⟨component, hcomponent, hcomponentBounded, hcomponentPlain⟩, hdevice,
      hcalibration, hprovider, hpilot, hrecording, hrecordable, hversion', hdevicePlain,
      hcalibrationPlain, hproviderPlain, hpilotPlain, hrecordingPlain⟩
  · rintro ⟨hknown, hversion, hid, hcomponent, hdevice, hcalibration, hprovider, hpilot, hrecording,
      hrecordable, hversion', hdevicePlain, hcalibrationPlain, hproviderPlain, hpilotPlain,
      hrecordingPlain⟩
    obtain ⟨version, hversion, hv, hv'⟩ := has_stored_iff.mp ⟨hversion, hversion'⟩
    obtain ⟨id, hid, hidBounded, hidPlain⟩ := has_boundedText.mp hid
    obtain ⟨component, hcomponent, hcomponentBounded, hcomponentPlain⟩ := has_boundedText.mp hcomponent
    obtain ⟨device, hdevice⟩ := (succeeds_parseDevice hwords).mpr ⟨hdevice, hdevicePlain⟩
    obtain ⟨calibration, hcalibration⟩ :=
      (succeeds_parseCalibration hrounding).mpr ⟨hcalibration, hcalibrationPlain⟩
    obtain ⟨provider, hprovider⟩ := (succeeds_parseProvider hwords).mpr ⟨hprovider, hproviderPlain⟩
    obtain ⟨pilot, hpilot⟩ := (succeeds_parsePilot hwords).mpr ⟨hpilot, hpilotPlain⟩
    obtain ⟨recording, hrecording⟩ := (succeeds_parseRecording hwords).mpr ⟨hrecording, hrecordingPlain⟩
    rw [← parseRecording_enabled hrecording, ← parseDevice_recordable hwords hdevice] at hrecordable
    exact ⟨hknown, version, hversion, hv, hv', id, hid, hidBounded, hidPlain, component, hcomponent,
      hcomponentBounded, hcomponentPlain, device, hdevice, calibration, hcalibration, provider, hprovider,
      pilot, hpilot, recording, hrecording, hrecordable⟩

theorem refuses_parseVisionConfig (hparse : parse jsonText = some (.object root))
    (hwords : areRepresentable root = true) (hrounding : rounding.Faithful) :
    Refuses (parseVisionConfig parse rounding jsonText) ↔ isConfigRead rounding root = true := by
  rw [parseVisionConfig_object hparse]
  simp (disch := first | exact hwords | decide) only [refuses_bind, refuses_rejectUnknownFields,
    refuses_requireBoundedInt, refuses_requireString, refuses_check, refuses_ok,
    refuses_parseDevice hwords, refuses_parseCalibration, refuses_parseProvider hwords,
    refuses_parsePilot, refuses_parseRecording, rejectUnknownFields_eq_ok, requireBoundedInt_stored,
    requireString_eq_ok, true_and, and_true, implies_true, isConfigRead, rootHead, implies_iff,
    Bool.and_eq_true]
  constructor
  · rintro h ⟨⟨⟨⟨hknown, hversion⟩, hid⟩, hcomponent⟩, hversion'⟩
    obtain ⟨version, hversion⟩ := has_stored_iff.mp ⟨hversion, hversion'⟩
    obtain ⟨id, hid⟩ := has_boundedText.mp hid
    obtain ⟨component, hcomponent⟩ := has_boundedText.mp hcomponent
    obtain ⟨hdevice, hnext⟩ := h () hknown version hversion id hid component hcomponent
    refine ⟨hdevice, ?_⟩
    rintro ⟨⟨hdevice, hcalibration⟩, hcalibrationPlain⟩
    obtain ⟨device, hdevice⟩ := (succeeds_parseDevice hwords).mpr hdevice
    obtain ⟨calibration, hcalibration⟩ :=
      (succeeds_parseCalibration hrounding).mpr ⟨hcalibration, hcalibrationPlain⟩
    obtain ⟨hprovider, hnext⟩ := hnext device hdevice calibration hcalibration
    refine ⟨hprovider, ?_⟩
    intro hprovider
    obtain ⟨provider, hprovider⟩ := (succeeds_parseProvider hwords).mpr hprovider
    exact hnext provider hprovider
  · rintro h _ hknown version hversion id hid component hcomponent
    obtain ⟨hversion, hversion'⟩ := has_stored_iff.mpr ⟨version, hversion⟩
    have hid := has_boundedText.mpr ⟨id, hid⟩
    have hcomponent := has_boundedText.mpr ⟨component, hcomponent⟩
    obtain ⟨hdevice, hnext⟩ := h ⟨⟨⟨⟨hknown, hversion⟩, hid⟩, hcomponent⟩, hversion'⟩
    refine ⟨hdevice, ?_⟩
    intro device hdevice calibration hcalibration
    have hdevice := (succeeds_parseDevice hwords).mp ⟨device, hdevice⟩
    obtain ⟨hcalibration, hcalibrationPlain⟩ :=
      (succeeds_parseCalibration hrounding).mp ⟨calibration, hcalibration⟩
    obtain ⟨hprovider, hnext⟩ := hnext ⟨⟨hdevice, hcalibration⟩, hcalibrationPlain⟩
    refine ⟨hprovider, ?_⟩
    intro provider hprovider
    exact hnext ((succeeds_parseProvider hwords).mp ⟨provider, hprovider⟩)

end

end NodusVision.Config
