import NodusVision.Config.Members

/-! The device section: one adapter is selected and only its configuration is there. -/
namespace NodusVision.Config
open Text Program

section
variable {object device : JsonObject} {key : String}

theorem isNone_iff : (object.find? (ascii key)).isNone = true ↔
    mayHave object key (fun _ => false) = true := by
  unfold mayHave
  cases object.find? (ascii key) <;> simp

theorem mayHave_of_absent {test : JsonValue → Bool}
    (h : mayHave object key (fun _ => false) = true) : mayHave object key test = true := by
  unfold mayHave at *
  cases hfound : object.find? (ascii key) with
  | none => rfl
  | some found => simp [hfound] at h

/-- A member that is required and may be there. -/
theorem has_of_mayHave {test : JsonValue → Bool} : has object key test = true ↔
    mayHave object key test = true ∧ has object key (fun _ => true) = true := by
  unfold has mayHave
  cases object.find? (ascii key) <;> simp

theorem refuses_parseFake : Refuses (parseFake device) := by
  unfold parseFake
  simp only [refuses_bind, refuses_check, refuses_requireObject, refuses_rejectUnknownFields,
    refuses_requireBoundedInt, refuses_ok, and_true, implies_true]

theorem succeeds_parseFake (hwords : areRepresentable device = true) : Succeeds (parseFake device) ↔
    mayHave device "intel_d435" (fun _ => false) = true ∧ has device "fake" fakeSchema = true ∧
      storesIntegers (memberOf device "fake") fakeKeys = true := by
  unfold parseFake
  simp only [succeeds_bind, check_eq_ok, isNone_iff, exists_const, requireObject_eq_ok, fakeSchema,
    has_isObject]
  apply and_congr_right
  intro _
  rw [← exists_and_right]
  apply exists_congr
  intro fake
  rw [and_assoc]
  apply and_congr_right
  intro hfake
  have hmembers := representable_member hwords hfake
  rw [memberOf_eq hfake]
  simp (disch := first | exact hmembers | decide) only [rejectUnknownFields_eq_ok,
    requireBoundedInt_stored, succeeds_ok, and_true, exists_const, exists_and_right, ← has_stored_iff,
    storesIntegers, fakeKeys, List.all_cons, List.all_nil, Bool.and_eq_true]
  constructor
  · rintro ⟨hknown, ⟨hwidth, hwidth'⟩, ⟨hheight, hheight'⟩, ⟨hfps, hfps'⟩, ⟨hstart, hstart'⟩, hseed,
      hseed'⟩
    exact ⟨⟨⟨⟨⟨⟨hknown, hwidth⟩, hheight⟩, hfps⟩, hstart⟩, hseed⟩, hwidth', hheight', hfps', hstart',
      hseed'⟩
  · rintro ⟨⟨⟨⟨⟨⟨hknown, hwidth⟩, hheight⟩, hfps⟩, hstart⟩, hseed⟩, hwidth', hheight', hfps', hstart',
      hseed'⟩
    exact ⟨hknown, ⟨hwidth, hwidth'⟩, ⟨hheight, hheight'⟩, ⟨hfps, hfps'⟩, ⟨hstart, hstart'⟩, hseed,
      hseed'⟩

theorem validate_iff {config : IntelD435AdapterConfig} (hwidth : 1 ≤ config.depthWidth)
    (hheight : 1 ≤ config.depthHeight) (hfps : 1 ≤ config.depthFps) (hcolorWidth : 1 ≤ config.colorWidth)
    (hcolorHeight : 1 ≤ config.colorHeight) (hcolorFps : 1 ≤ config.colorFps) :
    validateIntelD435AdapterConfig config = .ok () ↔ isRange config.depthMinM config.depthMaxM = true := by
  have hprofile : ¬ (config.depthWidth ≤ 0 ∨ config.depthHeight ≤ 0 ∨ config.depthFps ≤ 0 ∨
      (config.enableColor = true ∧
        (config.colorWidth ≤ 0 ∨ config.colorHeight ≤ 0 ∨ config.colorFps ≤ 0))) := by omega
  simp only [not_or] at hprofile
  obtain ⟨h1, h2, h3, h4⟩ := hprofile
  simp only [validateIntelD435AdapterConfig, h1, h2, h3, h4, false_or, isRange, Bool.and_eq_true,
    decide_eq_true_eq, ite_eq_ok, reduceCtorEq, and_false, and_true, not_or, not_lt, not_le, and_assoc]

theorem refuses_validate {config : IntelD435AdapterConfig} :
    Refuses (validateIntelD435AdapterConfig config) := by
  unfold validateIntelD435AdapterConfig
  split
  · exact throwsOnly_error _ |>.mpr trivial
  · exact refuses_ok _

theorem has_storedDouble (rounding : Rounding) : has object key isStoredDouble = true ↔
    ∃ found value, object.find? (ascii key) = some found ∧ floatOf rounding found = some value := by
  rw [has_iff]
  apply exists_congr
  intro found
  cases found <;> simp [isStoredDouble, floatOf]

theorem has_double {rounding : Rounding} {found : JsonValue} {value : FloatingPoint}
    (h : object.find? (ascii key) = some found) (hvalue : floatOf rounding found = some value) :
    has object key isAnyNumber = true := by
  rw [has, h]
  cases found with
  | double q => rfl
  | infinity negative => rfl
  | _ => cases hvalue

theorem has_range {first second : String} {low high : JsonValue} {minimum maximum : FloatingPoint}
    {read : JsonValue → Option FloatingPoint} (hlow : object.find? (ascii first) = some low)
    (hminimum : read low = some minimum) (hhigh : object.find? (ascii second) = some high)
    (hmaximum : read high = some maximum) :
    (has object first fun low => has object second fun high =>
      (read low).any fun minimum => (read high).any fun maximum => isRange minimum maximum) =
      isRange minimum maximum := by
  rw [has, hlow, Option.any_some, has, hhigh, Option.any_some, hminimum, Option.any_some, hmaximum,
    Option.any_some]

theorem succeeds_parseIntelD435 {rounding : Rounding} (hwords : areRepresentable device = true) :
    Succeeds (parseIntelD435 rounding device) ↔
    mayHave device "fake" (fun _ => false) = true ∧ has device "intel_d435" d435Schema = true ∧
      storesIntegers (memberOf device "intel_d435") (d435Profile.map Prod.fst) = true ∧
      has (memberOf device "intel_d435") "depth_min_m" isStoredDouble = true ∧
      has (memberOf device "intel_d435") "depth_max_m" isStoredDouble = true ∧
      (has (memberOf device "intel_d435") "depth_min_m" fun low =>
        has (memberOf device "intel_d435") "depth_max_m" fun high =>
          (floatOf rounding low).any fun minimum => (floatOf rounding high).any fun maximum =>
            isRange minimum maximum) = true := by
  unfold parseIntelD435
  simp only [succeeds_bind, check_eq_ok, isNone_iff, exists_const, requireObject_eq_ok, d435Schema,
    has_isObject]
  apply and_congr_right
  intro _
  rw [← exists_and_right]
  apply exists_congr
  intro d435
  rw [and_assoc]
  apply and_congr_right
  intro hd435
  have hmembers := representable_member hwords hd435
  rw [memberOf_eq hd435]
  simp (disch := first | exact hmembers | decide) only [rejectUnknownFields_eq_ok,
    requireStringAllowEmpty_eq_ok, requireBoundedInt_stored, requireAsBool_eq_ok, requireFloat_eq_ok,
    succeeds_ok, and_true, exists_const, storesIntegers, d435Profile, List.map_cons, List.map_nil,
    List.all_cons, List.all_nil, Bool.and_eq_true, and_assoc]
  constructor
  · rintro ⟨hknown, serial, hserial, hlength, hplain, depthWidth, hdw, h1, h1', depthHeight, hdh, h2, h2',
      depthFps, hdf, h3, h3', colorWidth, hcw, h4, h4', colorHeight, hch, h5, h5', colorFps, hcf, h6, h6',
      enable, henable, minimum, ⟨low, hlow, hminimum⟩, maximum, ⟨high, hhigh, hmaximum⟩, _, hvalidate⟩
    have hserial : has d435 "serial_number"
        (isString fun value => decide (value.length ≤ 128) && isPlain value) = true := by
      rw [has_isString]
      exact ⟨serial, hserial, by rw [hlength, hplain]; rfl⟩
    have hrange := (validate_iff h1 h2 h3 h4 h5 h6).mp hvalidate
    obtain ⟨hdw, hdw'⟩ := has_stored_iff.mpr ⟨depthWidth, hdw, h1, h1'⟩
    obtain ⟨hdh, hdh'⟩ := has_stored_iff.mpr ⟨depthHeight, hdh, h2, h2'⟩
    obtain ⟨hdf, hdf'⟩ := has_stored_iff.mpr ⟨depthFps, hdf, h3, h3'⟩
    obtain ⟨hcw, hcw'⟩ := has_stored_iff.mpr ⟨colorWidth, hcw, h4, h4'⟩
    obtain ⟨hch, hch'⟩ := has_stored_iff.mpr ⟨colorHeight, hch, h5, h5'⟩
    obtain ⟨hcf, hcf'⟩ := has_stored_iff.mpr ⟨colorFps, hcf, h6, h6'⟩
    exact ⟨hknown, hserial, hdw, hdh, hdf, hcw, hch, hcf, has_boolean.mpr ⟨enable, henable⟩,
      has_double hlow hminimum, has_double hhigh hmaximum, hdw', hdh', hdf', hcw', hch', hcf',
      (has_storedDouble rounding).mpr ⟨low, minimum, hlow, hminimum⟩,
      (has_storedDouble rounding).mpr ⟨high, maximum, hhigh, hmaximum⟩,
      (has_range hlow hminimum hhigh hmaximum).trans hrange⟩
  · rintro ⟨hknown, hserial, hdw, hdh, hdf, hcw, hch, hcf, henable, -, -, hdw', hdh', hdf', hcw', hch', hcf',
      hlow, hhigh, hrange⟩
    obtain ⟨serial, hserial, htext⟩ := has_isString.mp hserial
    rw [Bool.and_eq_true] at htext
    obtain ⟨enable, henable⟩ := has_boolean.mp henable
    obtain ⟨low, minimum, hlow, hminimum⟩ := (has_storedDouble rounding).mp hlow
    obtain ⟨high, maximum, hhigh, hmaximum⟩ := (has_storedDouble rounding).mp hhigh
    obtain ⟨depthWidth, hdw, h1, h1'⟩ := has_stored_iff.mp ⟨hdw, hdw'⟩
    obtain ⟨depthHeight, hdh, h2, h2'⟩ := has_stored_iff.mp ⟨hdh, hdh'⟩
    obtain ⟨depthFps, hdf, h3, h3'⟩ := has_stored_iff.mp ⟨hdf, hdf'⟩
    obtain ⟨colorWidth, hcw, h4, h4'⟩ := has_stored_iff.mp ⟨hcw, hcw'⟩
    obtain ⟨colorHeight, hch, h5, h5'⟩ := has_stored_iff.mp ⟨hch, hch'⟩
    obtain ⟨colorFps, hcf, h6, h6'⟩ := has_stored_iff.mp ⟨hcf, hcf'⟩
    rw [has_range hlow hminimum hhigh hmaximum] at hrange
    exact ⟨hknown, serial, hserial, htext.1, htext.2, depthWidth, hdw, h1, h1', depthHeight, hdh, h2, h2',
      depthFps, hdf, h3, h3', colorWidth, hcw, h4, h4', colorHeight, hch, h5, h5', colorFps, hcf, h6, h6',
      enable, henable, minimum, ⟨low, hlow, hminimum⟩, maximum, ⟨high, hhigh, hmaximum⟩, (),
      (validate_iff h1 h2 h3 h4 h5 h6).mpr hrange⟩

theorem refuses_parseIntelD435 {rounding : Rounding} (hwords : areRepresentable device = true) :
    Refuses (parseIntelD435 rounding device) ↔
      (mayHave device "fake" (fun _ => false) = true →
        isD435Read (memberOf device "intel_d435") = true) := by
  have hempty : isD435Read [] = true := by decide
  have hmember := @forall_member device "intel_d435" (fun d435 => isD435Read d435 = true) hempty
  rw [← hmember]
  unfold parseIntelD435
  simp only [refuses_bind, refuses_check, check_eq_ok, isNone_iff, refuses_requireObject,
    requireObject_eq_ok, true_and, forall_const]
  apply imp_congr_right
  intro _
  apply forall_congr'
  intro d435
  apply imp_congr_right
  intro hd435
  have hmembers := representable_member hwords hd435
  rw [isD435Read, implies_iff]
  simp (disch := first | exact hmembers | decide) only [refuses_rejectUnknownFields,
    refuses_requireStringAllowEmpty, refuses_requireBoundedInt, refuses_requireAsBool,
    refuses_requireFloat, refuses_validate, refuses_ok, rejectUnknownFields_eq_ok,
    requireStringAllowEmpty_eq_ok, requireBoundedInt_stored, requireAsBool_eq_ok, requireFloat_eq_ok,
    true_and, and_true, implies_true, implies_iff, Bool.and_eq_true, d435Profile, List.all_cons,
    List.all_nil, has_isStoredIn, has_boolean, has_storedDouble rounding]
  constructor
  · rintro h ⟨⟨hknown, hserial⟩, ⟨_, hdw⟩, ⟨_, hdh⟩, ⟨_, hdf⟩, ⟨_, hcw⟩, ⟨_, hch⟩, _, hcf⟩
    obtain ⟨serial, hserial, htext⟩ := has_isString.mp hserial
    rw [Bool.and_eq_true] at htext
    obtain ⟨hcolor, hmin⟩ := h () hknown serial ⟨hserial, htext⟩ _ hdw _ hdh _ hdf _ hcw _ hch _ hcf
    refine ⟨hcolor, ?_⟩
    rintro ⟨enable, henable⟩
    obtain ⟨hlow, hmax⟩ := hmin enable henable
    refine ⟨hlow, ?_⟩
    rintro ⟨low, minimum, hlow⟩
    exact hmax minimum ⟨low, hlow⟩
  · rintro h _ hknown serial ⟨hserial, htext⟩ _ hdw _ hdh _ hdf _ hcw _ hch _ hcf
    have hserial : has d435 "serial_number"
        (isString fun value => decide (value.length ≤ 128) && isPlain value) = true := by
      rw [has_isString]
      exact ⟨serial, hserial, by rw [htext.1, htext.2]; rfl⟩
    obtain ⟨hcolor, hmin⟩ :=
      h ⟨⟨hknown, hserial⟩, ⟨_, hdw⟩, ⟨_, hdh⟩, ⟨_, hdf⟩, ⟨_, hcw⟩, ⟨_, hch⟩, _, hcf⟩
    refine ⟨hcolor, ?_⟩
    intro enable henable
    obtain ⟨hlow, hmax⟩ := hmin ⟨enable, henable⟩
    refine ⟨hlow, ?_⟩
    rintro minimum ⟨low, hlow⟩
    exact hmax ⟨low, minimum, hlow⟩

variable {root : JsonObject}

theorem has_values {adapter : ByteString} {values : List String}
    (hadapter : object.find? (ascii key) = some (.string adapter)) :
    has object key (isOneOf values) = (values.map ascii).contains adapter := by
  rw [has, hadapter]
  rfl

/-- The device object of the schema, by the adapter that it selects. -/
theorem deviceObject_iff {adapter : ByteString}
    (hadapter : device.find? (ascii "adapter") = some (.string adapter)) :
    deviceObject device = true ↔ hasOnly device ["adapter", "fake", "intel_d435"] = true ∧
      (adapter = ascii "fake" ∧ mayHave device "intel_d435" (fun _ => false) = true ∧
          has device "fake" fakeSchema = true ∨
        adapter = ascii "intel_d435" ∧ mayHave device "fake" (fun _ => false) = true ∧
          has device "intel_d435" d435Schema = true) := by
  rw [deviceObject, has_values hadapter, has_values hadapter, has_values hadapter]
  by_cases hfake : adapter = ascii "fake"
  · subst hfake
    have hother : ascii "fake" ≠ ascii "intel_d435" := by decide
    have hin : (["fake", "intel_d435"].map ascii).contains (ascii "fake") = true := by decide
    have hself : (["fake"].map ascii).contains (ascii "fake") = true := by decide
    have hnot : (["intel_d435"].map ascii).contains (ascii "fake") = false := by decide
    rw [hin, hself, hnot, @has_of_mayHave device "fake" fakeSchema]
    simp only [hother, false_and, or_false, true_and, Bool.and_true, Bool.not_true, Bool.false_or,
      Bool.not_false, Bool.true_or, Bool.and_eq_true]
    constructor
    · rintro ⟨⟨⟨hknown, hfake⟩, -⟩, hhas, habsent⟩
      exact ⟨hknown, habsent, hfake, hhas⟩
    · rintro ⟨hknown, habsent, hfake, hhas⟩
      exact ⟨⟨⟨hknown, hfake⟩, mayHave_of_absent habsent⟩, hhas, habsent⟩
  · by_cases hintel : adapter = ascii "intel_d435"
    · subst hintel
      have hin : (["fake", "intel_d435"].map ascii).contains (ascii "intel_d435") = true := by decide
      have hself : (["intel_d435"].map ascii).contains (ascii "intel_d435") = true := by decide
      have hnot : (["fake"].map ascii).contains (ascii "intel_d435") = false := by decide
      rw [hin, hself, hnot, @has_of_mayHave device "intel_d435" d435Schema]
      simp only [hfake, false_and, false_or, true_and, Bool.and_true, Bool.not_true, Bool.false_or,
        Bool.not_false, Bool.true_or, Bool.and_eq_true]
      constructor
      · rintro ⟨⟨⟨hknown, -⟩, hintel⟩, hhas, habsent⟩
        exact ⟨hknown, habsent, hintel, hhas⟩
      · rintro ⟨hknown, habsent, hintel, hhas⟩
        exact ⟨⟨⟨hknown, mayHave_of_absent habsent⟩, hintel⟩, hhas, habsent⟩
    · have hnone : (["fake", "intel_d435"].map ascii).contains adapter = false := by
        simp [hfake, hintel]
      rw [hnone]
      simp [hfake, hintel]

theorem adapter_text {adapter : ByteString} (h : adapter = ascii "fake" ∨ adapter = ascii "intel_d435") :
    isBounded adapter = true ∧ isPlain adapter = true := by
  rcases h with rfl | rfl
  · exact ⟨by decide, by decide⟩
  · exact ⟨by decide, by decide⟩

theorem deviceObject_adapter (h : deviceObject device = true) :
    ∃ adapter, device.find? (ascii "adapter") = some (.string adapter) := by
  simp only [deviceObject, Bool.and_eq_true] at h
  obtain ⟨adapter, hadapter, -⟩ := has_isOneOf.mp h.1.1.1.1.2
  exact ⟨adapter, hadapter⟩

theorem succeeds_parseDevice {rounding : Rounding} (hwords : areRepresentable root = true) :
    Succeeds (parseDevice rounding root) ↔ has root "device" deviceSchema = true ∧
      isDevicePlain rounding (memberOf root "device") = true := by
  unfold parseDevice
  simp only [succeeds_bind, requireObject_eq_ok, deviceSchema, has_isObject]
  rw [← exists_and_right]
  apply exists_congr
  intro device
  rw [and_assoc]
  apply and_congr_right
  intro hdevice
  have hmembers := representable_member hwords hdevice
  rw [memberOf_eq hdevice]
  simp only [rejectUnknownFields_eq_ok, requireString_eq_ok, exists_const, and_assoc]
  constructor
  · rintro ⟨hknown, adapter, hadapter, hbounded, hplain, h⟩
    rw [deviceObject_iff hadapter, isDevicePlain, has_values hadapter]
    split at h
    · rename_i hfake
      subst hfake
      rw [if_pos (by decide)]
      simp only [succeeds_bind, succeeds_ok, and_true] at h
      obtain ⟨habsent, hschema, hstored⟩ := (succeeds_parseFake hmembers).mp h
      exact ⟨⟨hknown, .inl ⟨rfl, habsent, hschema⟩⟩, hstored⟩
    · split at h
      · rename_i hintel
        subst hintel
        rw [if_neg (by decide), isDepthRange, has_values hadapter]
        simp only [succeeds_bind, succeeds_ok, and_true] at h
        obtain ⟨habsent, hschema, hstored, hlow, hhigh, hrange⟩ := (succeeds_parseIntelD435 hmembers).mp h
        rw [hstored, hlow, hhigh, hrange, Bool.or_true]
        exact ⟨⟨hknown, .inr ⟨rfl, habsent, hschema⟩⟩, rfl⟩
      · exact absurd h not_succeeds_reject
  · rintro ⟨hobject, hplainDevice⟩
    obtain ⟨adapter, hadapter⟩ := deviceObject_adapter hobject
    obtain ⟨hknown, hcase⟩ := (deviceObject_iff hadapter).mp hobject
    obtain ⟨hbounded, hplain⟩ := adapter_text (hcase.imp And.left And.left)
    refine ⟨hknown, adapter, hadapter, hbounded, hplain, ?_⟩
    rw [isDevicePlain, has_values hadapter] at hplainDevice
    rcases hcase with ⟨rfl, habsent, hschema⟩ | ⟨rfl, habsent, hschema⟩
    · rw [if_pos (by decide)] at hplainDevice
      rw [if_pos rfl]
      simp only [succeeds_bind, succeeds_ok, and_true]
      exact (succeeds_parseFake hmembers).mpr ⟨habsent, hschema, hplainDevice⟩
    · rw [if_neg (by decide), isDepthRange, has_values hadapter] at hplainDevice
      rw [if_neg (by decide), if_pos rfl]
      have hself : (["intel_d435"].map ascii).contains (ascii "intel_d435") = true := by decide
      simp only [hself, Bool.not_true, Bool.false_or, Bool.and_eq_true] at hplainDevice
      obtain ⟨⟨⟨hstored, hlow⟩, hhigh⟩, hrange⟩ := hplainDevice
      simp only [succeeds_bind, succeeds_ok, and_true]
      exact (succeeds_parseIntelD435 hmembers).mpr ⟨habsent, hschema, hstored, hlow, hhigh, hrange⟩

theorem refuses_parseDevice {rounding : Rounding} (hwords : areRepresentable root = true) :
    Refuses (parseDevice rounding root) ↔ isDeviceRead (memberOf root "device") = true := by
  have hempty : isDeviceRead [] = true := by decide
  have hmember := @forall_member root "device" (fun device => isDeviceRead device = true) hempty
  rw [← hmember]
  unfold parseDevice
  simp only [refuses_bind, refuses_requireObject, requireObject_eq_ok, true_and]
  apply forall_congr'
  intro device
  apply imp_congr_right
  intro hdevice
  have hmembers := representable_member hwords hdevice
  simp only [refuses_rejectUnknownFields, refuses_requireString, rejectUnknownFields_eq_ok,
    requireString_eq_ok, true_and, isDeviceRead, implies_iff, Bool.and_eq_true]
  constructor
  · rintro h ⟨⟨hknown, hadapter⟩, habsent⟩
    have hadapter := has_const.mp hadapter
    have hintel := h () hknown (ascii "intel_d435") ⟨hadapter, by decide, by decide⟩
    rw [if_neg (by decide), if_pos rfl, refuses_bind] at hintel
    exact (refuses_parseIntelD435 hmembers).mp hintel.1 habsent
  · rintro h _ hknown adapter ⟨hadapter, -, -⟩
    split
    · rw [refuses_bind]
      exact ⟨refuses_parseFake, fun _ _ => refuses_ok _⟩
    · split
      · rename_i hintel
        subst hintel
        rw [refuses_bind, refuses_parseIntelD435 hmembers]
        exact ⟨fun habsent => h ⟨⟨hknown, has_const.mpr hadapter⟩, habsent⟩, fun _ _ => refuses_ok _⟩
      · exact refuses_reject

end

end NodusVision.Config
