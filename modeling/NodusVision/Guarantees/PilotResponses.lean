import NodusVision.Pilot.Responses

/-! Which responses of Pilot the client accepts. -/
namespace NodusVision.Guarantees
open Text Storage Program Pilot

section
variable {parse : JsonParser} {body : ByteString} {object : JsonObject} {key : String}

theorem found_of_identifier {value : ByteString} (h : HasIdentifier object key value) :
    ∃ value, object.find? (ascii key) = some value := ⟨_, h.1⟩

theorem found_of_integer {n : ℤ} (h : HasInteger object key n) :
    ∃ value, object.find? (ascii key) = some value := by
  obtain ⟨value, hvalue, -⟩ := Option.bind_eq_some_iff.mp h
  exact ⟨value, hvalue⟩

theorem found_of_integerIn {minimum maximum : ℤ} (h : HasIntegerIn object key minimum maximum) :
    ∃ value, object.find? (ascii key) = some value := by
  obtain ⟨n, hn, -⟩ := h
  exact found_of_integer hn

theorem integerIn_of_required {n : ℕ} {minimum : ℤ}
    (h : requireNonNegativeInteger object key = .ok n) (hmin : minimum ≤ n) : HasIntegerIn object key minimum 9223372036854775807 := by
  obtain ⟨hn, hmax⟩ := requireNonNegativeInteger_eq_ok.mp h
  unfold maxInt64Value at hmax
  exact ⟨n, hn, hmin, by omega⟩

theorem one_le_of_required {n : ℕ} (h : requireNonNegativeInteger object key = .ok n) (hne : n ≠ 0) :
    HasIntegerIn object key 1 9223372036854775807 := integerIn_of_required h (by omega)

theorem required_of_integerIn {minimum : ℤ} (hmin0 : 0 ≤ minimum)
    (h : HasIntegerIn object key minimum 9223372036854775807) :
    ∃ n : ℕ, requireNonNegativeInteger object key = .ok n ∧ minimum ≤ n := by
  obtain ⟨n, hn, hmin, hmax⟩ := h
  obtain ⟨m, rfl⟩ : ∃ m : ℕ, n = m := ⟨n.toNat, by omega⟩
  refine ⟨m, requireNonNegativeInteger_eq_ok.mpr ⟨hn, ?_⟩, by omega⟩
  unfold maxInt64Value
  omega

theorem catalog_exact (hunique : (JsonValue.object object).hasUniqueKeys = true)
    (hparse : parse body = some (.object object)) {componentId serverInstanceId : ByteString}
    {count : ℕ} :
    Succeeds (parseCatalogAcceptedResponse parse body componentId serverInstanceId count) ↔
      AcceptsCatalog object componentId serverInstanceId count := by
  have hnodup := (hasUniqueKeys_object hunique).1
  have hkeys : (catalogKeys.map ascii).Nodup := by decide
  constructor
  · rintro ⟨response, h⟩
    simp only [parseCatalogAcceptedResponse, bind_eq_ok, ensure_eq_ok, requireJsonObject_eq_ok,
      ← hasIdentifier_iff, Bool.and_eq_true, isAccepted_iff, beq_iff_eq, bne_iff_ne] at h
    obtain ⟨found, hfound, -, ⟨hlength, hstatus⟩, server, hserver, component, hcomponent,
      generation, hgeneration, parsed, hparsed, session, hsession, revision, hrevision, -,
      ⟨⟨⟨⟨⟨rfl, rfl⟩, hgeneration0⟩, hsession0⟩, hrevision0⟩, rfl⟩, -⟩ := h
    cases hparse.symm.trans hfound
    have hsessionIn := one_le_of_required hsession hsession0
    have hgenerationIn := one_le_of_required hgeneration hgeneration0
    have hrevisionIn := one_le_of_required hrevision hrevision0
    obtain ⟨hcount, hrange⟩ := requireNonNegativeInteger_eq_ok.mp hparsed
    constructor
    · apply (hasKeys_iff_length hnodup hkeys ?_).mpr hlength
      simp only [catalogKeys, List.forall_mem_cons]
      exact ⟨⟨_, hstatus⟩, found_of_identifier hserver, found_of_identifier hcomponent,
        found_of_integerIn hsessionIn, found_of_integerIn hgenerationIn,
        found_of_integerIn hrevisionIn, found_of_integer hcount, nofun⟩
    · exact hstatus
    · exact hserver
    · exact hcomponent
    · exact hsessionIn
    · exact hgenerationIn
    · exact hrevisionIn
    · exact hcount
    · exact hrange
  · intro h
    have hlength := h.keys.length_eq hnodup hkeys
    obtain ⟨session, hsession, hsession1⟩ := required_of_integerIn Int.one_nonneg h.sessionGeneration
    obtain ⟨generation, hgeneration, hgeneration1⟩ := required_of_integerIn Int.one_nonneg h.catalogGeneration
    obtain ⟨revision, hrevision, hrevision1⟩ := required_of_integerIn Int.one_nonneg h.catalogRevision
    have hcount := requireNonNegativeInteger_eq_ok.mpr ⟨h.count, h.countRange⟩
    refine ⟨⟨serverInstanceId, componentId, generation, count⟩, ?_⟩
    simp only [parseCatalogAcceptedResponse, bind_eq_ok, ensure_eq_ok, requireJsonObject_eq_ok,
      ← hasIdentifier_iff, Bool.and_eq_true, isAccepted_iff, beq_iff_eq, bne_iff_ne]
    exact ⟨object, hparse, (), ⟨hlength, h.status⟩, serverInstanceId, h.serverInstanceId,
      componentId, h.componentId, generation, hgeneration, count, hcount, session, hsession,
      revision, hrevision, (),
      ⟨⟨⟨⟨⟨rfl, rfl⟩, by omega⟩, by omega⟩, by omega⟩, rfl⟩, rfl⟩

theorem isReadiness_iff {readiness : JsonObject} (hnodup : (readiness.map Prod.fst).Nodup) :
    IsReadiness readiness ↔ readiness.length = 7 ∧
      (∀ key ∈ readinessFlags, ∃ value, readiness.find? (ascii key) = some (.bool value)) ∧
      ∃ reasons, readiness.find? (ascii "degraded_reasons") = some (.array reasons) ∧
        ∀ reason ∈ reasons, ∃ text, reason = .string text := by
  have hkeys : ((readinessFlags ++ ["degraded_reasons"]).map ascii).Nodup := by decide
  constructor
  · intro h
    exact ⟨h.keys.length_eq hnodup hkeys, h.flags, h.reasons⟩
  · rintro ⟨hlength, hflags, hreasons⟩
    refine ⟨?_, hflags, hreasons⟩
    apply (hasKeys_iff_length hnodup hkeys ?_).mpr hlength
    intro key hkey
    rcases List.mem_append.mp hkey with hflag | hlast
    · obtain ⟨value, hvalue⟩ := hflags key hflag
      exact ⟨_, hvalue⟩
    · obtain ⟨reasons, hfound, -⟩ := hreasons
      rw [List.mem_singleton.mp hlast]
      exact ⟨_, hfound⟩

theorem isControl_iff {control : JsonObject} (hnodup : (control.map Prod.fst).Nodup) :
    IsControl control ↔ control.length = 5 ∧
      ∀ key ∈ controlKeys, control.find? (ascii key) = some .null ∨
        ∃ projection, control.find? (ascii key) = some (.object projection) := by
  have hkeys : (controlKeys.map ascii).Nodup := by decide
  constructor
  · intro h
    exact ⟨h.keys.length_eq hnodup hkeys, h.members⟩
  · rintro ⟨hlength, hmembers⟩
    refine ⟨?_, hmembers⟩
    apply (hasKeys_iff_length hnodup hkeys ?_).mpr hlength
    intro key hkey
    rcases hmembers key hkey with hnull | ⟨projection, hfound⟩
    · exact ⟨_, hnull⟩
    · exact ⟨_, hfound⟩

theorem reasons_all {reasons : List JsonValue} :
    (reasons.all fun reason => reason.asString.isSome) = true ↔
      ∀ reason ∈ reasons, ∃ text, reason = .string text := by
  rw [List.all_eq_true]
  apply forall₂_congr
  intro reason _
  cases reason <;> simp [JsonValue.asString]

theorem lifecycle_exact (hunique : (JsonValue.object object).hasUniqueKeys = true)
    (hparse : parse body = some (.object object)) :
    Succeeds (parseLifecycleAcceptedResponse parse body) ↔
      ∃ serverInstanceId, AcceptsLifecycle object serverInstanceId := by
  have hnodup := (hasUniqueKeys_object hunique).1
  have hkeys : (["status", "snapshot"].map ascii).Nodup := by decide
  have hsnapshotKeys : (snapshotKeys.map ascii).Nodup := by decide
  constructor
  · rintro ⟨response, h⟩
    simp only [parseLifecycleAcceptedResponse, bind_eq_ok, ensure_eq_ok, requireJsonObject_eq_ok,
      requireObject_eq_ok, requireArray_eq_ok, ← hasIdentifier_iff, Bool.and_eq_true,
      isAccepted_iff, beq_iff_eq, reasons_all] at h
    obtain ⟨found, hfound, -, ⟨hlength, hstatus⟩, snapshot, hsnapshot, -, hsnapshotLength,
      server, hserver, revision, hrevision, createdAt, hcreatedAt, readiness, hreadiness,
      components, hcomponents, control, hcontrol, -, hreadinessLength, flags, hflags, reasons,
      hreasons, -, htexts, -, hcontrolLength, projections, hprojections, -⟩ := h
    cases hparse.symm.trans hfound
    have hsnapshotUnique := hasUniqueKeys_member hunique hsnapshot
    have hreadinessUnique := hasUniqueKeys_member hsnapshotUnique hreadiness
    have hcontrolUnique := hasUniqueKeys_member hsnapshotUnique hcontrol
    have hrevisionIn := integerIn_of_required hrevision (Int.natCast_nonneg _)
    have hcreatedAtIn := integerIn_of_required hcreatedAt (Int.natCast_nonneg _)
    have hisReadiness : IsReadiness readiness := by
      apply (isReadiness_iff (hasUniqueKeys_object hreadinessUnique).1).mpr
      refine ⟨hreadinessLength, ?_, reasons, hreasons, htexts⟩
      intro key hkey
      exact requireBool_succeeds.mp (mapM_succeeds.mp ⟨flags, hflags⟩ key hkey)
    have hisControl : IsControl control := by
      apply (isControl_iff (hasUniqueKeys_object hcontrolUnique).1).mpr
      refine ⟨hcontrolLength, ?_⟩
      intro key hkey
      exact requireProjection_succeeds.mp (mapM_succeeds.mp ⟨projections, hprojections⟩ key hkey)
    have hisSnapshot : IsSnapshot snapshot server := by
      refine ⟨?_, hserver, hrevisionIn, hcreatedAtIn, ⟨readiness, hreadiness, hisReadiness⟩,
        ⟨components, hcomponents⟩, ⟨control, hcontrol, hisControl⟩⟩
      apply (hasKeys_iff_length (hasUniqueKeys_object hsnapshotUnique).1 hsnapshotKeys ?_).mpr
        hsnapshotLength
      simp only [snapshotKeys, List.forall_mem_cons]
      exact ⟨found_of_identifier hserver, found_of_integerIn hrevisionIn,
        found_of_integerIn hcreatedAtIn, ⟨_, hreadiness⟩, ⟨_, hcomponents⟩, ⟨_, hcontrol⟩, List.forall_mem_nil _⟩
    refine ⟨server, ?_, hstatus, snapshot, hsnapshot, hisSnapshot⟩
    apply (hasKeys_iff_length hnodup hkeys ?_).mpr hlength
    simp only [List.forall_mem_cons]
    exact ⟨⟨_, hstatus⟩, ⟨_, hsnapshot⟩, List.forall_mem_nil _⟩
  · rintro ⟨server, h⟩
    obtain ⟨snapshot, hsnapshot, hisSnapshot⟩ := h.snapshot
    obtain ⟨readiness, hreadiness, hisReadiness⟩ := hisSnapshot.readiness
    obtain ⟨components, hcomponents⟩ := hisSnapshot.components
    obtain ⟨control, hcontrol, hisControl⟩ := hisSnapshot.control
    have hsnapshotUnique := hasUniqueKeys_member hunique hsnapshot
    have hreadinessUnique := hasUniqueKeys_member hsnapshotUnique hreadiness
    have hcontrolUnique := hasUniqueKeys_member hsnapshotUnique hcontrol
    have hlength := h.keys.length_eq hnodup hkeys
    have hsnapshotLength := hisSnapshot.keys.length_eq (hasUniqueKeys_object hsnapshotUnique).1
      hsnapshotKeys
    obtain ⟨revision, hrevision, -⟩ := required_of_integerIn le_rfl hisSnapshot.revision
    obtain ⟨createdAt, hcreatedAt, -⟩ := required_of_integerIn le_rfl hisSnapshot.createdAtNs
    obtain ⟨hreadinessLength, hflags, reasons, hreasons, htexts⟩ :=
      (isReadiness_iff (hasUniqueKeys_object hreadinessUnique).1).mp hisReadiness
    obtain ⟨hcontrolLength, hprojections⟩ :=
      (isControl_iff (hasUniqueKeys_object hcontrolUnique).1).mp hisControl
    obtain ⟨flags, hflags⟩ := mapM_succeeds.mpr fun key hkey => requireBool_succeeds.mpr (hflags key hkey)
    obtain ⟨projections, hprojections⟩ :=
      mapM_succeeds.mpr fun key hkey => requireProjection_succeeds.mpr (hprojections key hkey)
    refine ⟨⟨server⟩, ?_⟩
    simp only [parseLifecycleAcceptedResponse, bind_eq_ok, ensure_eq_ok, requireJsonObject_eq_ok,
      requireObject_eq_ok, requireArray_eq_ok, ← hasIdentifier_iff, Bool.and_eq_true,
      isAccepted_iff, beq_iff_eq, reasons_all]
    exact ⟨object, hparse, (), ⟨hlength, h.status⟩, snapshot, hsnapshot, (), hsnapshotLength,
      server, hisSnapshot.serverInstanceId, revision, hrevision, createdAt, hcreatedAt, readiness,
      hreadiness, components, hcomponents, control, hcontrol, (), hreadinessLength, flags, hflags,
      reasons, hreasons, (), htexts, (), hcontrolLength, projections, hprojections, rfl⟩

section
variable {formatDouble : ℚ → ByteString} {fields : List (ByteString × Schema)}

/-- A field of a closed object is there, and its value satisfies the schema of the field. -/
theorem field_conforms (key : String) (schema : Schema) (h : haveFields formatDouble fields object = true)
    (hfield : (ascii key, schema) ∈ fields) :
    ∃ value, object.find? (ascii key) = some value ∧ conforms formatDouble schema value = true :=
  haveFields_iff.mp h _ hfield

theorem accepted_of_conforms (h : haveFields formatDouble fields object = true)
    (hfield : (ascii "status", acceptedStatus) ∈ fields) : IsAccepted object := by
  obtain ⟨value, hfound, hvalue⟩ := field_conforms _ _ h hfield
  simp only [acceptedStatus, conforms, Option.any_eq_true, List.contains_iff_mem,
    List.mem_singleton] at hvalue
  obtain ⟨status, hstatus, rfl⟩ := hvalue
  cases value <;> cases hstatus
  exact hfound

theorem identifier_of_conforms (key : String) (h : haveFields formatDouble fields object = true)
    (hfield : (ascii key, identifierSchema) ∈ fields) : ∃ value, HasIdentifier object key value := by
  obtain ⟨value, hfound, hvalue⟩ := field_conforms _ _ h hfield
  simp only [identifierSchema, conforms, Option.any_eq_true, Bool.and_eq_true, Bool.true_and,
    Bool.not_eq_true', decide_eq_true_eq, List.isEmpty_eq_false_iff] at hvalue
  obtain ⟨text, htext, hne, hbound⟩ := hvalue
  cases value <;> cases htext
  exact ⟨text, hfound, List.length_pos_iff.mpr hne, hbound⟩

theorem integerIn_of_conforms (key : String) (minimum maximum : ℤ)
    (h : haveFields formatDouble fields object = true)
    (hfield : (ascii key, .integer minimum maximum) ∈ fields) :
    HasIntegerIn object key minimum maximum := by
  obtain ⟨value, hfound, hvalue⟩ := field_conforms _ _ h hfield
  simp only [conforms, Option.any_eq_true, Bool.and_eq_true, decide_eq_true_eq] at hvalue
  obtain ⟨n, hn, hrange⟩ := hvalue
  refine ⟨n, ?_, hrange⟩
  rw [HasInteger, hfound, Option.bind_some, hn]

theorem array_of_conforms (key : String) (schema : Schema)
    (h : haveFields formatDouble fields object = true)
    (hfield : (ascii key, .array 0 none schema) ∈ fields) :
    ∃ items, object.find? (ascii key) = some (.array items) ∧
      ∀ item ∈ items, conforms formatDouble schema item = true := by
  obtain ⟨value, hfound, hvalue⟩ := field_conforms _ _ h hfield
  cases value <;> simp only [conforms, Bool.false_eq_true, Bool.and_eq_true, List.all_eq_true] at hvalue
  exact ⟨_, hfound, hvalue.2⟩

theorem projection_of_conforms (projection : List (ByteString × Schema))
    (h : haveFields formatDouble fields object = true)
    (hfield : (ascii key, nullable projection) ∈ fields) :
    object.find? (ascii key) = some .null ∨
      ∃ members, object.find? (ascii key) = some (.object members) := by
  obtain ⟨value, hfound, hvalue⟩ := field_conforms _ _ h hfield
  cases value <;> simp only [nullable, conforms, Bool.xor_false, Bool.false_eq_true] at hvalue
  · exact .inl hfound
  · exact .inr ⟨_, hfound⟩

end

theorem same_identifier {value expected : ByteString} (h : HasIdentifier object key value)
    (hexpected : object.find? (ascii key) = some (.string expected)) :
    HasIdentifier object key expected := by
  cases h.1.symm.trans hexpected
  exact h

/-- The answer is for this publication: it names its component, the server and its descriptors. -/
def IsForPublication (value : JsonValue) (componentId serverInstanceId : ByteString) (count : ℕ) :
    Prop :=
  ∀ object : JsonObject, value = .object object →
    object.find? (ascii "component_id") = some (.string componentId) ∧
      object.find? (ascii "server_instance_id") = some (.string serverInstanceId) ∧
      HasInteger object "descriptor_count" count

theorem catalog_of_conforms {formatDouble : ℚ → ByteString} {componentId serverInstanceId : ByteString}
    {count : ℕ} {value : JsonValue}
    (h : conforms formatDouble endpointCatalogAcceptedResponse value = true)
    (hpublication : IsForPublication value componentId serverInstanceId count) :
    ∃ object, value = .object object ∧ AcceptsCatalog object componentId serverInstanceId count := by
  obtain ⟨object, rfl, hkeys, hhave⟩ := (conforms_closed catalogKeys rfl).mp h
  obtain ⟨hcomponentId, hserverInstanceId, hcount⟩ := hpublication object rfl
  obtain ⟨server, hserver⟩ := identifier_of_conforms "server_instance_id" hhave (by simp)
  obtain ⟨component, hcomponent⟩ := identifier_of_conforms "component_id" hhave (by simp)
  obtain ⟨n, hn, -, hrange⟩ := integerIn_of_conforms "descriptor_count" 0
    9223372036854775807 hhave (by simp [nonNegativeInt64])
  have heq : (count : ℤ) = n := Option.some.inj (hcount.symm.trans hn)
  refine ⟨object, rfl, ?_⟩
  constructor
  · exact hkeys
  · exact accepted_of_conforms hhave (by simp)
  · exact same_identifier hserver hserverInstanceId
  · exact same_identifier hcomponent hcomponentId
  · exact integerIn_of_conforms _ _ _ hhave (by simp [positiveInt64])
  · exact integerIn_of_conforms _ _ _ hhave (by simp [positiveInt64])
  · exact integerIn_of_conforms _ _ _ hhave (by simp [positiveInt64])
  · exact hcount
  · omega

theorem readiness_of_conforms {formatDouble : ℚ → ByteString} {value : JsonValue}
    (h : conforms formatDouble readinessSchema value = true) :
    ∃ readiness, value = .object readiness ∧ IsReadiness readiness := by
  obtain ⟨readiness, rfl, hkeys, hhave⟩ :=
    (conforms_closed (readinessFlags ++ ["degraded_reasons"]) rfl).mp h
  refine ⟨readiness, rfl, hkeys, ?_, ?_⟩
  · have hflags : ∀ key ∈ readinessFlags, (ascii key, Schema.boolean) ∈
        readinessFlags.map (fun key => (ascii key, Schema.boolean)) ++
          [(ascii "degraded_reasons", .array 0 none .string)] := by
      intro key hkey
      exact List.mem_append_left _ (List.mem_map_of_mem hkey)
    intro key hkey
    obtain ⟨value, hfound, hvalue⟩ := field_conforms _ _ hhave (hflags key hkey)
    cases value <;> simp only [conforms, Bool.false_eq_true] at hvalue
    exact ⟨_, hfound⟩
  · obtain ⟨reasons, hfound, hreasons⟩ :=
      array_of_conforms "degraded_reasons" .string hhave (by simp)
    refine ⟨reasons, hfound, ?_⟩
    intro reason hreason
    have htext := hreasons reason hreason
    cases reason <;> simp only [conforms, JsonValue.asString, Option.isSome_none,
      Bool.false_eq_true] at htext
    exact ⟨_, rfl⟩

theorem control_of_conforms {formatDouble : ℚ → ByteString} {projections : ControlProjections}
    {value : JsonValue} (h : conforms formatDouble (controlProjection projections) value = true) :
    ∃ control, value = .object control ∧ IsControl control := by
  obtain ⟨control, rfl, hkeys, hhave⟩ := (conforms_closed controlKeys rfl).mp h
  refine ⟨control, rfl, hkeys, ?_⟩
  simp only [controlKeys, List.forall_mem_cons]
  exact ⟨projection_of_conforms projections.gateway hhave (by simp),
    projection_of_conforms projections.robotState hhave (by simp),
    projection_of_conforms projections.status hhave (by simp),
    projection_of_conforms projections.lastDelivery hhave (by simp),
    projection_of_conforms projections.lastExternalOperation hhave (by simp),
    List.forall_mem_nil _⟩

theorem lifecycle_of_conforms {formatDouble : ℚ → ByteString} {publicComponent : Schema}
    {projections : ControlProjections} {value : JsonValue}
    (h : conforms formatDouble (lifecycleAcceptedResponse publicComponent projections) value = true) :
    ∃ object serverInstanceId, value = .object object ∧ AcceptsLifecycle object serverInstanceId := by
  obtain ⟨object, rfl, hkeys, hhave⟩ := (conforms_closed ["status", "snapshot"] rfl).mp h
  obtain ⟨value, hfound, hvalue⟩ := field_conforms "snapshot"
    (pilotSnapshot publicComponent projections) hhave (by simp)
  obtain ⟨snapshot, rfl, hsnapshotKeys, hsnapshot⟩ :=
    (conforms_closed snapshotKeys rfl).mp hvalue
  obtain ⟨server, hserver⟩ := identifier_of_conforms "server_instance_id" hsnapshot (by simp)
  obtain ⟨value, hreadinessFound, hreadinessValue⟩ := field_conforms "readiness" readinessSchema
    hsnapshot (by simp)
  obtain ⟨readiness, rfl, hreadiness⟩ := readiness_of_conforms hreadinessValue
  obtain ⟨components, hcomponents, -⟩ := array_of_conforms "components" publicComponent hsnapshot
    (by simp)
  obtain ⟨value, hcontrolFound, hcontrolValue⟩ := field_conforms "control"
    (controlProjection projections) hsnapshot (by simp)
  obtain ⟨control, rfl, hcontrol⟩ := control_of_conforms hcontrolValue
  refine ⟨object, server, rfl, hkeys, accepted_of_conforms hhave (by simp), snapshot, hfound,
    hsnapshotKeys, hserver, ?_, ?_, ⟨readiness, hreadinessFound, hreadiness⟩,
    ⟨components, hcomponents⟩, ⟨control, hcontrolFound, hcontrol⟩⟩
  · exact integerIn_of_conforms _ _ _ hsnapshot (by simp [nonNegativeInt64])
  · exact integerIn_of_conforms _ _ _ hsnapshot (by simp [nonNegativeInt64])

/-- No other value than an object is accepted. -/
theorem not_accepted {value : JsonValue} (hparse : parse body = some value)
    (hobject : ¬ ∃ object, value = .object object) :
    (∀ componentId serverInstanceId count,
      ¬ Succeeds (parseCatalogAcceptedResponse parse body componentId serverInstanceId count)) ∧
    ¬ Succeeds (parseLifecycleAcceptedResponse parse body) := by
  have hreject : ∀ found, parse body ≠ some (.object found) := by
    intro found hfound
    exact hobject ⟨found, Option.some.inj (hparse.symm.trans hfound)⟩
  constructor
  · rintro componentId serverInstanceId count ⟨response, h⟩
    simp only [parseCatalogAcceptedResponse, bind_eq_ok, requireJsonObject_eq_ok] at h
    obtain ⟨found, hfound, -⟩ := h
    exact hreject found hfound
  · rintro ⟨response, h⟩
    simp only [parseLifecycleAcceptedResponse, bind_eq_ok, requireJsonObject_eq_ok] at h
    obtain ⟨found, hfound, -⟩ := h
    exact hreject found hfound

theorem catalog_accepted_iff {value : JsonValue} (hunique : value.hasUniqueKeys = true)
    (hparse : parse body = some value) (componentId serverInstanceId : ByteString) (count : ℕ) :
    Succeeds (parseCatalogAcceptedResponse parse body componentId serverInstanceId count) ↔
      ∃ object, value = .object object ∧ AcceptsCatalog object componentId serverInstanceId count := by
  by_cases hobject : ∃ object, value = .object object
  · obtain ⟨object, rfl⟩ := hobject
    rw [catalog_exact hunique hparse]
    constructor
    · intro h
      exact ⟨object, rfl, h⟩
    · rintro ⟨found, heq, h⟩
      cases heq
      exact h
  · constructor
    · intro h
      exact absurd h ((not_accepted hparse hobject).1 componentId serverInstanceId count)
    · rintro ⟨found, heq, -⟩
      exact absurd ⟨found, heq⟩ hobject

theorem lifecycle_accepted_iff {value : JsonValue} (hunique : value.hasUniqueKeys = true)
    (hparse : parse body = some value) :
    Succeeds (parseLifecycleAcceptedResponse parse body) ↔
      ∃ object serverInstanceId, value = .object object ∧ AcceptsLifecycle object serverInstanceId := by
  by_cases hobject : ∃ object, value = .object object
  · obtain ⟨object, rfl⟩ := hobject
    rw [lifecycle_exact hunique hparse]
    constructor
    · rintro ⟨server, h⟩
      exact ⟨object, server, rfl, h⟩
    · rintro ⟨found, server, heq, h⟩
      cases heq
      exact ⟨server, h⟩
  · constructor
    · intro h
      exact absurd h (not_accepted hparse hobject).2
    · rintro ⟨found, server, heq, -⟩
      exact absurd ⟨found, heq⟩ hobject

/-- The responses to a catalog publication and to a lifecycle write that are accepted are exactly those
of the contract, as far as it is checked. Every response of the pinned schemas is among them. -/
theorem responses_exact {value : JsonValue} (hunique : value.hasUniqueKeys = true)
    (hparse : parse body = some value) :
    (∀ componentId serverInstanceId count,
      Succeeds (parseCatalogAcceptedResponse parse body componentId serverInstanceId count) ↔
        ∃ object, value = .object object ∧
          AcceptsCatalog object componentId serverInstanceId count) ∧
    (Succeeds (parseLifecycleAcceptedResponse parse body) ↔
      ∃ object serverInstanceId, value = .object object ∧
        AcceptsLifecycle object serverInstanceId) ∧
    (∀ formatDouble componentId serverInstanceId count,
      conforms formatDouble endpointCatalogAcceptedResponse value = true →
      IsForPublication value componentId serverInstanceId count →
      Succeeds (parseCatalogAcceptedResponse parse body componentId serverInstanceId count)) ∧
    ∀ formatDouble publicComponent projections,
      conforms formatDouble (lifecycleAcceptedResponse publicComponent projections) value = true →
      Succeeds (parseLifecycleAcceptedResponse parse body) := by
  refine ⟨catalog_accepted_iff hunique hparse, lifecycle_accepted_iff hunique hparse, ?_, ?_⟩
  · rintro formatDouble componentId serverInstanceId count hvalue hpublication
    exact (catalog_accepted_iff hunique hparse _ _ _).mpr (catalog_of_conforms hvalue hpublication)
  · intro formatDouble publicComponent projections hvalue
    exact (lifecycle_accepted_iff hunique hparse).mpr (lifecycle_of_conforms hvalue)

/-- What is returned is what the document says. -/
theorem registration_returns (hunique : (JsonValue.object object).hasUniqueKeys = true)
    (hparse : parse body = some (.object object)) {response : PilotRegistrationResponse}
    (h : parseRegistrationResponse parse body = .ok response) :
    Registers object response ∧ ∃ versions, AcceptsSchemaOne object versions := by
  have hkeys : (registrationKeys.map ascii).Nodup := by decide
  simp only [parseRegistrationResponse, bind_eq_ok, ensure_eq_ok, requireJsonObject_eq_ok,
    ← hasIdentifier_iff, requireNonNegativeInteger_eq_ok, requireSchemaVersions_eq_ok,
    acceptsSchemaOne_eq_ok, Bool.and_eq_true, beq_iff_eq, bne_iff_ne, decide_eq_true_eq] at h
  obtain ⟨found, hfound, -, hlength, -, ⟨hprotocol, -⟩, -, rfl, versions, ⟨hversions, -⟩, accepted,
    ⟨hall, hone⟩, session, hsession, server, hserver, heartbeat, ⟨hheartbeat, -⟩, lease,
    ⟨hlease, hleaseRange⟩, time, ⟨htime, htimeRange⟩, -, ⟨⟨⟨haccepted, hpositive⟩, -⟩, hless⟩, h⟩ := h
  cases hparse.symm.trans hfound
  cases h
  constructor
  · refine ⟨?_, hprotocol, hsession, hserver, hheartbeat, hlease, htime, ?_, hless, hleaseRange,
      htimeRange⟩
    · apply (hasKeys_iff_length (hasUniqueKeys_object hunique).1 hkeys ?_).mpr hlength
      simp only [registrationKeys, List.forall_mem_cons]
      exact ⟨found_of_identifier hsession, found_of_identifier hserver,
        found_of_integer hprotocol, ⟨_, hversions⟩, found_of_integer hheartbeat,
        found_of_integer hlease, found_of_integer htime, nofun⟩
    · exact Nat.one_le_iff_ne_zero.mpr hpositive
  · refine ⟨versions, hversions, ?_, hone.mp haccepted⟩
    intro version hversion
    obtain ⟨n, hn, -⟩ := hall version hversion
    exact ⟨n, hn⟩

theorem registration_accepts (hunique : (JsonValue.object object).hasUniqueKeys = true)
    (hparse : parse body = some (.object object)) {response : PilotRegistrationResponse}
    {versions : List JsonValue} (h : Registers object response)
    (hv : AcceptsSchemaOne object versions)
    (hbound : ∀ version ∈ versions, ∀ n : ℕ, version.asInteger = some (n : ℤ) → n ≤ 16) :
    parseRegistrationResponse parse body = .ok response := by
  have hkeys : (registrationKeys.map ascii).Nodup := by decide
  have hlength := h.keys.length_eq (hasUniqueKeys_object hunique).1 hkeys
  have hpositive := h.positive
  have hlease := h.lease
  have hleaseRange := h.leaseRange
  simp only [parseRegistrationResponse, bind_eq_ok, ensure_eq_ok, requireJsonObject_eq_ok,
    ← hasIdentifier_iff, requireNonNegativeInteger_eq_ok, requireSchemaVersions_eq_ok,
    acceptsSchemaOne_eq_ok, Bool.and_eq_true, beq_iff_eq, bne_iff_ne, decide_eq_true_eq]
  refine ⟨object, hparse, (), hlength, 1, ⟨h.protocol, by decide⟩, (), rfl, versions,
    ⟨hv.found, ?_⟩, true, ⟨?_, ?_⟩, response.sessionId, h.sessionId, response.serverInstanceId,
    h.serverInstanceId, response.heartbeatIntervalMs, ⟨h.heartbeatIntervalMs, ?_⟩,
    response.leaseTimeoutMs, ⟨h.leaseTimeoutMs, hleaseRange⟩, response.serverTimeNs,
    ⟨h.serverTimeNs, h.timeRange⟩, (), ⟨⟨⟨rfl, by omega⟩, by omega⟩, hlease⟩, rfl⟩
  · rintro rfl
    obtain ⟨version, hversion, -⟩ := hv.one
    cases hversion
  · intro version hversion
    obtain ⟨n, hn⟩ := hv.integers version hversion
    exact ⟨n, hn, hbound version hversion n hn⟩
  · constructor
    · intro _
      exact hv.one
    · intro _
      rfl
  · unfold maxInt64Value
    omega

/-- A registration response that is accepted is closed and names version 1 among the versions; one that
also keeps the versions within their bounds is accepted, with the fields of the document. -/
theorem registration_parsed {value : JsonValue} (hunique : value.hasUniqueKeys = true)
    (hparse : parse body = some value) :
    (∀ response, parseRegistrationResponse parse body = .ok response →
      ∃ object versions, value = .object object ∧ Registers object response ∧
        AcceptsSchemaOne object versions) ∧
    ∀ object versions response, value = .object object → Registers object response →
      AcceptsSchemaOne object versions → versions.length ≤ 16 →
      (∀ version ∈ versions, ∀ n : ℕ, version.asInteger = some (n : ℤ) → n ≤ 16) →
      parseRegistrationResponse parse body = .ok response := by
  constructor
  · intro response h
    have hobject := h
    simp only [parseRegistrationResponse, bind_eq_ok, requireJsonObject_eq_ok] at hobject
    obtain ⟨object, hfound, -⟩ := hobject
    cases hparse.symm.trans hfound
    obtain ⟨hregisters, versions, hversions⟩ := registration_returns hunique hfound h
    exact ⟨object, versions, rfl, hregisters, hversions⟩
  · rintro object versions response rfl hregisters hversions - hbound
    exact registration_accepts hunique hparse hregisters hversions hbound

end

/-- The value satisfies `ComponentRegistrationResponse`, and the lease outlasts a heartbeat interval. -/
def IsRegistration (formatDouble : ℚ → ByteString) (value : JsonValue) : Prop :=
  conforms formatDouble componentRegistrationResponse value = true ∧
    ∃ object heartbeat lease, value = .object object ∧
      HasInteger object "heartbeat_interval_ms" heartbeat ∧
      HasInteger object "lease_timeout_ms" lease ∧ heartbeat < lease

/-- A registration response that accepts these schema versions. -/
def sampleRegistration (versions : List JsonValue) : JsonObject :=
  [(ascii "session_id", .string (ascii "session")),
    (ascii "server_instance_id", .string (ascii "pilot")),
    (ascii "accepted_protocol_version", .int64 1),
    (ascii "accepted_schema_versions", .array versions),
    (ascii "heartbeat_interval_ms", .int64 100), (ascii "lease_timeout_ms", .int64 200),
    (ascii "server_time", .int64 0)]

def sampleResponse : PilotRegistrationResponse :=
  ⟨ascii "session", ascii "pilot", 100, 200, 0⟩

theorem sampleRegistration_parsed :
    parseRegistrationResponse (fun _ => some (.object (sampleRegistration [.int64 1, .int64 2]))) [] =
      .ok sampleResponse := by
  rfl

theorem registration_parsed_sample :
    ∃ object versions,
      JsonValue.object (sampleRegistration [.int64 1, .int64 2]) = .object object ∧
        Registers object sampleResponse ∧ AcceptsSchemaOne object versions := by
  have hunique : (JsonValue.object (sampleRegistration [.int64 1, .int64 2])).hasUniqueKeys = true := by
    decide +kernel
  exact (registration_parsed hunique rfl).1 sampleResponse sampleRegistration_parsed

/-- Version 2 is accepted next to version 1, which the schema does not allow. -/
theorem registration_not_exact : ¬ ∀ (parse : JsonParser) (body : ByteString) (value : JsonValue),
    value.hasUniqueKeys = true → parse body = some value →
      (Succeeds (parseRegistrationResponse parse body) ↔ IsRegistration (fun _ => []) value) := by
  intro hexact
  have hunique : (JsonValue.object (sampleRegistration [.int64 1, .int64 2])).hasUniqueKeys = true := by
    decide +kernel
  have h := (hexact (fun _ => some (.object (sampleRegistration [.int64 1, .int64 2]))) [] _ hunique
    rfl).mp ⟨_, sampleRegistration_parsed⟩
  have hschema : conforms (fun _ => []) componentRegistrationResponse
      (.object (sampleRegistration [.int64 1, .int64 2])) = false := by
    decide +kernel
  cases hschema.symm.trans h.1

def sampleReadiness : JsonObject :=
  readinessFlags.map (fun key => (ascii key, .bool true)) ++ [(ascii "degraded_reasons", .array [])]

def sampleSnapshot : JsonObject :=
  [(ascii "server_instance_id", .string (ascii "pilot")), (ascii "revision", .int64 1),
    (ascii "created_at_ns", .int64 0), (ascii "readiness", .object sampleReadiness),
    (ascii "components", .array []),
    (ascii "control", .object (controlKeys.map fun key => (ascii key, .null)))]

def sampleLifecycle : JsonObject :=
  [(ascii "status", .string (ascii "accepted")), (ascii "snapshot", .object sampleSnapshot)]

def sampleCatalog : JsonObject :=
  [(ascii "status", .string (ascii "accepted")),
    (ascii "server_instance_id", .string (ascii "pilot")),
    (ascii "component_id", .string (ascii "nodus-vision")), (ascii "session_generation", .int64 3),
    (ascii "catalog_generation", .uint64 1), (ascii "catalog_revision", .int64 7),
    (ascii "descriptor_count", .int64 8)]

def answering (object : JsonObject) : JsonParser := fun _ => some (.object object)

theorem parse_answering (object : JsonObject) : answering object [] = some (.object object) := rfl

/-- A lifecycle answer is accepted as one, and a catalog answer for its own publication only. -/
theorem responses_exact_answers :
    (∃ serverInstanceId, AcceptsLifecycle sampleLifecycle serverInstanceId) ∧
      Succeeds (parseLifecycleAcceptedResponse (answering sampleLifecycle) []) ∧
      Succeeds (parseCatalogAcceptedResponse (answering sampleCatalog) []
        (ascii "nodus-vision") (ascii "pilot") 8) ∧
      ¬ Succeeds (parseCatalogAcceptedResponse (answering sampleCatalog) []
        (ascii "nodus-vision") (ascii "pilot") 7) := by
  have hlifecycleUnique : (JsonValue.object sampleLifecycle).hasUniqueKeys = true := by decide +kernel
  have hcatalogUnique : (JsonValue.object sampleCatalog).hasUniqueKeys = true := by decide +kernel
  obtain ⟨-, hlifecycle, -, hlifecycleSchema⟩ :=
    responses_exact hlifecycleUnique (parse_answering sampleLifecycle)
  obtain ⟨hcatalog, -, hcatalogSchema, -⟩ :=
    responses_exact hcatalogUnique (parse_answering sampleCatalog)
  have hok : Succeeds (parseLifecycleAcceptedResponse (answering sampleLifecycle) []) :=
    hlifecycleSchema (fun _ => []) .null ⟨[], [], [], [], []⟩ (by decide +kernel)
  refine ⟨?_, hok, ?_, ?_⟩
  · obtain ⟨object, server, heq, h⟩ := hlifecycle.mp hok
    cases heq
    exact ⟨server, h⟩
  · apply hcatalogSchema (fun _ => [])
    · decide +kernel
    · intro object heq
      cases heq
      exact ⟨rfl, rfl, rfl⟩
  · intro h
    obtain ⟨object, heq, haccepts⟩ := (hcatalog _ _ _).mp h
    cases heq
    have hcount : (8 : ℤ) = 7 := Option.some.inj haccepts.count
    omega

end NodusVision.Guarantees
