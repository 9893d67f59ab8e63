import NodusVision.Config.Origins

/-! Each section of the document: the parser accepts it exactly when it conforms and is plain, and
throws nothing else exactly when it is read. -/
namespace NodusVision.Config
open Text Program

section
variable {root : JsonObject}

theorem succeeds_parsePilot (hwords : areRepresentable root = true) :
    Succeeds (parsePilot root) ↔
      has root "pilot" pilotSchema = true ∧ isPilotPlain (memberOf root "pilot") = true := by
  unfold parsePilot
  simp only [succeeds_bind, requireObject_eq_ok, pilotSchema, has_isObject]
  rw [← exists_and_right]
  apply exists_congr
  intro pilot
  rw [and_assoc]
  apply and_congr_right
  intro hpilot
  have hmembers := representable_member hwords hpilot
  rw [memberOf_eq hpilot]
  simp (disch := first | exact hmembers | decide) only [rejectUnknownFields_eq_ok,
    requireBool_eq_ok, requireString_eq_ok, check_eq_ok, requireBoundedInt_stored, succeeds_ok, and_true,
    beq_iff_eq, decide_eq_true_eq, exists_const, isPilotPlain, storesIntegers, pilotIntegers,
    List.all_cons, List.all_nil, Bool.and_eq_true, and_assoc]
  constructor
  · rintro ⟨hknown, enabled, henabled, url, hurl, hbounded, hplain, _, hvalid, rfl, domain, hdomain, -,
      -, rfl, connect, hconnect, hc, hc', request, hrequest, hr, hr', bytes, hbytes, hb, hb', initial,
      hinitial, hi, hi', maximum, hmaximum, hm, hm', shutdown, hshutdown, hs, hs', hdelays⟩
    have hrule := isAdvertisedUrlValid_rule.mp hvalid
    obtain ⟨hbase, hplainUrl⟩ :=
      has_plainUrl.mpr ⟨url, hurl, hbounded, hplain, matches_baseUrl hrule, hrule⟩
    have hdelays' : isOrdered pilot "retry_initial_delay_ms" "retry_max_delay_ms" = true := by
      rw [isOrdered_eq hinitial hmaximum]
      exact decide_eq_true hdelays
    obtain ⟨hconnect, hconnect'⟩ := has_stored_iff.mpr ⟨connect, hconnect, hc, hc'⟩
    obtain ⟨hrequest, hrequest'⟩ := has_stored_iff.mpr ⟨request, hrequest, hr, hr'⟩
    obtain ⟨hbytes, hbytes'⟩ := has_stored_iff.mpr ⟨bytes, hbytes, hb, hb'⟩
    obtain ⟨hinitial, hinitial'⟩ := has_stored_iff.mpr ⟨initial, hinitial, hi, hi'⟩
    obtain ⟨hmaximum, hmaximum'⟩ := has_stored_iff.mpr ⟨maximum, hmaximum, hm, hm'⟩
    obtain ⟨hshutdown, hshutdown'⟩ := has_stored_iff.mpr ⟨shutdown, hshutdown, hs, hs'⟩
    exact ⟨hknown, has_boolean.mpr ⟨enabled, henabled⟩, hbase, has_const.mpr hdomain, hconnect,
      hrequest, hbytes, hinitial, hmaximum, hshutdown, hdelays', hconnect', hrequest', hbytes', hinitial', hmaximum', hshutdown',
      hplainUrl⟩
  · rintro ⟨hknown, henabled, hbase, hdomain, hconnect, hrequest, hbytes, hinitial, hmaximum, hshutdown,
      hdelays, hconnect', hrequest', hbytes', hinitial', hmaximum', hshutdown', hplainUrl⟩
    obtain ⟨enabled, henabled⟩ := has_boolean.mp henabled
    obtain ⟨url, hurl, hbounded, hplain, -, hrule⟩ := has_plainUrl.mp ⟨hbase, hplainUrl⟩
    obtain ⟨connect, hconnect, hc, hc'⟩ := has_stored_iff.mp ⟨hconnect, hconnect'⟩
    obtain ⟨request, hrequest, hr, hr'⟩ := has_stored_iff.mp ⟨hrequest, hrequest'⟩
    obtain ⟨bytes, hbytes, hb, hb'⟩ := has_stored_iff.mp ⟨hbytes, hbytes'⟩
    obtain ⟨initial, hinitial, hi, hi'⟩ := has_stored_iff.mp ⟨hinitial, hinitial'⟩
    obtain ⟨maximum, hmaximum, hm, hm'⟩ := has_stored_iff.mp ⟨hmaximum, hmaximum'⟩
    obtain ⟨shutdown, hshutdown, hs, hs'⟩ := has_stored_iff.mp ⟨hshutdown, hshutdown'⟩
    rw [isOrdered_eq hinitial hmaximum, decide_eq_true_eq] at hdelays
    exact ⟨hknown, enabled, henabled, url, hurl, hbounded, hplain, true,
      isAdvertisedUrlValid_rule.mpr hrule, rfl, _, has_const.mp hdomain, by decide, by decide, rfl, connect, hconnect, hc,
      hc', request, hrequest, hr, hr', bytes, hbytes, hb, hb', initial, hinitial, hi, hi', maximum, hmaximum,
      hm, hm', shutdown, hshutdown, hs, hs', hdelays⟩

theorem refuses_parsePilot :
    Refuses (parsePilot root) ↔ isPilotRead (memberOf root "pilot") = true := by
  unfold parsePilot
  simp only [refuses_bind, refuses_requireObject, refuses_rejectUnknownFields, refuses_requireBool,
    refuses_requireString, refuses_check, refuses_requireBoundedInt, refuses_ok,
    refuses_isAdvertisedUrlValid, requireObject_eq_ok, rejectUnknownFields_eq_ok, requireBool_eq_ok,
    requireString_eq_ok, true_and, and_true, implies_true]
  rw [forall_member]
  · generalize memberOf root "pilot" = pilot
    rw [isPilotRead, implies_iff, Bool.and_eq_true, has_boolean, mayHave_isUrlRead]
    constructor
    · rintro h ⟨hknown, enabled, henabled⟩
      exact h () hknown enabled henabled
    · intro h _ hknown enabled henabled
      exact h ⟨hknown, enabled, henabled⟩
  · intro _ _ _ hnil
    cases hnil

theorem refuses_parseRecording : Refuses (parseRecording root) := by
  unfold parseRecording
  simp only [refuses_bind, refuses_requireObject, refuses_rejectUnknownFields, refuses_requireBool,
    refuses_requireString, refuses_check, refuses_requireBoundedInt, refuses_requireBoundedUint64,
    refuses_ok, and_true, implies_true]

theorem succeeds_parseRecording (hwords : areRepresentable root = true) :
    Succeeds (parseRecording root) ↔ has root "recording" recordingSchema = true ∧
      storesIntegers (memberOf root "recording") recordingIntegers = true := by
  unfold parseRecording
  simp only [succeeds_bind, requireObject_eq_ok, recordingSchema, has_isObject]
  rw [← exists_and_right]
  apply exists_congr
  intro recording
  rw [and_assoc]
  apply and_congr_right
  intro hrecording
  have hmembers := representable_member hwords hrecording
  rw [memberOf_eq hrecording]
  simp (disch := first | exact hmembers | decide) only [rejectUnknownFields_eq_ok,
    requireBool_eq_ok, requireString_eq_ok, check_eq_ok, requireBoundedInt_stored,
    requireBoundedUint64_stored, succeeds_ok, and_true, beq_iff_eq, exists_const, storesIntegers,
    recordingIntegers, List.all_cons, List.all_nil, Bool.and_eq_true, and_assoc]
  constructor
  · rintro ⟨hknown, enabled, henabled, path, hpath, hbounded, hplain, habsolute, queue, hqueue, hq, hq',
      duration, hduration, hd, hd', free, hfree, hf, hf', finalize, hfinalize, hz, hz', rate, hrate, hr,
      hr', _, hpreset, -, -, _, htune, -, -, rfl, rfl⟩
    have hroot : has recording "root"
        (isString fun root => isBounded root && isAbsolutePath root && isPlain root) = true := by
      rw [has_isString]
      exact ⟨path, hpath, by rw [hbounded, habsolute, hplain]; rfl⟩
    obtain ⟨hqueue, hqueue'⟩ := has_stored_iff.mpr ⟨queue, hqueue, hq, hq'⟩
    obtain ⟨hduration, hduration'⟩ := has_stored_iff.mpr ⟨duration, hduration, hd, hd'⟩
    have hfree64 : 1 ≤ (free : ℤ) ∧ (free : ℤ) ≤ 1099511627776 := by omega
    obtain ⟨hfree, hfree'⟩ := has_stored_iff.mpr ⟨free, hfree, hfree64⟩
    obtain ⟨hfinalize, hfinalize'⟩ := has_stored_iff.mpr ⟨finalize, hfinalize, hz, hz'⟩
    obtain ⟨hrate, hrate'⟩ := has_stored_iff.mpr ⟨rate, hrate, hr, hr'⟩
    exact ⟨hknown, has_boolean.mpr ⟨enabled, henabled⟩, hroot, hqueue, hduration, hfree, hfinalize, hrate,
      has_const.mpr hpreset, has_const.mpr htune, hqueue', hduration', hfree', hfinalize', hrate'⟩
  · rintro ⟨hknown, henabled, hroot, hqueue, hduration, hfree, hfinalize, hrate, hpreset, htune, hqueue',
      hduration', hfree', hfinalize', hrate'⟩
    obtain ⟨enabled, henabled⟩ := has_boolean.mp henabled
    obtain ⟨path, hpath, htext⟩ := has_isString.mp hroot
    simp only [Bool.and_eq_true] at htext
    obtain ⟨⟨hbounded, habsolute⟩, hplain⟩ := htext
    obtain ⟨queue, hqueue, hq, hq'⟩ := has_stored_iff.mp ⟨hqueue, hqueue'⟩
    obtain ⟨duration, hduration, hd, hd'⟩ := has_stored_iff.mp ⟨hduration, hduration'⟩
    obtain ⟨free, hfree, hf, hf'⟩ := has_stored_iff.mp ⟨hfree, hfree'⟩
    obtain ⟨finalize, hfinalize, hz, hz'⟩ := has_stored_iff.mp ⟨hfinalize, hfinalize'⟩
    obtain ⟨rate, hrate, hr, hr'⟩ := has_stored_iff.mp ⟨hrate, hrate'⟩
    have hfree64 : storedInteger recording "minimum_free_bytes" = some (free.toNat : ℤ) := by
      rw [hfree, Int.toNat_of_nonneg (by omega)]
    exact ⟨hknown, enabled, henabled, path, hpath, hbounded, hplain, habsolute, queue, hqueue, hq, hq',
      duration, hduration, hd, hd', free.toNat, hfree64, by omega, by omega, finalize, hfinalize, hz, hz',
      rate, hrate, hr, hr', _, has_const.mp hpreset, by decide, by decide, _, has_const.mp htune,
      by decide, by decide, rfl, rfl⟩

theorem refuses_parseMountLocalTransform {rounding : Rounding} {calibration : JsonObject} :
    Refuses (parseMountLocalTransform rounding calibration) := by
  unfold parseMountLocalTransform
  simp only [refuses_bind, refuses_requireObject, refuses_rejectUnknownFields,
    refuses_requireFiniteNumber, refuses_requireString, refuses_check, refuses_ok, and_true, implies_true]

theorem refuses_parseCalibration {rounding : Rounding} : Refuses (parseCalibration rounding root) := by
  unfold parseCalibration
  simp only [refuses_bind, refuses_requireObject, refuses_rejectUnknownFields, refuses_requireString,
    refuses_parseMountLocalTransform, refuses_ok, and_true, implies_true]

theorem isEulerTypeSupported_iff {eulerType : ByteString} : isEulerTypeSupported eulerType = true ↔
    eulerType ∈ ["XYZ", "XZY", "YXZ", "YZX", "ZXY", "ZYX", "ZXZ", "ZYZ"].map ascii := by
  rw [isEulerTypeSupported, List.contains_iff_mem]
  rfl

theorem eulerType_text {eulerType : ByteString} (h : isEulerTypeSupported eulerType = true) :
    isBounded eulerType = true ∧ isPlain eulerType = true := by
  have hall : supportedEulerTypes.all (fun e => isBounded e && isPlain e) = true := by decide
  have htext := List.all_eq_true.mp hall eulerType (List.contains_iff_mem.mp h)
  rwa [Bool.and_eq_true] at htext

theorem succeeds_parseMountLocalTransform {rounding : Rounding} (hrounding : rounding.Faithful)
    {calibration : JsonObject} : Succeeds (parseMountLocalTransform rounding calibration) ↔
      has calibration "mount_local_transform" mountLocalTransformSchema = true ∧
        isCalibrationPlain calibration = true := by
  unfold parseMountLocalTransform
  simp only [succeeds_bind, requireObject_eq_ok, mountLocalTransformSchema, has_isObject]
  rw [← exists_and_right]
  apply exists_congr
  intro transform
  rw [and_assoc]
  apply and_congr_right
  intro htransform
  simp only [isCalibrationPlain, memberOf_eq htransform, List.all_cons, List.all_nil, Bool.and_true]
  simp only [rejectUnknownFields_eq_ok, requireString_eq_ok, check_eq_ok, succeeds_ok, and_true,
    exists_const, Bool.and_eq_true, and_assoc]
  constructor
  · rintro ⟨hknown, x, hx, y, hy, z, hz, r1, hr1, r2, hr2, r3, hr3, euler, heuler, -, -, hxa, hya, hza,
      hsupported⟩
    rw [has_translation hrounding hx, has_translation hrounding hy, has_translation hrounding hz]
    have hr1 := has_finite.mpr ⟨r1, hr1⟩
    have hr2 := has_finite.mpr ⟨r2, hr2⟩
    have hr3 := has_finite.mpr ⟨r3, hr3⟩
    exact ⟨hknown, hxa, hya, hza, has_anyNumber hr1, has_anyNumber hr2, has_anyNumber hr3,
      has_isOneOf.mpr ⟨euler, heuler, isEulerTypeSupported_iff.mp hsupported⟩, hr1, hr2, hr3⟩
  · rintro ⟨hknown, hxa, hya, hza, -, -, -, heuler, hr1, hr2, hr3⟩
    obtain ⟨x, hx⟩ := has_finite.mp (has_finite_of hxa)
    obtain ⟨y, hy⟩ := has_finite.mp (has_finite_of hya)
    obtain ⟨z, hz⟩ := has_finite.mp (has_finite_of hza)
    obtain ⟨r1, hr1⟩ := has_finite.mp hr1
    obtain ⟨r2, hr2⟩ := has_finite.mp hr2
    obtain ⟨r3, hr3⟩ := has_finite.mp hr3
    obtain ⟨euler, heuler, hmem⟩ := has_isOneOf.mp heuler
    have hsupported := isEulerTypeSupported_iff.mpr hmem
    obtain ⟨hbounded, hplain⟩ := eulerType_text hsupported
    rw [has_translation hrounding hx] at hxa
    rw [has_translation hrounding hy] at hya
    rw [has_translation hrounding hz] at hza
    exact ⟨hknown, x, hx, y, hy, z, hz, r1, hr1, r2, hr2, r3, hr3, euler, heuler, hbounded, hplain, hxa,
      hya, hza, hsupported⟩

theorem succeeds_parseCalibration {rounding : Rounding} (hrounding : rounding.Faithful) :
    Succeeds (parseCalibration rounding root) ↔ has root "calibration" calibrationSchema = true ∧
      isCalibrationPlain (memberOf root "calibration") = true := by
  unfold parseCalibration
  simp only [succeeds_bind, requireObject_eq_ok, calibrationSchema, has_isObject]
  rw [← exists_and_right]
  apply exists_congr
  intro calibration
  rw [and_assoc]
  apply and_congr_right
  intro hcalibration
  rw [memberOf_eq hcalibration]
  simp only [rejectUnknownFields_eq_ok, succeeds_ok, exists_const, exists_and_right, and_true,
    Bool.and_eq_true, and_assoc, ← has_boundedString]
  rw [← succeeds_parseMountLocalTransform hrounding]
  rfl

theorem has_portNumber {provider : JsonObject} {url : ByteString} {port : ℤ}
    (hurl : provider.find? (ascii "advertised_base_url") = some (.string url))
    (hport : storedInteger provider "port" = some port) :
    has provider "advertised_base_url" (isString fun url =>
      has provider "port" (isNumber fun port => decide (port = portNumber url))) = true ↔
      (portNumber url : ℤ) = port := by
  rw [has, hurl, Option.any_some, isString, has_isNumber hport, decide_eq_true_eq]
  constructor
  · intro h
    exact_mod_cast h.symm
  · rintro rfl
    rfl

theorem succeeds_parseProvider (hwords : areRepresentable root = true) :
    Succeeds (parseProvider root) ↔ has root "provider" providerSchema = true ∧
      storesIntegers (memberOf root "provider") providerIntegers = true := by
  unfold parseProvider
  simp only [succeeds_bind, requireObject_eq_ok, providerSchema, has_isObject]
  rw [← exists_and_right]
  apply exists_congr
  intro provider
  rw [and_assoc]
  apply and_congr_right
  intro hprovider
  have hmembers := representable_member hwords hprovider
  rw [memberOf_eq hprovider]
  have hclients (connections clients : ℤ) (hle : connections ≤ 1024) :
      requireBoundedInt provider "max_stream_clients" ("/provider/" ++ "max_stream_clients") 1
        connections = .ok clients ↔
        storedInteger provider "max_stream_clients" = some clients ∧ 1 ≤ clients ∧ clients ≤ connections :=
    requireBoundedInt_stored (by decide) (by omega) hmembers
  simp (disch := first | exact hmembers | decide) only [rejectUnknownFields_eq_ok,
    requireString_eq_ok, check_eq_ok, requireBoundedInt_stored, succeeds_ok, and_true, decide_eq_true_eq,
    exists_const, storesIntegers, providerIntegers, List.all_cons, List.all_nil, Bool.and_eq_true,
    and_assoc]
  constructor
  · rintro ⟨hknown, host, hhost, hhostBounded, hhostPlain, port, hport, hp, hp', url, hurl, hbounded,
      hplain, _, hvalid, rfl, connections, hconnections, hc, hc', clients, hclients', timeout, htimeout,
      ht, ht', header, hheader, hh, hh', body, hbody, hb, hb', age, hage, ha, ha', origins, horigins,
      urlPort, hurlPort, hagree⟩
    have hrule := isAdvertisedUrlValid_rule.mp hvalid
    obtain ⟨hclients', hs, hs'⟩ := (hclients connections clients hc').mp hclients'
    have hadvertised : has provider "advertised_base_url" (isUrl advertisedPattern) = true :=
      has_isUrl.mpr ⟨url, hurl, hbounded, (matches_advertised hrule).trans hplain, hrule⟩
    have hordered : isOrdered provider "max_stream_clients" "max_connections" = true := by
      rw [isOrdered_eq hclients' hconnections]
      exact decide_eq_true hs'
    have hagree' : (portNumber url : ℤ) = port := by
      rw [getUrlPort_rule hrule] at hurlPort
      cases hurlPort
      exact hagree
    have hagree := (has_portNumber hurl hport).mpr hagree'
    obtain ⟨hport, hport'⟩ := has_stored_iff.mpr ⟨port, hport, hp, hp'⟩
    obtain ⟨hconnections, hconnections'⟩ := has_stored_iff.mpr ⟨connections, hconnections, hc, hc'⟩
    have hs1024 : clients ≤ 1024 := by omega
    obtain ⟨hclients, hclients'⟩ := has_stored_iff.mpr ⟨clients, hclients', hs, hs1024⟩
    obtain ⟨htimeout, htimeout'⟩ := has_stored_iff.mpr ⟨timeout, htimeout, ht, ht'⟩
    obtain ⟨hheader, hheader'⟩ := has_stored_iff.mpr ⟨header, hheader, hh, hh'⟩
    obtain ⟨hbody, hbody'⟩ := has_stored_iff.mpr ⟨body, hbody, hb, hb'⟩
    obtain ⟨hage, hage'⟩ := has_stored_iff.mpr ⟨age, hage, ha, ha'⟩
    exact ⟨hknown, has_boundedText.mpr ⟨host, hhost, hhostBounded, hhostPlain⟩, hport, hadvertised,
      hconnections, hclients, htimeout, hheader, hbody, hage, succeeds_parseAllowedOrigins.mp ⟨_, horigins⟩,
      hordered, hagree, hport', hconnections', hclients', htimeout', hheader', hbody', hage'⟩
  · rintro ⟨hknown, hhost, hport, hadvertised, hconnections, hclients₁, htimeout, hheader, hbody, hage,
      horigins, hordered, hagree, hport', hconnections', hclients', htimeout', hheader', hbody', hage'⟩
    obtain ⟨host, hhost, hhostBounded, hhostPlain⟩ := has_boundedText.mp hhost
    obtain ⟨url, hurl, hbounded, hmatches, hrule⟩ := has_isUrl.mp hadvertised
    rw [matches_advertised hrule] at hmatches
    obtain ⟨port, hport, hp, hp'⟩ := has_stored_iff.mp ⟨hport, hport'⟩
    obtain ⟨connections, hconnections, hc, hc'⟩ := has_stored_iff.mp ⟨hconnections, hconnections'⟩
    obtain ⟨clients, hclients₁, hs, -⟩ := has_stored_iff.mp ⟨hclients₁, hclients'⟩
    obtain ⟨timeout, htimeout, ht, ht'⟩ := has_stored_iff.mp ⟨htimeout, htimeout'⟩
    obtain ⟨header, hheader, hh, hh'⟩ := has_stored_iff.mp ⟨hheader, hheader'⟩
    obtain ⟨body, hbody, hb, hb'⟩ := has_stored_iff.mp ⟨hbody, hbody'⟩
    obtain ⟨age, hage, ha, ha'⟩ := has_stored_iff.mp ⟨hage, hage'⟩
    obtain ⟨origins, horigins⟩ := succeeds_parseAllowedOrigins.mpr horigins
    rw [isOrdered_eq hclients₁ hconnections, decide_eq_true_eq] at hordered
    have hclients := (hclients connections clients hc').mpr ⟨hclients₁, hs, hordered⟩
    exact ⟨hknown, host, hhost, hhostBounded, hhostPlain, port, hport, hp, hp', url, hurl, hbounded,
      hmatches, true, isAdvertisedUrlValid_rule.mpr hrule, rfl, connections, hconnections, hc, hc', clients,
      hclients, timeout, htimeout, ht, ht', header, hheader, hh, hh', body, hbody, hb, hb', age, hage, ha,
      ha', origins, horigins, portNumber url, getUrlPort_rule hrule, (has_portNumber hurl hport).mp hagree⟩

theorem refuses_getUrlPort {url : ByteString} (h : meetsUrlRule url = true) : Refuses (getUrlPort url) := by
  rw [getUrlPort_rule h]
  exact refuses_ok _

theorem refuses_parseProvider (hwords : areRepresentable root = true) :
    Refuses (parseProvider root) ↔ isProviderRead (memberOf root "provider") = true := by
  have hempty : isProviderRead [] = true := by decide
  have hmember := @forall_member root "provider" (fun provider => isProviderRead provider = true) hempty
  rw [← hmember]
  unfold parseProvider
  simp only [refuses_bind, refuses_requireObject, requireObject_eq_ok, true_and]
  apply forall_congr'
  intro provider
  apply imp_congr_right
  intro hprovider
  have hmembers := representable_member hwords hprovider
  have hclients (connections clients : ℤ) (hle : connections ≤ 1024) :
      requireBoundedInt provider "max_stream_clients" ("/provider/" ++ "max_stream_clients") 1
        connections = .ok clients ↔
        storedInteger provider "max_stream_clients" = some clients ∧ 1 ≤ clients ∧ clients ≤ connections :=
    requireBoundedInt_stored (by decide) (by omega) hmembers
  rw [isProviderRead, implies_iff]
  simp (disch := first | exact hmembers | decide) only [refuses_rejectUnknownFields,
    refuses_requireString, refuses_check, refuses_requireBoundedInt, refuses_isAdvertisedUrlValid,
    refuses_parseAllowedOrigins, refuses_ok, rejectUnknownFields_eq_ok, requireString_eq_ok, check_eq_ok,
    requireBoundedInt_stored, true_and, and_true, implies_true, implies_iff, Bool.and_eq_true,
    has_boundedText, has_isStoredIn, has_ruledUrl, mayHave_isUrlRead]
  constructor
  · rintro h ⟨⟨hknown, host, hhost⟩, port, hport⟩
    have hread := h () hknown host hhost port hport
    refine ⟨fun url hurl => (hread url hurl).1, ?_⟩
    rintro ⟨⟨⟨⟨⟨⟨⟨⟨url, hurl, hbounded, hplain, hrule⟩, connections, hconnections⟩, clients, hclients', hs,
      -⟩, hordered⟩, timeout, htimeout⟩, header, hheader⟩, body, hbody⟩, age, hage⟩
    rw [isOrdered_eq hclients' hconnections.1, decide_eq_true_eq] at hordered
    have hvalid := isAdvertisedUrlValid_rule.mpr hrule
    have hcount := (hclients connections clients hconnections.2.2).mpr ⟨hclients', hs, hordered⟩
    exact ((hread url ⟨hurl, hbounded, hplain⟩).2 true hvalid () rfl connections hconnections clients
      hcount timeout htimeout header hheader body hbody age hage).1
  · rintro h _ hknown host hhost port hport url hurl
    obtain ⟨hread, hnext⟩ := h ⟨⟨hknown, host, hhost⟩, port, hport⟩
    refine ⟨hread url hurl, ?_⟩
    rintro _ hvalid _ rfl connections hconnections clients hclients' timeout htimeout header hheader body
      hbody age hage
    have hrule := isAdvertisedUrlValid_rule.mp hvalid
    obtain ⟨hclients', hs, hs'⟩ := (hclients connections clients hconnections.2.2).mp hclients'
    have hordered : isOrdered provider "max_stream_clients" "max_connections" = true := by
      rw [isOrdered_eq hclients' hconnections.1]
      exact decide_eq_true hs'
    have hs1024 : clients ≤ 1024 := by omega
    refine ⟨?_, fun _ _ => refuses_getUrlPort hrule⟩
    exact hnext ⟨⟨⟨⟨⟨⟨⟨⟨url, hurl.1, hurl.2.1, hurl.2.2, hrule⟩, connections, hconnections⟩, clients,
      hclients', hs, hs1024⟩, hordered⟩, timeout, htimeout⟩, header, hheader⟩, body, hbody⟩, age, hage⟩

end

end NodusVision.Config
