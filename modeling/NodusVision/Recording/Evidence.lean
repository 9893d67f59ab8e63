import NodusVision.Recording.Contracts
import NodusVision.Text.JsonRoundTrip
import NodusVision.Text.JsonStrings

/-! The ledger evidence of requests whose canonical body the component writes itself. -/
namespace NodusVision.Recording
open Text

/-- The object of the members of a contract. -/
def objectOf (members : List (String × JsonValue)) : JsonObject :=
  members.map fun m => (ascii m.1, m.2)

/-- The text is a JSON object, and these are its members. -/
def IsObjectOf (readDouble : ByteString → ℚ) (text : ByteString)
    (members : List (String × JsonValue)) : Prop :=
  ∃ object : JsonObject, parseJson readDouble text = some (.object object) ∧
    HasKeys object (members.map Prod.fst) ∧
    ∀ m ∈ members, object.find? (ascii m.1) = some m.2

def requestMembers (request : RecordingStartRequest) : List (String × JsonValue) :=
  [("schema_version", .int64 1), ("request_id", .string request.requestId),
    ("recording_id", .string request.recordingId)]

def internalStopMembers (recordingId : ByteString) (reason : RecordingStopReason) :
    List (String × JsonValue) :=
  [("schema_version", .int64 1), ("recording_id", .string recordingId),
    ("stop_reason", .string (getRecordingStopReasonName reason))]

/-- The identities are safe and the HTTP layer gave no body. -/
structure IsPlainRequest (request : RecordingStartRequest) : Prop where
  requestId : isRecordingRequestIdValid request.requestId = true
  recordingId : isRecordingIdValid request.recordingId = true
  canonicalJson : request.canonicalJson = []

section Alphabet
variable {requestId recordingId : ByteString} {b : UInt8}

theorem between_plain {low high : UInt8} (hlow : 92 < low.toNat ∨ 34 < low.toNat)
    (hhigh : high.toNat < 92 ∨ 92 < low.toNat) (hb : low ≤ b) (hb' : b ≤ high) :
    32 < b.toNat ∧ b ≠ 92 ∧ b ≠ 34 := by
  have hb : low.toNat ≤ b.toNat := hb
  have hb' : b.toNat ≤ high.toNat := hb'
  refine ⟨by omega, ?_, ?_⟩
  · rintro rfl
    have : (92 : UInt8).toNat = 92 := rfl
    omega
  · rintro rfl
    have : (34 : UInt8).toNat = 34 := rfl
    omega

theorem requestId_byte (h : isRecordingRequestIdValid requestId = true) (hb : b ∈ requestId) :
    32 < b.toNat ∧ b ≠ 92 := by
  simp only [isRecordingRequestIdValid, Bool.and_eq_true, List.all_eq_true, decide_eq_true_eq,
    bne_iff_ne, ne_eq] at h
  obtain ⟨⟨⟨hlow, -⟩, -⟩, hslash⟩ := h.2 b hb
  have hlow : 33 ≤ b.toNat := hlow
  exact ⟨by omega, hslash⟩

theorem recordingId_byte (h : isRecordingIdValid recordingId = true) (hb : b ∈ recordingId) :
    32 < b.toNat ∧ b ≠ 92 ∧ b ≠ 34 := by
  cases recordingId with
  | nil => cases hb
  | cons first rest =>
    simp only [isRecordingIdValid, Bool.and_eq_true, List.all_eq_true] at h
    have hpermitted := h.2 b hb
    simp only [isLowercaseAlphanumeric, isPermittedSuffix, Bool.or_eq_true, Bool.and_eq_true,
      decide_eq_true_eq, beq_iff_eq] at hpermitted
    rcases hpermitted with (⟨hlow, hhigh⟩ | ⟨hlow, hhigh⟩) | (rfl | rfl) | rfl
    · exact between_plain (by decide) (by decide) hlow hhigh
    · exact between_plain (by decide) (by decide) hlow hhigh
    · decide
    · decide
    · decide

theorem recordingId_ascii (h : isRecordingIdValid recordingId = true) (hb : b ∈ recordingId) :
    b.toNat < 128 := by
  cases recordingId with
  | nil => cases hb
  | cons first rest =>
    simp only [isRecordingIdValid, Bool.and_eq_true, List.all_eq_true] at h
    have hpermitted := h.2 b hb
    simp only [isLowercaseAlphanumeric, isPermittedSuffix, Bool.or_eq_true, Bool.and_eq_true,
      decide_eq_true_eq, beq_iff_eq] at hpermitted
    rcases hpermitted with (⟨-, hhigh⟩ | ⟨-, hhigh⟩) | (rfl | rfl) | rfl
    · have hhigh : b.toNat ≤ 122 := hhigh
      omega
    · have hhigh : b.toNat ≤ 57 := hhigh
      omega
    · decide
    · decide
    · decide

theorem escape_plain {s : ByteString} (h : ∀ b ∈ s, 32 < b.toNat ∧ b ≠ 92 ∧ b ≠ 34) :
    s.flatMap escapeByte = s := by
  have hbyte (b : UInt8) (hb : 32 < b.toNat ∧ b ≠ 92 ∧ b ≠ 34) : escapeByte b = [b] := by
    have hcontrol (c : UInt8) (hc : c.toNat ≤ 32) : b ≠ c := by
      rintro rfl
      omega
    have hspace : ¬ b < 32 := by
      intro hlt
      have hlt : b.toNat < 32 := hlt
      omega
    unfold escapeByte
    rw [if_neg hb.2.2, if_neg hb.2.1, if_neg (hcontrol 8 (by decide)),
      if_neg (hcontrol 12 (by decide)), if_neg (hcontrol 10 (by decide)),
      if_neg (hcontrol 13 (by decide)), if_neg (hcontrol 9 (by decide)), if_neg hspace]
  induction s with
  | nil => rfl
  | cons b s ih =>
    rw [List.flatMap_cons, hbyte b (h b List.mem_cons_self),
      ih fun c hc => h c (List.mem_cons_of_mem b hc), List.singleton_append]

/-- A string of such bytes is written without escapes. -/
theorem jsonString_plain {s : ByteString} (h : ∀ b ∈ s, 32 < b.toNat ∧ b ≠ 92 ∧ b ≠ 34) :
    jsonString s = [34] ++ s ++ [34] := by
  rw [jsonString, escape_plain h]

theorem requestId_plain (h : isRecordingRequestIdValid requestId = true) (hquote : 34 ∉ requestId) :
    ∀ b ∈ requestId, 32 < b.toNat ∧ b ≠ 92 ∧ b ≠ 34 := by
  intro b hb
  obtain ⟨hlow, hslash⟩ := requestId_byte h hb
  exact ⟨hlow, hslash, fun heq => hquote (heq ▸ hb)⟩

theorem stopReasonName_byte {reason : RecordingStopReason}
    (hb : b ∈ getRecordingStopReasonName reason) : 32 < b.toNat ∧ b ≠ 92 ∧ b ≠ 34 := by
  have hall : (getRecordingStopReasonName reason).all
      (fun b => decide (32 < b.toNat) && b != 92 && b != 34) = true := by
    cases reason <;> decide
  have hplain := List.all_eq_true.mp hall b hb
  simp only [Bool.and_eq_true, decide_eq_true_eq, bne_iff_ne, ne_eq] at hplain
  exact ⟨hplain.1.1, hplain.1.2, hplain.2⟩

end Alphabet

section Decoding
variable {readDouble : ByteString → ℚ} {request : RecordingStartRequest}

theorem objectOf_unique {members : List (String × JsonValue)}
    (hkeys : (members.map fun m => ascii m.1).Nodup)
    (hvalues : membersHaveUniqueKeys (objectOf members) = true) :
    (JsonValue.object (objectOf members)).hasUniqueKeys = true := by
  have hnodup : ((objectOf members).map Prod.fst).Nodup := by
    rw [objectOf, List.map_map]
    exact hkeys
  rw [JsonValue.hasUniqueKeys, hvalues, Bool.and_true, decide_eq_true_eq]
  exact hnodup

theorem requestMembers_unique (request : RecordingStartRequest) :
    (JsonValue.object (objectOf (requestMembers request))).hasUniqueKeys = true := by
  have hkeys : [ascii "schema_version", ascii "request_id", ascii "recording_id"].Nodup := by decide
  exact objectOf_unique hkeys rfl

theorem internalStopMembers_unique (recordingId : ByteString) (reason : RecordingStopReason) :
    (JsonValue.object (objectOf (internalStopMembers recordingId reason))).hasUniqueKeys = true := by
  have hkeys : [ascii "schema_version", ascii "recording_id", ascii "stop_reason"].Nodup := by decide
  exact objectOf_unique hkeys rfl

/-- The serializer's text of members whose keys differ. -/
theorem isObjectOf_serialize {formatDouble : ℚ → ByteString} {members : List (String × JsonValue)}
    (hexact : membersAreExact (objectOf members) = true)
    (hunique : (JsonValue.object (objectOf members)).hasUniqueKeys = true) :
    IsObjectOf readDouble ((JsonValue.object (objectOf members)).serialize formatDouble)
      members := by
  refine ⟨_, parseJson_serialize hexact hunique, ?_, ?_⟩
  · intro key
    simp [objectOf]
  · intro m hm
    exact find?_of_mem (hasUniqueKeys_object hunique).1
      (List.mem_map_of_mem (f := fun m => (ascii m.1, m.2)) hm)

theorem start_text (h : IsPlainRequest request) (formatDouble : ℚ → ByteString) :
    serializeRecordingStartRequest request =
      .ok ((JsonValue.object (objectOf (requestMembers request))).serialize formatDouble) := by
  unfold serializeRecordingStartRequest
  rw [if_neg (by simp [h.requestId, h.recordingId]), if_neg (by simp [h.canonicalJson])]
  rfl

/-- A stop text is the serializer's where the request id has nothing to escape. -/
theorem stop_text (h : IsPlainRequest request) (hquote : 34 ∉ request.requestId)
    (formatDouble : ℚ → ByteString) :
    canonicalStop request =
      (JsonValue.object (objectOf (requestMembers request))).serialize formatDouble := by
  have hrequest : jsonString request.requestId = [34] ++ request.requestId ++ [34] :=
    jsonString_plain (requestId_plain h.requestId hquote)
  have hrecording : jsonString request.recordingId = [34] ++ request.recordingId ++ [34] :=
    jsonString_plain fun b hb => recordingId_byte h.recordingId hb
  show _ = jsonObject [(ascii "schema_version", jsonNat 1),
    (ascii "request_id", jsonString request.requestId),
    (ascii "recording_id", jsonString request.recordingId)]
  rw [canonicalStop, if_pos h.canonicalJson, hrequest, hrecording]
  simp only [jsonObject, List.map_cons, List.map_nil, List.intercalate_cons_cons,
    List.intercalate_singleton, List.append_assoc]
  rfl

theorem internalStop_text {recordingId : ByteString} (h : isRecordingIdValid recordingId = true)
    (reason : RecordingStopReason) (formatDouble : ℚ → ByteString) :
    serializeInternalStopEvidence recordingId reason =
      (JsonValue.object (objectOf (internalStopMembers recordingId reason))).serialize
        formatDouble := by
  have hrecording : jsonString recordingId = [34] ++ recordingId ++ [34] :=
    jsonString_plain fun b hb => recordingId_byte h hb
  have hreason : jsonString (getRecordingStopReasonName reason) =
      [34] ++ getRecordingStopReasonName reason ++ [34] :=
    jsonString_plain fun b hb => stopReasonName_byte hb
  show _ = jsonObject [(ascii "schema_version", jsonNat 1),
    (ascii "recording_id", jsonString recordingId),
    (ascii "stop_reason", jsonString (getRecordingStopReasonName reason))]
  rw [serializeInternalStopEvidence, hrecording, hreason]
  simp only [jsonObject, List.map_cons, List.map_nil, List.intercalate_cons_cons,
    List.intercalate_singleton, List.append_assoc]
  rfl

end Decoding

section Separation
variable {readDouble : ByteString → ℚ} {request other : RecordingStartRequest}

/-- The last separator of a text is where the rest of the text has none. -/
theorem append_cons_inj_of_notMem_right {α : Type} {a : α} {front front' back back' : List α}
    (h : front ++ a :: back = front' ++ a :: back') (hback : a ∉ back) (hback' : a ∉ back') :
    front = front' ∧ back = back' := by
  have hother {middle back back' : List α} (h : a :: back = middle ++ a :: back')
      (hback : a ∉ back) : middle = [] ∧ back = back' := by
    cases middle with
    | nil => exact ⟨rfl, List.tail_eq_of_cons_eq h⟩
    | cons b middle =>
      have hrest : back = middle ++ a :: back' := List.tail_eq_of_cons_eq h
      rw [hrest] at hback
      exact absurd (List.mem_append_right middle List.mem_cons_self) hback
  rcases List.append_eq_append_iff.mp h with ⟨middle, hfront, hrest⟩ | ⟨middle, hfront, hrest⟩
  · obtain ⟨hmiddle, hequal⟩ := hother hrest hback
    rw [hmiddle, List.append_nil] at hfront
    exact ⟨hfront.symm, hequal⟩
  · obtain ⟨hmiddle, hequal⟩ := hother hrest hback'
    rw [hmiddle, List.append_nil] at hfront
    exact ⟨hfront, hequal.symm⟩

/-- The text of a client's evidence around the two ids, as they are written. -/
def clientText (requestId recordingId : ByteString) : ByteString :=
  ascii "\x7b\"schema_version\":1,\"request_id\":\"" ++ requestId ++
    ascii "\",\"recording_id\":\"" ++ recordingId ++ ascii "\"\x7d"

theorem clientText_injective {requestId requestId' recordingId recordingId' : ByteString}
    (hrecording : 34 ∉ recordingId) (hrecording' : 34 ∉ recordingId')
    (h : clientText requestId recordingId = clientText requestId' recordingId') :
    requestId = requestId' ∧ recordingId = recordingId' := by
  have hseparator : ascii "\",\"recording_id\":\"" = ascii "\",\"recording_id\":" ++ [34] := rfl
  unfold clientText at h
  have hbody := List.append_cancel_right h
  rw [hseparator, ← List.append_assoc, ← List.append_assoc, List.append_assoc _ [34],
    List.append_assoc _ [34]] at hbody
  obtain ⟨hfront, hback⟩ := append_cons_inj_of_notMem_right hbody hrecording hrecording'
  have hids := List.append_cancel_right hfront
  exact ⟨List.append_cancel_left hids, hback⟩

theorem stop_clientText (h : request.canonicalJson = []) :
    canonicalStop request = clientText request.requestId request.recordingId := by
  rw [canonicalStop, if_pos h]
  rfl

theorem quote_not_mem_recordingId {recordingId : ByteString}
    (h : isRecordingIdValid recordingId = true) : 34 ∉ recordingId := by
  intro hmem
  exact (recordingId_byte h hmem).2.2 rfl

theorem stop_injective (h : IsPlainRequest request) (hother : IsPlainRequest other)
    (htext : canonicalStop request = canonicalStop other) :
    request.requestId = other.requestId ∧ request.recordingId = other.recordingId := by
  rw [stop_clientText h.canonicalJson, stop_clientText hother.canonicalJson] at htext
  exact clientText_injective (quote_not_mem_recordingId h.recordingId)
    (quote_not_mem_recordingId hother.recordingId) htext

theorem start_clientText (h : IsPlainRequest request) :
    serializeRecordingStartRequest request =
      .ok (clientText (request.requestId.flatMap escapeByte) request.recordingId) := by
  have hrecording : jsonString request.recordingId = [34] ++ request.recordingId ++ [34] :=
    jsonString_plain fun b hb => recordingId_byte h.recordingId hb
  have hrequest : jsonString request.requestId =
      [34] ++ request.requestId.flatMap escapeByte ++ [34] := rfl
  unfold serializeRecordingStartRequest
  rw [if_neg (by simp [h.requestId, h.recordingId]), if_neg (by simp [h.canonicalJson]), hrequest,
    hrecording]
  simp only [jsonObject, List.map_cons, List.map_nil, List.intercalate_cons_cons,
    List.intercalate_singleton, List.append_assoc, clientText]
  rfl

/-- The start evidence is read back, so no other request has it. -/
theorem start_injective (h : IsPlainRequest request) (hother : IsPlainRequest other)
    (htext : serializeRecordingStartRequest request = serializeRecordingStartRequest other) :
    request.requestId = other.requestId ∧ request.recordingId = other.recordingId := by
  let formatDouble : ℚ → ByteString := fun _ => []
  rw [start_text h formatDouble, start_text hother formatDouble, Except.ok.injEq] at htext
  have hequal := serialize_injective rfl (requestMembers_unique request) rfl
    (requestMembers_unique other) htext
  simpa [objectOf, requestMembers] using hequal

/-- A start and a stop that share their text share their ids. -/
theorem start_stop_injective (h : IsPlainRequest request) (hother : IsPlainRequest other)
    (htext : serializeRecordingStartRequest request = .ok (canonicalStop other)) :
    request.requestId = other.requestId ∧ request.recordingId = other.recordingId := by
  rw [start_clientText h, stop_clientText hother.canonicalJson, Except.ok.injEq] at htext
  obtain ⟨hrequest, hrecording⟩ := clientText_injective (quote_not_mem_recordingId h.recordingId)
    (quote_not_mem_recordingId hother.recordingId) htext
  have hquote : 34 ∉ request.requestId := by
    intro hmem
    have hescaped : 92 ∈ request.requestId.flatMap escapeByte :=
      List.mem_flatMap.mpr ⟨34, hmem, by decide⟩
    rw [hrequest] at hescaped
    exact (requestId_byte hother.requestId hescaped).2 rfl
  rw [escape_plain (requestId_plain h.requestId hquote)] at hrequest
  exact ⟨hrequest, hrecording⟩

theorem getRecordingStopReasonName_injective {reason reason' : RecordingStopReason}
    (h : getRecordingStopReasonName reason = getRecordingStopReasonName reason') :
    reason = reason' := by
  cases reason <;> cases reason' <;> first | rfl | exact absurd h (by decide)

theorem internalStop_injective {recordingId recordingId' : ByteString}
    {reason reason' : RecordingStopReason} (h : isRecordingIdValid recordingId = true)
    (h' : isRecordingIdValid recordingId' = true)
    (htext : serializeInternalStopEvidence recordingId reason =
      serializeInternalStopEvidence recordingId' reason') :
    recordingId = recordingId' ∧ reason = reason' := by
  let formatDouble : ℚ → ByteString := fun _ => []
  rw [internalStop_text h reason formatDouble, internalStop_text h' reason' formatDouble] at htext
  have hequal := serialize_injective rfl (internalStopMembers_unique recordingId reason) rfl
    (internalStopMembers_unique recordingId' reason') htext
  have hids : recordingId = recordingId' ∧
      getRecordingStopReasonName reason = getRecordingStopReasonName reason' := by
    simpa [objectOf, internalStopMembers] using hequal
  exact ⟨hids.1, getRecordingStopReasonName_injective hids.2⟩

/-- The second key tells a client's text from the component's own. -/
theorem clientText_ne_internalStop (requestId recordingId recordingId' : ByteString)
    (reason : RecordingStopReason) :
    clientText requestId recordingId ≠ serializeInternalStopEvidence recordingId' reason := by
  have hclient : (clientText requestId recordingId)[23]? = some 113 := rfl
  have hinternal : (serializeInternalStopEvidence recordingId' reason)[23]? = some 99 := rfl
  intro h
  rw [h, hinternal] at hclient
  cases hclient

/-- A quotation mark in the request id ends its string early. -/
theorem stop_not_isObjectOf (h : IsPlainRequest request) (hquote : 34 ∈ request.requestId) :
    ¬ IsObjectOf readDouble (canonicalStop request) (requestMembers request) := by
  rintro ⟨object, hparse, -, hfound⟩
  have hid : object.find? (ascii "request_id") = some (.string request.requestId) :=
    hfound ("request_id", .string request.requestId) (by simp [requestMembers])
  have hstring : (JsonValue.object object).HasString request.requestId :=
    .member (mem_of_find? hid) .here
  have htext : 92 ∉ canonicalStop request := by
    rw [stop_clientText h.canonicalJson]
    intro hmem
    simp only [clientText, List.mem_append] at hmem
    rcases hmem with (((hmem | hmem) | hmem) | hmem) | hmem
    · revert hmem
      decide
    · exact (requestId_byte h.requestId hmem).2 rfl
    · revert hmem
      decide
    · exact (recordingId_byte h.recordingId hmem).2.1 rfl
    · revert hmem
      decide
  exact no_quote_of_parseJson htext hparse hstring hquote

end Separation

end NodusVision.Recording
