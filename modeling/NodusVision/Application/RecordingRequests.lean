import NodusVision.Application.Construction
import NodusVision.Config.Schema
import NodusVision.Provider.Contracts
import NodusVision.Recording.Evidence
import NodusVision.Text.JsonReader

/-! The bodies of the recording commands, and what their routes answer. Where a member is missing
or of another kind, Boost.JSON throws a `system_error`, which no handler takes for an
`invalid_argument`. -/
namespace NodusVision.Application
open Text Config Program Storage Recording Manager Provider

/-- `object::at` -/
def memberAt (object : JsonObject) (key : String) : Except Exception JsonValue :=
  match object.find? (ascii key) with
  | some value => .ok value
  | none => .error .systemError

def intOf (n : ℤ) : Except Exception ℤ :=
  if -2 ^ 31 ≤ n ∧ n < 2 ^ 31 then .ok n else .error .systemError

/-- `value::to_number<int>` takes a double without a fraction, too. -/
def toInt : JsonValue → Except Exception ℤ
  | .int64 n => intOf n
  | .uint64 n => intOf n
  | .double q => if q.den = 1 then intOf q.num else .error .systemError
  | _ => .error .systemError

/-- `value::as_string` -/
def toText : JsonValue → Except Exception ByteString
  | .string text => .ok text
  | _ => .error .systemError

def intAt (object : JsonObject) (key : String) : Except Exception ℤ := do
  toInt (← memberAt object key)

def textAt (object : JsonObject) (key : String) : Except Exception ByteString := do
  toText (← memberAt object key)

/-- Operands of `||`, from the left until one holds. -/
def anyOf : List (Except Exception Bool) → Except Exception Bool
  | [] => .ok false
  | operand :: rest => do if ← operand then .ok true else anyOf rest

def invalidRequest {α : Type} (what : String) : Except Exception α := .error (.invalidArgument what)

def parseBody (parse : JsonParser) (what : String) (body : ByteString) :
    Except Exception JsonObject :=
  match parse body with
  | none => .error .systemError
  | some (.object object) => .ok object
  | some _ => invalidRequest what

/-- The member is another number than the expected one. -/
def differsInt (object : JsonObject) (key : String) (expected : ℤ) : Except Exception Bool := do
  .ok ((← intAt object key) != expected)

def differsText (object : JsonObject) (key : String) (expected : ByteString) :
    Except Exception Bool := do
  .ok ((← textAt object key) != expected)

def parseRecordingStartRequest (parse : JsonParser) (config : VisionConfig) (body : ByteString) :
    Except Exception RecordingStartRequest := do
  let request ← parseBody parse "Recording start request must be an object." body
  if ← anyOf [.ok (request.length != 6), differsInt request "schema_version" 1,
      differsText request "expected_device_id" config.deviceId,
      differsText request "expected_calibration_id" config.calibration.calibrationId,
      do .ok (← memberAt request "expected_profile").asObject.isNone] then
    invalidRequest "Recording start request shape is invalid."
  else
    let profile := (← memberAt request "expected_profile").asObject.getD []
    if ← anyOf [.ok (profile.length != 4),
        differsInt profile "width" (colorProfile config.device).width,
        differsInt profile "height" (colorProfile config.device).height,
        differsInt profile "fps" (colorProfile config.device).fps,
        differsText profile "pixel_format" (ascii "rgb24")] then
      invalidRequest "Recording expected profile does not match Vision."
    else
      .ok ⟨← textAt request "request_id", ← textAt request "recording_id", body⟩

def parseRecordingStopRequest (parse : JsonParser) (body : ByteString) :
    Except Exception RecordingStartRequest := do
  let request ← parseBody parse "Recording stop request must be an object." body
  if ← anyOf [.ok (request.length != 3), differsInt request "schema_version" 1] then
    invalidRequest "Recording stop request shape is invalid."
  else
    .ok ⟨← textAt request "request_id", ← textAt request "recording_id", body⟩

def commandResponse (status : ℕ) : ProviderHttpResponse where
  status := status
  body := ascii "\x7b\"schema_version\":1\x7d"

def recordingInvalid : ProviderHttpResponse :=
  makeErrorResponse 400 (ascii "invalid_request") (ascii "Recording request is invalid.") false

/-- `post_recording_start` after its `try` block. -/
def startResponse : Except Exception RecordingStartResult → ProviderHttpResponse
  | .ok .started => commandResponse 201
  | .ok .replayed => commandResponse 200
  | .error (.invalidArgument _) => recordingInvalid
  | .error _ =>
    makeErrorResponse 409 (ascii "recording_conflict") (ascii "Recording request conflicts.") false

/-- `post_recording_stop` after its `try` block. -/
def stopResponse : Except Exception RecordingStopResult → ProviderHttpResponse
  | .ok .accepted => commandResponse 202
  | .ok .replayed => commandResponse 200
  | .error (.invalidArgument _) => recordingInvalid
  | .error (.recordingNotFound _) =>
    makeErrorResponse 404 (ascii "recording_not_found") (ascii "Recording is unknown.") false
  | .error _ =>
    makeErrorResponse 409 (ascii "recording_conflict") (ascii "Recording cannot stop.") false

/-- The keys of the documented start request. -/
def startKeys : List String :=
  ["schema_version", "request_id", "recording_id", "expected_device_id", "expected_calibration_id",
    "expected_profile"]

def profileKeys : List String := ["width", "height", "fps", "pixel_format"]

def stopKeys : List String := ["schema_version", "request_id", "recording_id"]

/-- The member is a number, of the type that holds it or not, and this number is an `int`. -/
def HasInt (object : JsonObject) (key : String) (n : ℤ) : Prop :=
  (object.find? (ascii key)).bind numberOf = some (n : ℚ) ∧ -2 ^ 31 ≤ n ∧ n < 2 ^ 31

def HasText (object : JsonObject) (key : String) (text : ByteString) : Prop :=
  object.find? (ascii key) = some (.string text)

/-- The profile is that of the color stream. -/
structure IsProfile (config : VisionConfig) (profile : JsonObject) : Prop where
  keys : HasKeys profile profileKeys
  width : HasInt profile "width" (colorProfile config.device).width
  height : HasInt profile "height" (colorProfile config.device).height
  fps : HasInt profile "fps" (colorProfile config.device).fps
  pixelFormat : HasText profile "pixel_format" (ascii "rgb24")

/-- A start request for this device, as the interface documents it. -/
structure IsStartRequest (config : VisionConfig) (object : JsonObject)
    (request : RecordingStartRequest) : Prop where
  keys : HasKeys object startKeys
  schemaVersion : HasInt object "schema_version" 1
  deviceId : HasText object "expected_device_id" config.deviceId
  calibrationId : HasText object "expected_calibration_id" config.calibration.calibrationId
  profile : ∃ profile, object.find? (ascii "expected_profile") = some (.object profile) ∧
    IsProfile config profile
  requestId : HasText object "request_id" request.requestId
  recordingId : HasText object "recording_id" request.recordingId

structure IsStopRequest (object : JsonObject) (request : RecordingStartRequest) : Prop where
  keys : HasKeys object stopKeys
  schemaVersion : HasInt object "schema_version" 1
  requestId : HasText object "request_id" request.requestId
  recordingId : HasText object "recording_id" request.recordingId

section Members
variable {object : JsonObject} {key : String} {n : ℤ} {text : ByteString}

theorem memberAt_eq_ok {value : JsonValue} :
    memberAt object key = .ok value ↔ object.find? (ascii key) = some value := by
  unfold memberAt
  cases object.find? (ascii key) <;> simp

theorem intOf_eq_ok {m : ℤ} : intOf m = .ok n ↔ m = n ∧ -2 ^ 31 ≤ n ∧ n < 2 ^ 31 := by
  unfold intOf
  constructor
  · intro h
    split at h
    · cases h
      exact ⟨rfl, ‹_›⟩
    · cases h
  · rintro ⟨rfl, h⟩
    exact if_pos h

theorem toInt_eq_ok {value : JsonValue} : toInt value = .ok n ↔
    numberOf value = some (n : ℚ) ∧ -2 ^ 31 ≤ n ∧ n < 2 ^ 31 := by
  cases value with
  | int64 m =>
    simp only [toInt, numberOf, intOf_eq_ok, Option.some.injEq, Int.cast_inj]
  | uint64 m =>
    simp only [toInt, numberOf, intOf_eq_ok, Option.some.injEq]
    norm_cast
  | double q =>
    simp only [toInt, numberOf, Option.some.injEq]
    constructor
    · intro h
      split at h
      · rename_i hden
        obtain ⟨rfl, hrange⟩ := intOf_eq_ok.mp h
        exact ⟨((Rat.den_eq_one_iff q).mp hden).symm, hrange⟩
      · cases h
    · rintro ⟨rfl, hrange⟩
      rw [if_pos (Rat.den_intCast n)]
      exact intOf_eq_ok.mpr ⟨rfl, hrange⟩
  | _ => simp [toInt, numberOf]

theorem intAt_eq_ok : intAt object key = .ok n ↔ HasInt object key n := by
  unfold intAt HasInt
  rw [bind_eq_ok]
  simp only [memberAt_eq_ok, toInt_eq_ok, Option.bind_eq_some_iff]
  constructor
  · rintro ⟨value, hfound, hnumber, hrange⟩
    exact ⟨⟨value, hfound, hnumber⟩, hrange⟩
  · rintro ⟨⟨value, hfound, hnumber⟩, hrange⟩
    exact ⟨value, hfound, hnumber, hrange⟩

theorem toText_eq_ok {value : JsonValue} : toText value = .ok text ↔ value = .string text := by
  cases value <;> simp [toText]

theorem textAt_eq_ok : textAt object key = .ok text ↔ HasText object key text := by
  unfold textAt HasText
  rw [bind_eq_ok]
  simp only [memberAt_eq_ok, toText_eq_ok]
  constructor
  · rintro ⟨value, hfound, rfl⟩
    exact hfound
  · intro h
    exact ⟨_, h, rfl⟩

theorem differsInt_eq_false : differsInt object key n = .ok false ↔ HasInt object key n := by
  unfold differsInt
  simp only [bind_eq_ok, intAt_eq_ok, Except.ok.injEq, bne_eq_false_iff_eq]
  constructor
  · rintro ⟨m, hm, rfl⟩
    exact hm
  · intro h
    exact ⟨n, h, rfl⟩

theorem differsText_eq_false : differsText object key text = .ok false ↔ HasText object key text := by
  unfold differsText
  simp only [bind_eq_ok, textAt_eq_ok, Except.ok.injEq, bne_eq_false_iff_eq]
  constructor
  · rintro ⟨other, hother, rfl⟩
    exact hother
  · intro h
    exact ⟨text, h, rfl⟩

theorem anyOf_eq_false {operands : List (Except Exception Bool)} :
    anyOf operands = .ok false ↔ ∀ operand ∈ operands, operand = .ok false := by
  induction operands with
  | nil => simp [anyOf]
  | cons operand rest ih =>
    rw [anyOf, bind_eq_ok, List.forall_mem_cons]
    constructor
    · rintro ⟨holds, hoperand, h⟩
      cases holds with
      | true => cases h
      | false => exact ⟨hoperand, ih.mp h⟩
    · rintro ⟨hoperand, hrest⟩
      exact ⟨false, hoperand, ih.mpr hrest⟩

/-- Where every operand has a value, the disjunction has one. -/
theorem anyOf_succeeds {operands : List (Except Exception Bool)}
    (h : ∀ operand ∈ operands, Succeeds operand) : Succeeds (anyOf operands) := by
  induction operands with
  | nil => exact succeeds_ok false
  | cons operand rest ih =>
    obtain ⟨⟨holds, hoperand⟩, hrest⟩ := List.forall_mem_cons.mp h
    rw [anyOf, succeeds_bind]
    refine ⟨holds, hoperand, ?_⟩
    cases holds with
    | true => exact succeeds_ok true
    | false => exact ih hrest

theorem differsInt_succeeds (h : HasInt object key n) (expected : ℤ) :
    Succeeds (differsInt object key expected) :=
  succeeds_bind.mpr ⟨n, intAt_eq_ok.mpr h, succeeds_ok _⟩

theorem differsText_succeeds (h : HasText object key text) (expected : ByteString) :
    Succeeds (differsText object key expected) :=
  succeeds_bind.mpr ⟨text, textAt_eq_ok.mpr h, succeeds_ok _⟩

end Members

section Bodies
variable {parse : JsonParser} {config : VisionConfig} {body : ByteString}
  {request : RecordingStartRequest} {what : String} {object profile : JsonObject}

theorem parseBody_eq_ok :
    parseBody parse what body = .ok object ↔ parse body = some (.object object) := by
  unfold parseBody
  split <;> simp_all [invalidRequest]

/-- The checks of the profile pass. -/
theorem profile_matches :
    anyOf [.ok (profile.length != 4),
        differsInt profile "width" (colorProfile config.device).width,
        differsInt profile "height" (colorProfile config.device).height,
        differsInt profile "fps" (colorProfile config.device).fps,
        differsText profile "pixel_format" (ascii "rgb24")] = .ok false ↔
      profile.length = 4 ∧ HasInt profile "width" (colorProfile config.device).width ∧
        HasInt profile "height" (colorProfile config.device).height ∧
        HasInt profile "fps" (colorProfile config.device).fps ∧
        HasText profile "pixel_format" (ascii "rgb24") := by
  rw [anyOf_eq_false]
  simp only [List.forall_mem_cons, List.not_mem_nil, IsEmpty.forall_iff, implies_true, and_true,
    Except.ok.injEq, bne_eq_false_iff_eq, differsInt_eq_false, differsText_eq_false]

/-- The member is there and is an object. -/
theorem isObjectAt :
    (do .ok (← memberAt object "expected_profile").asObject.isNone : Except Exception Bool) =
        .ok false ↔
      ∃ profile, object.find? (ascii "expected_profile") = some (.object profile) := by
  rw [bind_eq_ok]
  simp only [memberAt_eq_ok, Except.ok.injEq]
  constructor
  · rintro ⟨value, hfound, hobject⟩
    cases value <;> cases hobject
    exact ⟨_, hfound⟩
  · rintro ⟨profile, hfound⟩
    exact ⟨_, hfound, rfl⟩

theorem start_matches :
    anyOf [.ok (object.length != 6), differsInt object "schema_version" 1,
        differsText object "expected_device_id" config.deviceId,
        differsText object "expected_calibration_id" config.calibration.calibrationId,
        do .ok (← memberAt object "expected_profile").asObject.isNone] = .ok false ↔
      object.length = 6 ∧ HasInt object "schema_version" 1 ∧
        HasText object "expected_device_id" config.deviceId ∧
        HasText object "expected_calibration_id" config.calibration.calibrationId ∧
        ∃ profile, object.find? (ascii "expected_profile") = some (.object profile) := by
  rw [anyOf_eq_false]
  simp only [List.forall_mem_cons, List.not_mem_nil, IsEmpty.forall_iff, implies_true, and_true,
    Except.ok.injEq, bne_eq_false_iff_eq, differsInt_eq_false, differsText_eq_false, isObjectAt]

theorem parseRecordingStopRequest_eq_ok :
    parseRecordingStopRequest parse body = .ok request ↔ request.canonicalJson = body ∧
      ∃ object, parse body = some (.object object) ∧ object.length = 3 ∧
        HasInt object "schema_version" 1 ∧ HasText object "request_id" request.requestId ∧
        HasText object "recording_id" request.recordingId := by
  have hmatches : ∀ object : JsonObject,
      anyOf [.ok (object.length != 3), differsInt object "schema_version" 1] = .ok false ↔
        object.length = 3 ∧ HasInt object "schema_version" 1 := by
    intro object
    rw [anyOf_eq_false]
    simp only [List.forall_mem_cons, List.not_mem_nil, IsEmpty.forall_iff, implies_true, and_true,
      Except.ok.injEq, bne_eq_false_iff_eq, differsInt_eq_false]
  unfold parseRecordingStopRequest
  simp only [bind_eq_ok, parseBody_eq_ok, ite_eq_ok, textAt_eq_ok]
  constructor
  · rintro ⟨object, hparse, differs, hdiffers, ⟨-, h⟩ | ⟨hsame, requestId, hrequest, recordingId,
      hrecording, h⟩⟩
    · cases h
    · cases h
      rw [Bool.not_eq_true] at hsame
      rw [hsame] at hdiffers
      obtain ⟨hlength, hversion⟩ := (hmatches object).mp hdiffers
      exact ⟨rfl, object, hparse, hlength, hversion, hrequest, hrecording⟩
  · rintro ⟨rfl, object, hparse, hlength, hversion, hrequest, hrecording⟩
    exact ⟨object, hparse, false, (hmatches object).mpr ⟨hlength, hversion⟩,
      .inr ⟨Bool.false_ne_true, _, hrequest, _, hrecording, rfl⟩⟩

theorem parseRecordingStartRequest_eq_ok :
    parseRecordingStartRequest parse config body = .ok request ↔ request.canonicalJson = body ∧
      ∃ object profile : JsonObject, parse body = some (.object object) ∧ object.length = 6 ∧
        HasInt object "schema_version" 1 ∧
        HasText object "expected_device_id" config.deviceId ∧
        HasText object "expected_calibration_id" config.calibration.calibrationId ∧
        object.find? (ascii "expected_profile") = some (.object profile) ∧
        profile.length = 4 ∧ HasInt profile "width" (colorProfile config.device).width ∧
        HasInt profile "height" (colorProfile config.device).height ∧
        HasInt profile "fps" (colorProfile config.device).fps ∧
        HasText profile "pixel_format" (ascii "rgb24") ∧
        HasText object "request_id" request.requestId ∧
        HasText object "recording_id" request.recordingId := by
  unfold parseRecordingStartRequest
  simp only [bind_eq_ok, parseBody_eq_ok, ite_eq_ok, textAt_eq_ok, memberAt_eq_ok]
  constructor
  · rintro ⟨object, hparse, differs, hdiffers, ⟨-, h⟩ | ⟨hsame, value, hfound, h⟩⟩
    · cases h
    rw [Bool.not_eq_true] at hsame
    rw [hsame] at hdiffers
    obtain ⟨hlength, hversion, hdevice, hcalibration, profile, hprofile⟩ :=
      start_matches.mp hdiffers
    cases hprofile.symm.trans hfound
    obtain ⟨differs', hdiffers', ⟨-, h⟩ | ⟨hsame', requestId, hrequest, recordingId, hrecording, h⟩⟩ := h
    · cases h
    cases h
    rw [Bool.not_eq_true] at hsame'
    rw [hsame'] at hdiffers'
    obtain ⟨hlength', hwidth, hheight, hfps, hformat⟩ := profile_matches.mp hdiffers'
    exact ⟨rfl, object, profile, hparse, hlength, hversion, hdevice, hcalibration, hprofile,
      hlength', hwidth, hheight, hfps, hformat, hrequest, hrecording⟩
  · rintro ⟨rfl, object, profile, hparse, hlength, hversion, hdevice, hcalibration, hprofile,
      hlength', hwidth, hheight, hfps, hformat, hrequest, hrecording⟩
    have hmatches := start_matches.mpr ⟨hlength, hversion, hdevice, hcalibration, profile, hprofile⟩
    have hmatches' := profile_matches.mpr ⟨hlength', hwidth, hheight, hfps, hformat⟩
    exact ⟨object, hparse, false, hmatches, .inr ⟨Bool.false_ne_true, .object profile, hprofile,
      false, hmatches', .inr ⟨Bool.false_ne_true, _, hrequest, _, hrecording, rfl⟩⟩⟩

end Bodies

end NodusVision.Application
