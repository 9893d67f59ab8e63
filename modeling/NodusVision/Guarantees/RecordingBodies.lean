import NodusVision.Application.RecordingRequests
import NodusVision.Guarantees.PilotContract

/-! Which bodies the recording commands accept, and what the others are answered. -/
namespace NodusVision.Guarantees
open Text Config Program Storage Recording Application

/-- The members of a profile, whatever they are. -/
structure HasProfile (profile : JsonObject) : Prop where
  keys : HasKeys profile profileKeys
  width : ∃ n, HasInt profile "width" n
  height : ∃ n, HasInt profile "height" n
  fps : ∃ n, HasInt profile "fps" n
  pixelFormat : ∃ text, HasText profile "pixel_format" text

/-- A start request with the documented members, for whatever device. -/
structure IsSomeStart (object : JsonObject) : Prop where
  keys : HasKeys object startKeys
  schemaVersion : ∃ n, HasInt object "schema_version" n
  deviceId : ∃ text, HasText object "expected_device_id" text
  calibrationId : ∃ text, HasText object "expected_calibration_id" text
  profile : ∃ profile, object.find? (ascii "expected_profile") = some (.object profile) ∧
    HasProfile profile
  requestId : ∃ text, HasText object "request_id" text
  recordingId : ∃ text, HasText object "recording_id" text

structure IsSomeStop (object : JsonObject) : Prop where
  keys : HasKeys object stopKeys
  schemaVersion : ∃ n, HasInt object "schema_version" n
  requestId : ∃ text, HasText object "request_id" text
  recordingId : ∃ text, HasText object "recording_id" text

/-- The status that the route answers without asking the recorder. -/
def rejection (parsed : Except Exception RecordingStartRequest) : Option ℕ :=
  match parsed with
  | .ok _ => none
  | .error e => some (startResponse (.error e)).status

/-- What becomes of the bodies of one command. -/
structure AnswersBodies (parse : JsonParser)
    (parseRequest : ByteString → Except Exception RecordingStartRequest) (members : ℕ)
    (accepts : JsonObject → RecordingStartRequest → Prop) (typed : JsonObject → Prop) : Prop where
  accepted : ∀ body request, parseRequest body = .ok request ↔ request.canonicalJson = body ∧
    ∃ object, parse body = some (.object object) ∧ accepts object request
  malformed : ∀ body, parse body = none → rejection (parseRequest body) = some 409
  shapeless : ∀ body value, parse body = some value →
    (∀ object, value = .object object → object.length ≠ members) → rejection (parseRequest body) = some 400
  differs : ∀ body object, parse body = some (.object object) → typed object →
    (∀ request, ¬ accepts object request) → rejection (parseRequest body) = some 400
  rejected : ∀ body e, parseRequest body = .error e → (stopResponse (.error e)).status =
    (startResponse (.error e)).status ∧ (rejection (parseRequest body) = some 400 ∨
      rejection (parseRequest body) = some 409)

section
variable {parse : JsonParser} {config : VisionConfig} {body : ByteString} {object profile : JsonObject} {request : RecordingStartRequest} {key : String}

theorem found_of_int {n : ℤ} (h : HasInt object key n) :
    ∃ value, object.find? (ascii key) = some value := by
  obtain ⟨value, hvalue, -⟩ := Option.bind_eq_some_iff.mp h.1
  exact ⟨value, hvalue⟩

theorem found_of_text {text : ByteString} (h : HasText object key text) :
    ∃ value, object.find? (ascii key) = some value := ⟨_, h⟩

theorem nodup_of_parse (hreads : ReadsJson parse) (h : parse body = some (.object object)) :
    (object.map Prod.fst).Nodup := (hasUniqueKeys_object (hreads.uniqueKeys _ _ h)).1

theorem profile_nodup (hreads : ReadsJson parse) (h : parse body = some (.object object))
    (hfound : object.find? (ascii key) = some (.object profile)) :
    (profile.map Prod.fst).Nodup :=
  (hasUniqueKeys_object (hasUniqueKeys_member (hreads.uniqueKeys _ _ h) hfound)).1

theorem isProfile_iff (hnodup : (profile.map Prod.fst).Nodup) : IsProfile config profile ↔
    profile.length = 4 ∧ HasInt profile "width" (colorProfile config.device).width ∧
      HasInt profile "height" (colorProfile config.device).height ∧
      HasInt profile "fps" (colorProfile config.device).fps ∧
      HasText profile "pixel_format" (ascii "rgb24") := by
  have hkeys : (profileKeys.map ascii).Nodup := by decide
  constructor
  · intro h
    exact ⟨h.keys.length_eq hnodup hkeys, h.width, h.height, h.fps, h.pixelFormat⟩
  · rintro ⟨hlength, hwidth, hheight, hfps, hformat⟩
    refine ⟨?_, hwidth, hheight, hfps, hformat⟩
    apply (hasKeys_iff_length hnodup hkeys ?_).mpr hlength
    simp only [profileKeys, List.forall_mem_cons]
    exact ⟨found_of_int hwidth, found_of_int hheight, found_of_int hfps, found_of_text hformat,
      by simp⟩

theorem start_accepted (hreads : ReadsJson parse) : parseRecordingStartRequest parse config body =
    .ok request ↔ request.canonicalJson = body ∧ ∃ object,
      parse body = some (.object object) ∧ IsStartRequest config object request := by
  have hkeys : (startKeys.map ascii).Nodup := by decide
  rw [parseRecordingStartRequest_eq_ok]
  apply and_congr_right
  intro _
  constructor
  · rintro ⟨object, profile, hparse, hlength, hversion, hdevice, hcalibration, hprofile, hmatches⟩
    obtain ⟨hlength', hwidth, hheight, hfps, hformat, hrequest, hrecording⟩ := hmatches
    refine ⟨object, hparse, ?_, hversion, hdevice, hcalibration, ⟨profile, hprofile, ?_⟩, hrequest,
      hrecording⟩
    · apply (hasKeys_iff_length (nodup_of_parse hreads hparse) hkeys ?_).mpr hlength
      simp only [startKeys, List.forall_mem_cons]
      exact ⟨found_of_int hversion, found_of_text hrequest, found_of_text hrecording,
        found_of_text hdevice, found_of_text hcalibration, ⟨_, hprofile⟩, by simp⟩
    · exact (isProfile_iff (profile_nodup hreads hparse hprofile)).mpr
        ⟨hlength', hwidth, hheight, hfps, hformat⟩
  · rintro ⟨object, hparse, h⟩
    obtain ⟨profile, hprofile, hisProfile⟩ := h.profile
    obtain ⟨hlength', hwidth, hheight, hfps, hformat⟩ :=
      (isProfile_iff (profile_nodup hreads hparse hprofile)).mp hisProfile
    exact ⟨object, profile, hparse, h.keys.length_eq (nodup_of_parse hreads hparse) hkeys,
      h.schemaVersion, h.deviceId, h.calibrationId, hprofile, hlength', hwidth, hheight, hfps,
      hformat, h.requestId, h.recordingId⟩

theorem stop_accepted (hreads : ReadsJson parse) : parseRecordingStopRequest parse body = .ok request ↔
    request.canonicalJson = body ∧ ∃ object,
      parse body = some (.object object) ∧ IsStopRequest object request := by
  have hkeys : (stopKeys.map ascii).Nodup := by decide
  rw [parseRecordingStopRequest_eq_ok]
  apply and_congr_right
  intro _
  constructor
  · rintro ⟨object, hparse, hlength, hversion, hrequest, hrecording⟩
    refine ⟨object, hparse, ?_, hversion, hrequest, hrecording⟩
    apply (hasKeys_iff_length (nodup_of_parse hreads hparse) hkeys ?_).mpr hlength
    simp only [stopKeys, List.forall_mem_cons]
    exact ⟨found_of_int hversion, found_of_text hrequest, found_of_text hrecording, by simp⟩
  · rintro ⟨object, hparse, h⟩
    exact ⟨object, hparse, h.keys.length_eq (nodup_of_parse hreads hparse) hkeys, h.schemaVersion,
      h.requestId, h.recordingId⟩

/-- What the parsers throw. -/
def IsBodyError (e : Exception) : Prop := e = .systemError ∨ ∃ what, e = .invalidArgument what

theorem throws_system {α : Type} : ThrowsOnly IsBodyError (.error .systemError : Except Exception α) :=
  (throwsOnly_error _).mpr (.inl rfl)

theorem throws_invalid {α : Type} {what : String} :
    ThrowsOnly IsBodyError (invalidRequest what : Except Exception α) :=
  (throwsOnly_error _).mpr (.inr ⟨what, rfl⟩)

theorem memberAt_throws : ThrowsOnly IsBodyError (memberAt object key) := by
  unfold memberAt
  split
  · exact throwsOnly_ok _
  · exact throws_system

theorem textAt_throws : ThrowsOnly IsBodyError (textAt object key) := by
  refine throwsOnly_bind.mpr ⟨memberAt_throws, fun value _ => ?_⟩
  cases value with
  | string text => exact throwsOnly_ok _
  | _ => exact throws_system

theorem intAt_throws : ThrowsOnly IsBodyError (intAt object key) := by
  have hint (n : ℤ) : ThrowsOnly IsBodyError (intOf n) := by
    unfold intOf
    split
    · exact throwsOnly_ok _
    · exact throws_system
  refine throwsOnly_bind.mpr ⟨memberAt_throws, fun value _ => ?_⟩
  unfold toInt
  split
  · exact hint _
  · exact hint _
  · split
    · exact hint _
    · exact throws_system
  · exact throws_system

theorem anyOf_throws {operands : List (Except Exception Bool)}
    (h : ∀ operand ∈ operands, ThrowsOnly IsBodyError operand) :
    ThrowsOnly IsBodyError (anyOf operands) := by
  induction operands with
  | nil => exact throwsOnly_ok _
  | cons operand rest ih =>
    obtain ⟨hoperand, hrest⟩ := List.forall_mem_cons.mp h
    refine throwsOnly_bind.mpr ⟨hoperand, fun holds _ => ?_⟩
    cases holds with
    | true => exact throwsOnly_ok _
    | false => exact ih hrest

theorem differsInt_throws (n : ℤ) : ThrowsOnly IsBodyError (differsInt object key n) :=
  throwsOnly_bind.mpr ⟨intAt_throws, fun _ _ => throwsOnly_ok _⟩

theorem differsText_throws (text : ByteString) :
    ThrowsOnly IsBodyError (differsText object key text) :=
  throwsOnly_bind.mpr ⟨textAt_throws, fun _ _ => throwsOnly_ok _⟩

theorem parseBody_throws {what : String} :
    ThrowsOnly IsBodyError (parseBody parse what body) := by
  unfold parseBody
  split
  · exact throws_system
  · exact throwsOnly_ok _
  · exact throws_invalid

/-- The identities are read last. -/
theorem identities_throw :
    ThrowsOnly IsBodyError (do
      .ok (⟨← textAt object "request_id", ← textAt object "recording_id", body⟩ :
        RecordingStartRequest)) :=
  throwsOnly_bind.mpr ⟨textAt_throws, fun _ _ =>
    throwsOnly_bind.mpr ⟨textAt_throws, fun _ _ => throwsOnly_ok _⟩⟩

theorem isNone_throws : ThrowsOnly IsBodyError
    (do .ok (← memberAt object key).asObject.isNone : Except Exception Bool) :=
  throwsOnly_bind.mpr ⟨memberAt_throws, fun _ _ => throwsOnly_ok _⟩

theorem start_throws :
    ThrowsOnly IsBodyError (parseRecordingStartRequest parse config body) := by
  refine throwsOnly_bind.mpr ⟨parseBody_throws, fun object _ => ?_⟩
  refine throwsOnly_bind.mpr ⟨anyOf_throws ?_, fun differs _ => ?_⟩
  · simp only [List.forall_mem_cons]
    exact ⟨throwsOnly_ok _, differsInt_throws _, differsText_throws _, differsText_throws _,
      isNone_throws, by simp⟩
  cases differs with
  | true => exact throws_invalid
  | false =>
    refine throwsOnly_bind.mpr ⟨memberAt_throws, fun value _ => ?_⟩
    refine throwsOnly_bind.mpr ⟨anyOf_throws ?_, fun differs _ => ?_⟩
    · simp only [List.forall_mem_cons]
      exact ⟨throwsOnly_ok _, differsInt_throws _, differsInt_throws _, differsInt_throws _,
        differsText_throws _, by simp⟩
    cases differs with
    | true => exact throws_invalid
    | false => exact identities_throw

theorem stop_throws :
    ThrowsOnly IsBodyError (parseRecordingStopRequest parse body) := by
  refine throwsOnly_bind.mpr ⟨parseBody_throws, fun object _ => ?_⟩
  refine throwsOnly_bind.mpr ⟨anyOf_throws ?_, fun differs _ => ?_⟩
  · simp only [List.forall_mem_cons]
    exact ⟨throwsOnly_ok _, differsInt_throws _, by simp⟩
  cases differs with
  | true => exact throws_invalid
  | false => exact identities_throw

/-- A value where all that is read has the documented kind. -/
def Rejects400 (parsed : Except Exception RecordingStartRequest) : Prop :=
  Succeeds parsed ∨ rejection parsed = some 400

theorem rejects_invalid {what : String} : Rejects400 (invalidRequest what) := .inr rfl

theorem rejects_bind {α : Type} {x : Except Exception α}
    {f : α → Except Exception RecordingStartRequest} (hx : Succeeds x)
    (hf : ∀ a, x = .ok a → Rejects400 (f a)) : Rejects400 (x >>= f) := by
  obtain ⟨a, rfl⟩ := hx
  exact hf a rfl

theorem rejects_identities (hrequest : ∃ text, HasText object "request_id" text)
    (hrecording : ∃ text, HasText object "recording_id" text) :
    Rejects400 (do .ok ⟨← textAt object "request_id", ← textAt object "recording_id", body⟩) := by
  obtain ⟨requestId, hrequest⟩ := hrequest
  obtain ⟨recordingId, hrecording⟩ := hrecording
  refine rejects_bind ⟨requestId, textAt_eq_ok.mpr hrequest⟩ fun _ _ => ?_
  exact rejects_bind ⟨recordingId, textAt_eq_ok.mpr hrecording⟩ fun _ _ => .inl (succeeds_ok _)

theorem start_typed (hparse : parse body = some (.object object)) (h : IsSomeStart object) :
    Rejects400 (parseRecordingStartRequest parse config body) := by
  obtain ⟨version, hversion⟩ := h.schemaVersion
  obtain ⟨device, hdevice⟩ := h.deviceId
  obtain ⟨calibration, hcalibration⟩ := h.calibrationId
  obtain ⟨profile, hprofile, hhas⟩ := h.profile
  obtain ⟨width, hwidth⟩ := hhas.width
  obtain ⟨height, hheight⟩ := hhas.height
  obtain ⟨fps, hfps⟩ := hhas.fps
  obtain ⟨format, hformat⟩ := hhas.pixelFormat
  have hmember := memberAt_eq_ok.mpr hprofile
  refine rejects_bind ⟨object, parseBody_eq_ok.mpr hparse⟩ fun found hfound => ?_
  cases hparse.symm.trans (parseBody_eq_ok.mp hfound)
  refine rejects_bind (anyOf_succeeds ?_) fun differs _ => ?_
  · simp only [List.forall_mem_cons]
    exact ⟨succeeds_ok _, differsInt_succeeds hversion _, differsText_succeeds hdevice _,
      differsText_succeeds hcalibration _, succeeds_bind.mpr ⟨_, hmember, succeeds_ok _⟩, by simp⟩
  cases differs with
  | true => exact rejects_invalid
  | false =>
    refine rejects_bind ⟨_, hmember⟩ fun value hvalue => ?_
    cases hmember.symm.trans hvalue
    refine rejects_bind (anyOf_succeeds ?_) fun differs _ => ?_
    · simp only [List.forall_mem_cons]
      exact ⟨succeeds_ok _, differsInt_succeeds hwidth _, differsInt_succeeds hheight _,
        differsInt_succeeds hfps _, differsText_succeeds hformat _, by simp⟩
    cases differs with
    | true => exact rejects_invalid
    | false => exact rejects_identities h.requestId h.recordingId

theorem stop_typed (hparse : parse body = some (.object object)) (h : IsSomeStop object) :
    Rejects400 (parseRecordingStopRequest parse body) := by
  obtain ⟨version, hversion⟩ := h.schemaVersion
  refine rejects_bind ⟨object, parseBody_eq_ok.mpr hparse⟩ fun found hfound => ?_
  cases hparse.symm.trans (parseBody_eq_ok.mp hfound)
  refine rejects_bind (anyOf_succeeds ?_) fun differs _ => ?_
  · simp only [List.forall_mem_cons]
    exact ⟨succeeds_ok _, differsInt_succeeds hversion _, by simp⟩
  cases differs with
  | true => exact rejects_invalid
  | false => exact rejects_identities h.requestId h.recordingId

end

/-- What the two parsers have in common. -/
theorem answers_of {parse : JsonParser}
    {parseRequest : ByteString → Except Exception RecordingStartRequest} {members : ℕ}
    {accepts : JsonObject → RecordingStartRequest → Prop} {typed : JsonObject → Prop} {what : String}
    {rest : ByteString → JsonObject → Except Exception RecordingStartRequest}
    (hparse : ∀ body, parseRequest body = parseBody parse what body >>= rest body)
    (hlength : ∀ body object, object.length ≠ members → rejection (rest body object) = some 400)
    (haccepted : ∀ body request, parseRequest body = .ok request ↔ request.canonicalJson = body ∧
      ∃ object, parse body = some (.object object) ∧ accepts object request)
    (htyped : ∀ body object, parse body = some (.object object) → typed object →
      Rejects400 (parseRequest body))
    (hthrows : ∀ body, ThrowsOnly IsBodyError (parseRequest body)) :
    AnswersBodies parse parseRequest members accepts typed := by
  constructor
  · exact haccepted
  · intro body hnone
    rw [hparse, parseBody, hnone]
    rfl
  · intro body value hvalue hno
    rw [hparse]
    cases value with
    | object object =>
      rw [parseBody_eq_ok.mpr hvalue]
      exact hlength body object (hno object rfl)
    | _ =>
      rw [parseBody, hvalue]
      rfl
  · intro body object hvalue hkinds hno
    rcases htyped body object hvalue hkinds with ⟨request, hok⟩ | hrejected
    · obtain ⟨-, found, hfound, haccepts⟩ := (haccepted body request).mp hok
      cases hvalue.symm.trans hfound
      exact absurd haccepts (hno request)
    · exact hrejected
  · intro body e he
    rw [he]
    rcases hthrows body e he with rfl | ⟨text, rfl⟩
    · have hstatus : (startResponse (.error .systemError)).status = 409 := rfl
      have hstop : (stopResponse (.error .systemError)).status = 409 := rfl
      exact ⟨hstop.trans hstatus.symm, .inr (congrArg some hstatus)⟩
    · have hstatus : (startResponse (.error (.invalidArgument text))).status = 400 := rfl
      have hstop : (stopResponse (.error (.invalidArgument text))).status = 400 := rfl
      exact ⟨hstop.trans hstatus.symm, .inl (congrArg some hstatus)⟩

/-- For every body of the two commands. -/
theorem recording_bodies_answered {parse : JsonParser} (hreads : ReadsJson parse)
    (config : VisionConfig) :
    AnswersBodies parse (parseRecordingStartRequest parse config) 6 (IsStartRequest config)
        IsSomeStart ∧
      AnswersBodies parse (parseRecordingStopRequest parse) 3 IsStopRequest IsSomeStop := by
  constructor
  · refine answers_of (fun body => rfl) ?_ (fun body request => start_accepted hreads)
      (fun body object => start_typed) fun body => start_throws
    intro body object hlength
    rw [anyOf, bne_iff_ne.mpr hlength]
    rfl
  · refine answers_of (fun body => rfl) ?_ (fun body request => stop_accepted hreads)
      (fun body object => stop_typed) fun body => stop_throws
    intro body object hlength
    rw [anyOf, bne_iff_ne.mpr hlength]
    rfl

def startBody : ByteString :=
  ascii ("\x7b\"schema_version\":1,\"request_id\":\"start-1\",\"recording_id\":\"take-1\"," ++
    "\"expected_device_id\":\"fake\",\"expected_calibration_id\":\"optical\"," ++
    "\"expected_profile\":\x7b\"width\":8,\"height\":6,\"fps\":30,\"pixel_format\":\"rgb24\"\x7d\x7d")

/-- A start that is accepted, an array and a text that is no JSON. -/
def answersSamples (config : VisionConfig) : Bool :=
  let parse := parseRecordingStartRequest (parseJson fun _ => 0) config
  (parse startBody).toOption.any (fun request => request.recordingId == ascii "take-1") &&
    rejection (parse (ascii "[]")) == some 400 && rejection (parse (ascii "[")) == some 409

set_option maxRecDepth 100000 in
theorem recording_bodies_answered_fake : ∃ config,
    parsed (configDocument (ascii "fake") (ascii "camera.fake") (ascii "optical")) = .ok config ∧
      answersSamples config = true ∧
      AnswersBodies (parseJson fun _ => 0) (parseRecordingStartRequest (parseJson fun _ => 0) config)
        6 (IsStartRequest config) IsSomeStart := by
  obtain ⟨config, hconfig, -, htest⟩ := @accepts_spec
    (configDocument (ascii "fake") (ascii "camera.fake") (ascii "optical")) answersSamples
      (by decide +kernel)
  exact ⟨config, hconfig, htest, (recording_bodies_answered (parseJson_reads _) config).1⟩

end NodusVision.Guarantees
