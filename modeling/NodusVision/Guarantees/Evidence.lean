import NodusVision.Recording.Evidence

/-! Whether the evidence that the component writes itself can be read back. -/
namespace NodusVision.Guarantees
open Text Recording

/-- A text that stands in the ledger for a request of a client. -/
inductive IsClientEvidence (request : RecordingStartRequest) : ByteString → Prop where
  | start {text : ByteString} (h : serializeRecordingStartRequest request = .ok text) :
    IsClientEvidence request text
  | stop : IsClientEvidence request (canonicalStop request)

/-- Every evidence of the request is a JSON object of its documented members, and no other ids have
one of these texts. -/
structure DecodesToIds (readDouble : ByteString → ℚ) (request : RecordingStartRequest) : Prop where
  start : ∃ text, serializeRecordingStartRequest request = .ok text ∧
    IsObjectOf readDouble text (requestMembers request)
  stop : IsObjectOf readDouble (canonicalStop request) (requestMembers request)
  internalStop : ∀ reason, IsObjectOf readDouble
    (serializeInternalStopEvidence request.recordingId reason)
    (internalStopMembers request.recordingId reason)
  distinct : ∀ other text, IsPlainRequest other → IsClientEvidence request text →
    IsClientEvidence other text →
    request.requestId = other.requestId ∧ request.recordingId = other.recordingId
  distinctInternal : ∀ recordingId reason reason', isRecordingIdValid recordingId = true →
    serializeInternalStopEvidence request.recordingId reason =
      serializeInternalStopEvidence recordingId reason' →
    request.recordingId = recordingId ∧ reason = reason'
  apart : ∀ text recordingId reason, IsClientEvidence request text →
    text ≠ serializeInternalStopEvidence recordingId reason

section
variable {readDouble : ByteString → ℚ} {request other : RecordingStartRequest} {text : ByteString}

theorem evidence_distinct (h : IsPlainRequest request) (hother : IsPlainRequest other)
    (htext : IsClientEvidence request text) (htext' : IsClientEvidence other text) :
    request.requestId = other.requestId ∧ request.recordingId = other.recordingId := by
  cases htext with
  | start hstart =>
    cases htext' with
    | start hstart' =>
      rw [← hstart'] at hstart
      exact start_injective h hother hstart
    | stop => exact start_stop_injective h hother hstart
  | stop =>
    generalize hstop : canonicalStop request = text at htext'
    cases htext' with
    | start hstart' =>
      rw [← hstop] at hstart'
      obtain ⟨hrequest, hrecording⟩ := start_stop_injective hother h hstart'
      exact ⟨hrequest.symm, hrecording.symm⟩
    | stop => exact stop_injective h hother hstop

theorem evidence_clientText (h : IsPlainRequest request) (htext : IsClientEvidence request text) :
    ∃ requestId, text = clientText requestId request.recordingId := by
  cases htext with
  | start hstart =>
    rw [start_clientText h] at hstart
    exact ⟨_, (Except.ok.inj hstart).symm⟩
  | stop => exact ⟨_, stop_clientText h.canonicalJson⟩

/-- The evidence of safe ids can be read back exactly when the request id has no quotation mark. -/
theorem evidence_decodes_iff (h : IsPlainRequest request) :
    DecodesToIds readDouble request ↔ 34 ∉ request.requestId := by
  constructor
  · intro hdecodes hquote
    exact stop_not_isObjectOf h hquote hdecodes.stop
  · intro hquote
    let formatDouble : ℚ → ByteString := fun _ => []
    constructor
    · exact ⟨_, start_text h formatDouble, isObjectOf_serialize rfl (requestMembers_unique request)⟩
    · rw [stop_text h hquote formatDouble]
      exact isObjectOf_serialize rfl (requestMembers_unique request)
    · intro reason
      rw [internalStop_text h.recordingId reason formatDouble]
      exact isObjectOf_serialize rfl (internalStopMembers_unique request.recordingId reason)
    · intro other text hother htext htext'
      exact evidence_distinct h hother htext htext'
    · intro recordingId reason reason' hrecording hequal
      exact internalStop_injective h.recordingId hrecording hequal
    · intro text recordingId reason htext
      obtain ⟨requestId, rfl⟩ := evidence_clientText h htext
      exact clientText_ne_internalStop requestId request.recordingId recordingId reason

end

def plainRequest : RecordingStartRequest := ⟨ascii "start-001", ascii "episode-0001-front", []⟩

theorem plainRequest_decodes : DecodesToIds (fun _ => 0) plainRequest := by
  have hplain : IsPlainRequest plainRequest := ⟨by decide, by decide, rfl⟩
  have hquote : 34 ∉ plainRequest.requestId := by decide
  exact (evidence_decodes_iff hplain).mpr hquote

def quotedRequest : RecordingStartRequest := ⟨ascii "stop\"001", ascii "episode-0001-front", []⟩

/-- The ids are accepted, and the stop evidence is not JSON. -/
theorem quotedRequest_not_decoded : IsPlainRequest quotedRequest ∧
    parseJson (fun _ => 0) (canonicalStop quotedRequest) = none ∧
    ¬ DecodesToIds (fun _ => 0) quotedRequest := by
  have hplain : IsPlainRequest quotedRequest := ⟨by decide, by decide, rfl⟩
  have hnone : parseJson (fun _ => 0) (canonicalStop quotedRequest) = none := rfl
  refine ⟨hplain, hnone, ?_⟩
  intro hdecodes
  obtain ⟨object, hparse, -⟩ := hdecodes.stop
  rw [hnone] at hparse
  cases hparse

end NodusVision.Guarantees
