import NodusVision.Guarantees.Backoff
import NodusVision.Guarantees.PilotResponses
import NodusVision.Pilot.Endpoint
import NodusVision.Pilot.Targets
import NodusVision.Pilot.Transport

/-! Which resource a request to Pilot reaches. -/
namespace NodusVision.Guarantees
open Text Config Pilot Program

/-- The requests that the client sends while it has the session, and its registrations. -/
def IsRequestOf (sessionId : ByteString) (message : PilotMessage) : Prop :=
  message.sessionId? = none ∨ message.sessionId? = some sessionId

structure TargetsWellFormed (basePath sessionId : ByteString) : Prop where
  segments : ∀ message, IsRequestOf sessionId message →
    message.sentSegments basePath = urlSegments basePath ++
      [ascii "api", ascii "v1", ascii "components"] ++
        (message.sessionId?.map encodePathSegment).toList ++ [message.operation]
  /-- The bytes are those of a path. -/
  written : ∀ message, IsRequestOf sessionId message →
    ∀ segment ∈ message.sentSegments basePath, isSegment segment = true
  nonempty : ∀ message, IsRequestOf sessionId message → [] ∉ message.sentSegments basePath
  /-- The removal of dot segments and the decoding find the session id. -/
  addressed : ∃ front, ∀ message, IsRequestOf sessionId message →
    message.addressed basePath = front ++ message.resource.map some
  distinct : ∀ message other : PilotMessage, IsRequestOf sessionId message → message.resource ≠ other.resource →
    message.addressed basePath ≠ other.addressed basePath

section
variable {basePath sessionId : ByteString}

theorem sentSegments_written (message : PilotMessage) :
    message.sentSegments basePath = urlSegments basePath ++
      [ascii "api", ascii "v1", ascii "components"] ++
        (message.sessionId?.map encodePathSegment).toList ++ [message.operation] := by
  have hfixed : [ascii "api", ascii "v1", ascii "components"].map encodePathSegment =
      [ascii "api", ascii "v1", ascii "components"] := by decide
  rw [message.sentSegments_eq]
  unfold PilotMessage.resource
  rw [List.map_append, List.map_append, hfixed, List.map_singleton, encodePathSegment_operation]
  cases message.sessionId? with
  | none => simp only [Option.map_none, Option.toList_none, List.map_nil, List.append_assoc]
  | some id => simp only [Option.map_some, Option.toList_some, List.map_singleton, List.append_assoc]

theorem sentSegments_isSegment {message : PilotMessage} :
    (∀ segment ∈ message.sentSegments basePath, isSegment segment = true) ↔
      ∀ segment ∈ urlSegments basePath, isSegment segment = true := by
  rw [message.sentSegments_eq]
  constructor
  · intro h segment hsegment
    exact h segment (List.mem_append_left _ hsegment)
  · intro h segment hsegment
    rcases List.mem_append.mp hsegment with hbase | hresource
    · exact h segment hbase
    · obtain ⟨input, -, rfl⟩ := List.mem_map.mp hresource
      exact isSegment_encodePathSegment input

/-- No two resources are confused, not even with what is found for a dot segment. -/
theorem resource_ne_of_dot {message other : PilotMessage} {id : ByteString}
    (hother : other.sessionId? = some id) : message.resource ≠ leftOfDot id ++ [other.operation] := by
  intro h
  have hlength := congrArg List.length h
  unfold PilotMessage.resource leftOfDot at h hlength
  cases hmessage : message.sessionId? with
  | some _ =>
    rw [hmessage] at hlength
    split at hlength
    · simp at hlength
    · simp at hlength
  | none =>
    have hregister : message.operation = ascii "register" := by
      cases message with
      | register => rfl
      | catalog | heartbeat | stateUpdate | disconnect => cases hmessage
    rw [hmessage, Option.toList_none, List.append_nil] at h
    split at h
    · have hoperation := List.singleton_inj.mp (List.append_cancel_left h)
      exact operation_ne_register hother (hoperation.symm.trans hregister)
    · have hlength := congrArg List.length h
      simp at hlength

theorem addressed_ne {message other : PilotMessage} (hdot : isDotSegment sessionId = false)
    (hmessage : IsRequestOf sessionId message) (hne : message.resource ≠ other.resource) :
    message.addressed basePath ≠ other.addressed basePath := by
  have hplain : ∀ id ∈ message.sessionId?, isDotSegment id = false := by
    intro id hid
    rcases hmessage with h | h
    · cases h.symm.trans hid
    · cases h.symm.trans hid
      exact hdot
  intro heq
  rw [PilotMessage.addressed_eq hplain] at heq
  by_cases hother : ∀ id ∈ other.sessionId?, isDotSegment id = false
  · rw [PilotMessage.addressed_eq hother] at heq
    exact hne (List.map_injective_iff.mpr (Option.some_injective _) (List.append_cancel_left heq))
  · push Not at hother
    obtain ⟨id, hid, hiddot⟩ := hother
    rw [PilotMessage.addressed_of_dot hid (Bool.of_not_eq_false hiddot)] at heq
    exact resource_ne_of_dot hid
      (List.map_injective_iff.mpr (Option.some_injective _) (List.append_cancel_left heq))

theorem wellFormed_of (hsession : sessionId ≠ []) (hbase : SlashesApart basePath)
    (hwritten : ∀ segment ∈ urlSegments basePath, isSegment segment = true)
    (hdot : isDotSegment sessionId = false) : TargetsWellFormed basePath sessionId := by
  constructor
  · intro message _
    exact sentSegments_written message
  · intro message _
    exact sentSegments_isSegment.mpr hwritten
  · intro message hmessage hempty
    rw [sentSegments_written] at hempty
    rcases List.mem_append.mp hempty with hempty | hoperation
    · rcases List.mem_append.mp hempty with hempty | hid
      · rcases List.mem_append.mp hempty with hempty | hfixed
        · exact no_empty_segment_iff.mpr hbase hempty
        · revert hfixed
          decide
      · obtain ⟨id, hid, hnil⟩ := Option.map_eq_some_iff.mp (Option.mem_toList.mp hid)
        rcases hmessage with h | h
        · cases h.symm.trans hid
        · cases h.symm.trans hid
          exact hsession (encodePathSegment_eq_nil.mp hnil)
    · have hne := (fixedSegments_plain _ (operation_mem message)).2.2
      exact hne (List.mem_singleton.mp hoperation).symm
  · use (keptSegments (urlSegments basePath)).map percentDecode
    intro message hmessage
    apply PilotMessage.addressed_eq
    intro id hid
    rcases hmessage with h | h
    · cases h.symm.trans hid
    · cases h.symm.trans hid
      exact hdot
  · intro message other hmessage hne
    exact addressed_ne hdot hmessage hne

theorem wellFormed_base (h : TargetsWellFormed basePath sessionId) : SlashesApart basePath := by
  rw [← no_empty_segment_iff]
  intro hempty
  apply h.nonempty (.heartbeat sessionId 0) (.inr rfl)
  rw [sentSegments_written, List.append_assoc, List.append_assoc]
  exact List.mem_append_left _ hempty

theorem wellFormed_segments (h : TargetsWellFormed basePath sessionId) :
    ∀ segment ∈ urlSegments basePath, isSegment segment = true :=
  sentSegments_isSegment.mp (h.written (.heartbeat sessionId 0) (.inr rfl))

theorem wellFormed_session (h : TargetsWellFormed basePath sessionId) :
    isDotSegment sessionId = false := by
  by_contra hdot
  have hdot := Bool.of_not_eq_false hdot
  obtain ⟨front, haddressed⟩ := h.addressed
  have heartbeat := haddressed (.heartbeat sessionId 0) (.inr rfl)
  rw [PilotMessage.addressed_of_dot rfl hdot] at heartbeat
  have hbefore : (keptSegments (urlSegments basePath)).map percentDecode ++
      (leftOfDot sessionId).map some = front ++ [ascii "api", ascii "v1", ascii "components"].map some ++
        [some sessionId] := by
    apply (List.append_left_inj [some (ascii "heartbeat")]).mp
    simpa [PilotMessage.resource, PilotMessage.sessionId?, PilotMessage.operation] using heartbeat
  -- In front of the operation stands a fixed segment instead of the session id.
  have hlast := congrArg List.getLast? hbefore
  have hne : (leftOfDot sessionId).map some ≠ [] ∧
      ((leftOfDot sessionId).map some).getLast? ≠ some (some sessionId) := by
    unfold isDotSegment at hdot
    rw [Bool.or_eq_true, beq_iff_eq, beq_iff_eq] at hdot
    rcases hdot with rfl | rfl <;> decide
  rw [List.getLast?_append_of_ne_nil _ hne.1, List.getLast?_concat] at hlast
  exact hne.2 hlast

theorem parseBaseUrl_basePath {url : ByteString} {parsed : ParsedBaseUrl}
    (h : parseBaseUrl url = .ok parsed) : parsed.basePath = urlPath url := by
  unfold parseBaseUrl at h
  split at h
  · cases h
  · dsimp only at h
    split at h
    · cases h
    · split at h
      · cases h
      · obtain ⟨port, -, h⟩ := bind_eq_ok.mp h
        split at h
        · cases h
        · cases h
          show url.drop (httpPrefix.length + (authority url).length) = urlPath url
          unfold urlPath authority
          have hsplit : (url.drop httpPrefix.length).takeWhile (· != 47) ++
              (url.drop httpPrefix.length).dropWhile (· != 47) = url.drop httpPrefix.length :=
            List.takeWhile_append_dropWhile
          rw [← List.drop_drop]
          exact (congrArg _ hsplit).symm.trans (List.drop_left' rfl)

theorem parseBaseUrl_accepted {parse : JsonParser} {rounding : Rounding} {jsonText : ByteString}
    {config : VisionConfig} (h : parseVisionConfig parse rounding jsonText = .ok config) :
    ∃ url, parseBaseUrl config.pilot.baseUrl = .ok url :=
  parseBaseUrl_ok (parseVisionConfig_accepted h).pilot.baseUrl

/-- The base URL is taken as it is, so its slashes and its other bytes decide; and a session id of dots is
not encoded. -/
theorem targetsWellFormed_iff {parse responses : JsonParser} {rounding : Rounding}
    {jsonText body : ByteString} {config : VisionConfig} {response : PilotRegistrationResponse}
    (hconfig : parseVisionConfig parse rounding jsonText = .ok config)
    (hresponse : parseRegistrationResponse responses body = .ok response) :
    ∃ url, parseBaseUrl config.pilot.baseUrl = .ok url ∧
      (TargetsWellFormed url.basePath response.sessionId ↔
        SlashesApart (urlPath config.pilot.baseUrl) ∧
          (∀ segment ∈ urlSegments (urlPath config.pilot.baseUrl), isSegment segment = true) ∧
          response.sessionId ≠ ascii "." ∧ response.sessionId ≠ ascii "..") := by
  obtain ⟨url, hurl⟩ := parseBaseUrl_accepted hconfig
  have hsession := parseRegistrationResponse_sessionId hresponse
  have hdots : isDotSegment response.sessionId = false ↔
      response.sessionId ≠ ascii "." ∧ response.sessionId ≠ ascii ".." := by
    unfold isDotSegment
    rw [Bool.or_eq_false_iff, beq_eq_false_iff_ne, beq_eq_false_iff_ne]
    rfl
  refine ⟨url, hurl, ?_⟩
  rw [← parseBaseUrl_basePath hurl, ← hdots]
  constructor
  · intro h
    exact ⟨wellFormed_base h, wellFormed_segments h, wellFormed_session h⟩
  · rintro ⟨hbase, hwritten, hdot⟩
    exact wellFormed_of hsession hbase hwritten hdot

theorem strained_slashes {config : VisionConfig} (h : isStrained config.pilot = true) :
    ¬ SlashesApart (urlPath config.pilot.baseUrl) := by
  simp only [isStrained, Bool.and_eq_true, beq_iff_eq] at h
  rintro ⟨hlast, -⟩
  rw [h.1.1.1.1.1] at hlast
  exact hlast (by decide)

/-- The example document with a base URL that has a path. -/
def proxiedDocument : JsonValue :=
  withMember (.string (ascii "http://127.0.0.1:9000/pilot%20one")) ["pilot", "base_url"]
    (configDocument (ascii "fake") (ascii "camera.fake") (ascii "optical"))

set_option maxRecDepth 100000 in
theorem targetsWellFormed_iff_strained :
    (∃ config url, strainedConfig = .ok config ∧ parseBaseUrl config.pilot.baseUrl = .ok url ∧
      ¬ TargetsWellFormed url.basePath sampleResponse.sessionId) ∧
    ∃ config url, parsed proxiedDocument = .ok config ∧ parseBaseUrl config.pilot.baseUrl = .ok url ∧
      TargetsWellFormed url.basePath sampleResponse.sessionId := by
  constructor
  · obtain ⟨config, hconfig, htest⟩ := strainedConfig_accepted
    obtain ⟨url, hurl, hiff⟩ := targetsWellFormed_iff hconfig sampleRegistration_parsed
    refine ⟨config, url, hconfig, hurl, ?_⟩
    rw [hiff]
    intro h
    exact strained_slashes htest h.1
  · obtain ⟨config, hconfig, -, htest⟩ := @accepts_spec proxiedDocument
      (fun config => decide (urlPath config.pilot.baseUrl = ascii "/pilot%20one")) (by decide +kernel)
    obtain ⟨url, hurl, hiff⟩ := targetsWellFormed_iff hconfig sampleRegistration_parsed
    refine ⟨config, url, hconfig, hurl, hiff.mpr ?_⟩
    rw [of_decide_eq_true htest]
    have hsegments : urlSegments (ascii "/pilot%20one") = [ascii "pilot%20one"] := by decide +kernel
    have hsegment : isSegment (ascii "pilot%20one") = true := by decide +kernel
    rw [hsegments, List.forall_mem_singleton, SlashesApart]
    exact ⟨⟨by decide +kernel, by decide +kernel⟩, hsegment, by decide +kernel, by decide +kernel⟩

/-- A base URL that ends in a slash gives targets that start with two. -/
theorem target_not_wellFormed : ¬ ∀ (parse responses : JsonParser) (rounding : Rounding)
    (jsonText body : ByteString) (config : VisionConfig) (response : PilotRegistrationResponse),
    parseVisionConfig parse rounding jsonText = .ok config →
      parseRegistrationResponse responses body = .ok response →
        ∃ url, parseBaseUrl config.pilot.baseUrl = .ok url ∧
          TargetsWellFormed url.basePath response.sessionId := by
  intro hall
  obtain ⟨config, hconfig, htest⟩ := strainedConfig_accepted
  obtain ⟨url, hurl, h⟩ := hall _ _ _ _ _ config sampleResponse hconfig sampleRegistration_parsed
  apply strained_slashes htest
  rw [← parseBaseUrl_basePath hurl]
  exact wellFormed_base h

end

end NodusVision.Guarantees
