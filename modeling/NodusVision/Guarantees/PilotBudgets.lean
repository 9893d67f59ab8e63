import NodusVision.Guarantees.Backoff
import NodusVision.Guarantees.PilotResponses
import NodusVision.Pilot.Budget

/-! Whether the deadlines of one request fit the times that it is given. -/
namespace NodusVision.Guarantees
open Text Config Pilot

/-- A disconnect fits the time to stop, and a lifecycle write fits the lease after a heartbeat interval. -/
def KeepsDeadlines (config : PilotConfig) (response : PilotRegistrationResponse) : Prop :=
  ∃ budget, IsGreatest (Http.budgets (Http.clientBounds config)) budget ∧
    budget ≤ config.shutdownTimeoutMs ∧
    response.heartbeatIntervalMs + budget < response.leaseTimeoutMs

theorem keepsDeadlines_of_inRange {config : PilotConfig} {response : PilotRegistrationResponse}
    (h : config.InRange) : KeepsDeadlines config response ↔
      2 * (config.connectTimeoutMs + min config.requestTimeoutMs config.shutdownTimeoutMs) ≤
        config.shutdownTimeoutMs ∧
      response.heartbeatIntervalMs +
        2 * (config.connectTimeoutMs + min config.requestTimeoutMs config.shutdownTimeoutMs) <
          response.leaseTimeoutMs := by
  have hconnect := h.connectTimeoutMs
  have hrequest := h.requestTimeoutMs
  have hshutdown := h.shutdownTimeoutMs
  have hgreatest : IsGreatest (Http.budgets (Http.clientBounds config))
      (2 * (config.connectTimeoutMs + min config.requestTimeoutMs config.shutdownTimeoutMs)) := by
    apply Http.isGreatest_budgets
    · show 0 ≤ config.connectTimeoutMs
      omega
    · show 0 ≤ min config.requestTimeoutMs config.shutdownTimeoutMs
      omega
  constructor
  · rintro ⟨budget, hbudget, hfits⟩
    rw [hgreatest.unique hbudget]
    exact hfits
  · intro hfits
    exact ⟨_, hgreatest, hfits⟩

/-- Each of the four operations of a request has a deadline of its own. -/
theorem keepsDeadlines_iff {parse responses : JsonParser} {rounding : Rounding}
    {jsonText body : ByteString} {config : VisionConfig} {response : PilotRegistrationResponse}
    (hconfig : parseVisionConfig parse rounding jsonText = .ok config)
    (_ : parseRegistrationResponse responses body = .ok response) :
    KeepsDeadlines config.pilot response ↔
      2 * (config.pilot.connectTimeoutMs +
        min config.pilot.requestTimeoutMs config.pilot.shutdownTimeoutMs) ≤
          config.pilot.shutdownTimeoutMs ∧
      response.heartbeatIntervalMs + 2 * (config.pilot.connectTimeoutMs +
        min config.pilot.requestTimeoutMs config.pilot.shutdownTimeoutMs) <
          response.leaseTimeoutMs :=
  keepsDeadlines_of_inRange (parseVisionConfig_inRange hconfig)

/-- The example document with a minute to stop. -/
def relaxedDocument : JsonValue :=
  withMember (.int64 60000) ["pilot", "shutdown_timeout_ms"]
    (configDocument (ascii "fake") (ascii "camera.fake") (ascii "optical"))

/-- A response with a lease of a minute. -/
def relaxedResponse : PilotRegistrationResponse := { sampleResponse with leaseTimeoutMs := 60000 }

theorem relaxedRegistration_parsed :
    parseRegistrationResponse (fun _ => some (withMember (.int64 60000) ["lease_timeout_ms"]
      (.object (sampleRegistration [.int64 1])))) [] = .ok relaxedResponse := by
  rfl

set_option maxRecDepth 100000 in
theorem keepsDeadlines_iff_strained :
    (∃ config, strainedConfig = .ok config ∧ config.pilot.shutdownTimeoutMs = 1000 ∧
      ¬ KeepsDeadlines config.pilot sampleResponse) ∧
    ∃ config, parsed relaxedDocument = .ok config ∧ config.pilot.shutdownTimeoutMs = 60000 ∧
      KeepsDeadlines config.pilot relaxedResponse := by
  constructor
  · obtain ⟨config, hconfig, htest⟩ := strainedConfig_accepted
    simp only [isStrained, Bool.and_eq_true, beq_iff_eq] at htest
    refine ⟨config, hconfig, by omega, ?_⟩
    rw [keepsDeadlines_iff hconfig sampleRegistration_parsed]
    omega
  · obtain ⟨config, hconfig, -, htest⟩ := @accepts_spec relaxedDocument
      (fun config => config.pilot.connectTimeoutMs == 1000 && config.pilot.requestTimeoutMs == 1000 &&
        config.pilot.shutdownTimeoutMs == 60000) (by decide +kernel)
    simp only [Bool.and_eq_true, beq_iff_eq] at htest
    obtain ⟨⟨hconnect, hrequest⟩, hshutdown⟩ := htest
    refine ⟨config, hconfig, hshutdown, (keepsDeadlines_iff hconfig relaxedRegistration_parsed).mpr ?_⟩
    rw [hconnect, hrequest, hshutdown]
    decide

/-- A disconnect may take four seconds where one is left, and a lifecycle write as long where the lease
ends after a tenth of a second. -/
theorem deadlines_overrun : ¬ ∀ (parse responses : JsonParser) (rounding : Rounding)
    (jsonText body : ByteString) (config : VisionConfig) (response : PilotRegistrationResponse),
    parseVisionConfig parse rounding jsonText = .ok config →
      parseRegistrationResponse responses body = .ok response →
        KeepsDeadlines config.pilot response := by
  intro hall
  obtain ⟨config, hconfig, htest⟩ := strainedConfig_accepted
  simp only [isStrained, Bool.and_eq_true, beq_iff_eq] at htest
  have h := hall _ _ _ _ _ config sampleResponse hconfig sampleRegistration_parsed
  have hfits := (keepsDeadlines_of_inRange (parseVisionConfig_inRange hconfig)).mp h
  omega

end NodusVision.Guarantees
