import NodusVision.Guarantees.PilotResponses
import NodusVision.Pilot.HeartbeatClock

/-! When the next heartbeat is due. -/
namespace NodusVision.Guarantees
open Text Storage Program Pilot Transition

/-- The deadline is the exact sum, after the present, and later for a longer interval. -/
structure DeadlineExact (nowNs : ℤ) (intervalMs : ℕ) : Prop where
  interval : IsInt64 (intervalMs * 1000000)
  sum : IsInt64 (nowNs + intervalMs * 1000000)
  exact : nextHeartbeat nowNs intervalMs = nowNs + intervalMs * 1000000
  after : nowNs < nextHeartbeat nowNs intervalMs
  monotone : ∀ m n, 1 ≤ m → m ≤ n → n ≤ intervalMs → nextHeartbeat nowNs m ≤ nextHeartbeat nowNs n

section
variable {parse : JsonParser} {body : ByteString} {response : PilotRegistrationResponse}

theorem registration_positive (h : parseRegistrationResponse parse body = .ok response) :
    1 ≤ response.heartbeatIntervalMs := by
  simp only [parseRegistrationResponse, bind_eq_ok, ensure_eq_ok, requireJsonObject_eq_ok,
    ← hasIdentifier_iff, requireNonNegativeInteger_eq_ok, requireSchemaVersions_eq_ok,
    acceptsSchemaOne_eq_ok, Bool.and_eq_true, beq_iff_eq, bne_iff_ne, decide_eq_true_eq] at h
  obtain ⟨_, -, -, -, -, -, -, -, _, -, _, -, _, -, _, -, _, -, _, -, _, -, -,
    ⟨⟨⟨-, hpositive⟩, -⟩, -⟩, h⟩ := h
  cases h
  exact Nat.one_le_iff_ne_zero.mpr hpositive

theorem nextHeartbeat_eq {nowNs : ℤ} {intervalMs : ℕ} (h0 : 0 ≤ nowNs)
    (h : nowNs + intervalMs * 1000000 < 2 ^ 63) :
    nextHeartbeat nowNs intervalMs = nowNs + intervalMs * 1000000 := by
  have hms : int64 intervalMs = intervalMs := by
    apply int64_of_isInt64
    constructor <;> omega
  have hns : int64 ((intervalMs : ℤ) * 1000000) = intervalMs * 1000000 := by
    apply int64_of_isInt64
    constructor <;> omega
  unfold nextHeartbeat intervalNs
  rw [hms, hns]
  apply int64_of_isInt64
  constructor <;> omega

theorem deadlineExact_iff {nowNs : ℤ} {intervalMs : ℕ} (h0 : 0 ≤ nowNs) (hpositive : 1 ≤ intervalMs) :
    DeadlineExact nowNs intervalMs ↔ nowNs + intervalMs * 1000000 < 2 ^ 63 := by
  constructor
  · intro h
    exact h.sum.2
  · intro h
    have hexact := nextHeartbeat_eq h0 h
    constructor
    · constructor <;> omega
    · constructor <;> omega
    · exact hexact
    · rw [hexact]
      omega
    · intro m n _ hmn hn
      rw [nextHeartbeat_eq h0 (by omega : nowNs + m * 1000000 < 2 ^ 63),
        nextHeartbeat_eq h0 (by omega : nowNs + n * 1000000 < 2 ^ 63)]
      omega

/-- The clock starts at any time that is not negative. -/
def SessionStarts (intervalMs : ℕ) (s : SessionClock) : Prop :=
  ∃ nowNs : ℤ, 0 ≤ nowNs ∧ nowNs + intervalMs * 1000000 < 2 ^ 63 ∧
    s = SessionClock.start intervalMs nowNs

/-- The deadline is taken before the clock is too near its limit. -/
def DeadlineFits (intervalMs : ℕ) (s : SessionClock) (_ : ClockEvent) (_ : SessionClock) : Prop :=
  s.nowNs + intervalMs * 1000000 < 2 ^ 63

theorem clock_reachable {intervalMs : ℕ} {s : SessionClock}
    (h : Reach (SessionStarts intervalMs) (SessionClock.step intervalMs) (DeadlineFits intervalMs) s) :
    0 ≤ s.nowNs ∧ s.Inv intervalMs := by
  apply h.invariant (fun s => 0 ≤ s.nowNs ∧ s.Inv intervalMs)
  · rintro s ⟨nowNs, hnow, -, rfl⟩
    exact ⟨hnow, SessionClock.inv_start⟩
  · rintro s event t - ⟨hnow, hinv⟩ ht hfits
    constructor
    · have hle := SessionClock.nowNs_step ht
      omega
    · exact hinv.step (nextHeartbeat_eq hnow hfits) ht

/-- The deadline of a heartbeat is exact as long as it fits 64 bits, and then heartbeats are the accepted
interval apart. -/
theorem deadlines_exact_iff (h : parseRegistrationResponse parse body = .ok response) :
    (∀ nowNs : ℤ, 0 ≤ nowNs → nowNs < 2 ^ 62 →
      (DeadlineExact nowNs response.heartbeatIntervalMs ↔
        nowNs + response.heartbeatIntervalMs * 1000000 < 2 ^ 63)) ∧
    ∀ s, Reach (SessionStarts response.heartbeatIntervalMs)
      (SessionClock.step response.heartbeatIntervalMs) (DeadlineFits response.heartbeatIntervalMs) s →
        s.Spaced response.heartbeatIntervalMs := by
  have hpositive := registration_positive h
  constructor
  · intro nowNs hnow _
    exact deadlineExact_iff hnow hpositive
  · intro s hs
    exact (clock_reachable hs).2.spaced

theorem deadlines_exact_iff_sample : DeadlineExact 0 sampleResponse.heartbeatIntervalMs :=
  ((deadlines_exact_iff sampleRegistration_parsed).1 0 (by decide) (by decide)).mpr (by decide)

end

/-- A registration response with the longest lease. -/
def endlessRegistration : JsonObject :=
  [(ascii "session_id", .string (ascii "session")),
    (ascii "server_instance_id", .string (ascii "pilot")),
    (ascii "accepted_protocol_version", .int64 1),
    (ascii "accepted_schema_versions", .array [.int64 1]),
    (ascii "heartbeat_interval_ms", .int64 9223372036855),
    (ascii "lease_timeout_ms", .int64 9223372036856), (ascii "server_time", .int64 0)]

/-- The deadline is three centuries in the past. -/
theorem deadline_wraps : ¬ ∀ (parse : JsonParser) (body : ByteString)
    (response : PilotRegistrationResponse), parseRegistrationResponse parse body = .ok response →
      ∀ nowNs : ℤ, 0 ≤ nowNs → nowNs < 2 ^ 62 →
        DeadlineExact nowNs response.heartbeatIntervalMs := by
  intro hall
  have hparsed : parseRegistrationResponse (fun _ => some (.object endlessRegistration)) [] =
      .ok ⟨ascii "session", ascii "pilot", 9223372036855, 9223372036856, 0⟩ := by
    rfl
  have h := (hall _ _ _ hparsed 0 (by decide) (by decide)).after
  have hnext : nextHeartbeat 0 9223372036855 = -9223372036854551616 := by decide
  exact absurd (hnext ▸ h) (by decide)

end NodusVision.Guarantees
