import NodusVision.Config.Accepted
import NodusVision.Guarantees.PilotContract
import NodusVision.Guarantees.PilotFaults

/-! How long the Pilot client waits between two tries. -/
namespace NodusVision.Guarantees
open Text Config Pilot Transition

section
variable {setup : ClientSetup}

/-- The delays are the doubled initial delay, up to the maximal one. -/
structure BacksOff (setup : ClientSetup) : Prop where
  capped : ∀ n, 1 ≤ n → cappedDelay setup n =
    min setup.config.pilot.retryMaxDelayMs (setup.config.pilot.retryInitialDelayMs * 2 ^ (n - 1))
  /-- The product before the minimum is taken is an `int`. -/
  fits : ∀ n, setup.config.pilot.retryInitialDelayMs * 2 ^ min (n - 1) 10 ≤ 2147483647
  first : cappedDelay setup 1 = setup.config.pilot.retryInitialDelayMs
  monotone : ∀ m n, 1 ≤ m → m ≤ n → cappedDelay setup m ≤ cappedDelay setup n
  reaches : ∃ n, ∀ m, n ≤ m → cappedDelay setup m = setup.config.pilot.retryMaxDelayMs
  /-- Both loops wait for the delay of their failure count. -/
  waits : ∀ s wait, Reach Paced.IsInitial (Paced.step setup) anyStep s → s.waiting = some wait →
    1 ≤ wait.retryCount ∧ wait.delayMs = cappedDelay setup wait.retryCount

theorem pow_le_pow_of_le {m n : ℕ} (h : m ≤ n) : (2 : ℤ) ^ m ≤ 2 ^ n := by
  exact_mod_cast Nat.pow_le_pow_right (by decide) h

theorem cappedDelay_mono {m n : ℕ} (h0 : 0 ≤ setup.config.pilot.retryInitialDelayMs) (h : m ≤ n) :
    cappedDelay setup m ≤ cappedDelay setup n := by
  have hmin : min (m - 1) 10 ≤ min (n - 1) 10 := by omega
  have hmul := Int.mul_le_mul_of_nonneg_left (pow_le_pow_of_le hmin) h0
  unfold cappedDelay
  omega

theorem begins_retryCount {now : ℤ} {w : Worker} {wait : RetryWait}
    (h : Paced.begins setup now w = some wait) : 1 ≤ wait.retryCount := by
  unfold Paced.begins at h
  split at h
  · cases h
    exact Nat.succ_pos _
  · split at h
    · cases h
      exact Nat.succ_pos _
    · cases h
  · cases h

/-- A wait is for one failure at least. -/
theorem waiting_reachable {s : Paced} (h : Reach Paced.IsInitial (Paced.step setup) anyStep s) :
    ∀ wait, s.waiting = some wait → 1 ≤ wait.retryCount := by
  apply h.invariant (fun s => ∀ wait, s.waiting = some wait → 1 ≤ wait.retryCount)
  · rintro s ⟨-, hnone, -⟩ wait hwait
    cases hnone.symm.trans hwait
  · intro s event t _ hs ht _
    cases event with
    | elapse duration =>
      cases ht
      exact hs
    | client e =>
      cases e with
      | worker =>
        simp only [Paced.step] at ht
        split at ht
        · cases ht
        · obtain ⟨w, -, ht⟩ := Option.bind_eq_some_iff.mp ht
          obtain ⟨c, -, rfl⟩ := Option.map_eq_some_iff.mp ht
          intro wait hwait
          exact begins_retryCount hwait
      | startClient | updateProviderState | stopClient | cancelRequest | joinWorker | requestDone =>
        obtain ⟨c, -, rfl⟩ := Option.map_eq_some_iff.mp ht
        split
        · intro wait hwait
          cases hwait
        · exact hs

/-- Already the 12th delay shows that the maximal one is reached by the shift. -/
theorem BacksOff.bound (h : BacksOff setup) (hinitial : 1 ≤ setup.config.pilot.retryInitialDelayMs) :
    setup.config.pilot.retryMaxDelayMs ≤ 1024 * setup.config.pilot.retryInitialDelayMs := by
  have hfelt := h.capped 12 (by decide)
  have hshift : (2 : ℤ) ^ min (12 - 1) 10 = 1024 := by decide
  have hpow : (2 : ℤ) ^ (12 - 1) = 2048 := by decide
  unfold cappedDelay at hfelt
  rw [hshift, hpow] at hfelt
  omega

/-- The bound on the shift is felt exactly when the maximal delay is above 1024 initial ones. -/
theorem backsOff_iff {parse : JsonParser} {rounding : Rounding} {jsonText : ByteString}
    (hconfig : parseVisionConfig parse rounding jsonText = .ok setup.config) :
    BacksOff setup ↔
      setup.config.pilot.retryMaxDelayMs ≤ 1024 * setup.config.pilot.retryInitialDelayMs := by
  have hrange := parseVisionConfig_inRange hconfig
  have hinitial := hrange.retryInitialDelayMs
  have hmax := hrange.retryMaxDelayMs
  have hdelays := hrange.retryDelays
  have h0 : 0 ≤ setup.config.pilot.retryInitialDelayMs := by omega
  constructor
  · intro h
    exact h.bound hinitial
  · intro hle
    -- From the 11th failure on, both sides are the maximal delay.
    have hlate : ∀ exponent, 10 ≤ exponent → setup.config.pilot.retryMaxDelayMs ≤
        setup.config.pilot.retryInitialDelayMs * 2 ^ exponent := by
      intro exponent he
      have hmul := Int.mul_le_mul_of_nonneg_left (pow_le_pow_of_le he) h0
      omega
    constructor
    · intro n hn
      unfold cappedDelay
      by_cases hsmall : n - 1 ≤ 10
      · rw [min_eq_left hsmall]
      · have h10 := hlate 10 le_rfl
        have hn' := hlate (n - 1) (by omega)
        rw [min_eq_right (by omega : 10 ≤ n - 1), min_eq_left h10, min_eq_left hn']
    · intro n
      have hpow : (2 : ℤ) ^ min (n - 1) 10 ≤ 2 ^ 10 := pow_le_pow_of_le (min_le_right _ _)
      have hmul := Int.mul_le_mul_of_nonneg_left hpow h0
      omega
    · have hshift : (2 : ℤ) ^ min (1 - 1) 10 = 1 := by decide
      unfold cappedDelay
      rw [hshift]
      omega
    · intro m n _ hmn
      exact cappedDelay_mono h0 hmn
    · use 11
      intro m hm
      have h10 := hlate 10 le_rfl
      unfold cappedDelay
      rw [min_eq_right (by omega : 10 ≤ m - 1), min_eq_left h10]
    · intro s wait hs hwait
      exact ⟨waiting_reachable hs wait hwait, ((pacing_reachable hs).waiting wait hwait).1⟩

end

/-- A configuration document whose Pilot URL ends in a slash, with delays far apart. -/
def strainedDocument : JsonValue :=
  withMember (.int64 60000) ["pilot", "retry_max_delay_ms"]
    (withMember (.int64 1) ["pilot", "retry_initial_delay_ms"]
      (withMember (.string (ascii "http://127.0.0.1:9000/")) ["pilot", "base_url"]
        (configDocument (ascii "fake") (ascii "camera.fake") (ascii "optical"))))

def strainedConfig : Parsed VisionConfig := parseVisionConfig (fun _ => some strainedDocument) exact []

/-- The values of the Pilot client in the document. -/
def isStrained (config : PilotConfig) : Bool :=
  config.baseUrl == ascii "http://127.0.0.1:9000/" && config.connectTimeoutMs == 1000 &&
    config.requestTimeoutMs == 1000 && config.shutdownTimeoutMs == 1000 &&
    config.retryInitialDelayMs == 1 && config.retryMaxDelayMs == 60000

set_option maxRecDepth 100000 in
theorem strainedConfig_accepted : ∃ config, strainedConfig = .ok config ∧ isStrained config.pilot = true := by
  have h : (strainedConfig.toOption.any fun config => isStrained config.pilot) = true := by
    decide +kernel
  cases hconfig : strainedConfig with
  | error e =>
    rw [hconfig] at h
    cases h
  | ok config =>
    rw [hconfig] at h
    exact ⟨config, rfl, h⟩

def strainedSetup (config : VisionConfig) : ClientSetup where
  config := config
  geometry := unitGeometry
  parse := fun _ => none
  formatDouble := unitText

theorem backsOff_iff_strained : ∃ setup : ClientSetup, strainedConfig = .ok setup.config ∧
    setup.config.pilot.retryMaxDelayMs = 60000 ∧ ¬ BacksOff setup := by
  obtain ⟨config, hconfig, htest⟩ := strainedConfig_accepted
  simp only [isStrained, Bool.and_eq_true, beq_iff_eq] at htest
  refine ⟨strainedSetup config, hconfig, htest.2, ?_⟩
  intro h
  have hbound := (@backsOff_iff (strainedSetup config) _ _ _ hconfig).mp h
  change config.pilot.retryMaxDelayMs ≤ 1024 * config.pilot.retryInitialDelayMs at hbound
  omega

/-- After 12 failures the delay is 1024 ms and not 2048 ms. -/
theorem delay_stalls : ¬ ∀ (parse : JsonParser) (rounding : Rounding) (jsonText : ByteString)
    (setup : ClientSetup), parseVisionConfig parse rounding jsonText = .ok setup.config →
      BacksOff setup := by
  intro hall
  obtain ⟨config, hconfig, htest⟩ := strainedConfig_accepted
  simp only [isStrained, Bool.and_eq_true, beq_iff_eq] at htest
  have h := hall _ _ _ (strainedSetup config) hconfig
  have hbound := h.bound (by change 1 ≤ config.pilot.retryInitialDelayMs; omega)
  change config.pilot.retryMaxDelayMs ≤ 1024 * config.pilot.retryInitialDelayMs at hbound
  omega

end NodusVision.Guarantees
