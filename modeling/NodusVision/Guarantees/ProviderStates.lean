import NodusVision.Application.Lifecycle

/-! The order of the provider states under shutdown, and the failure that overtakes a stop. -/
namespace NodusVision.Application
open Pilot Transition

theorem not_orderly {later earlier : List Notice} {notice : Notice}
    (hdegraded : notice.isDegraded = true) (hstopping : isStopping earlier = true) :
    ¬ Orderly (later ++ notice :: earlier) := by
  intro h
  rw [h.final later notice earlier rfl hdegraded] at hstopping
  cases hstopping

theorem not_orderly_cons {earlier : List Notice} {notice : Notice}
    (hdegraded : notice.isDegraded = true) (hstopping : isStopping earlier = true) :
    ¬ Orderly (notice :: earlier) := by
  rw [← List.nil_append (notice :: earlier)]
  exact not_orderly hdegraded hstopping

/-- A failure in flight is noticed after the stop that it was in flight for. -/
theorem overtaken {s t : Lifecycle} (hstarted : s.started = true) (hflight : FailureInFlight s)
    (h : s.step .stopApplication = some t) :
    ∃ u, t.step (.capture false) = some u ∧ ¬ Orderly u.trace := by
  have ht : t = { s.setState .stopping with
      started := false, stopRequested := true, owner := .notifying } := by
    unfold Lifecycle.step Lifecycle.stopApplication at h
    dsimp only at h
    split at h
    · cases h
    · rw [hstarted, if_neg (Bool.noConfusion : true ≠ false)] at h
      exact (Option.some.inj h).symm
  have hstopping : isStopping (.healthState .stopping :: s.trace) = true := rfl
  rcases hflight with hfailing | ⟨hnotifying, hpilot⟩
  · have hstep : (t.step (.capture false)).map Lifecycle.trace =
        some (.healthState .degraded :: .healthState .stopping :: s.trace) := by
      rw [ht]
      simp [Lifecycle.step, Lifecycle.continueCapture, Lifecycle.setState, Lifecycle.setError,
        hfailing, OwnerPoint.holdsMutex]
    obtain ⟨u, hu, htrace⟩ := Option.map_eq_some_iff.mp hstep
    exact ⟨u, hu, htrace ▸ not_orderly_cons rfl hstopping⟩
  · have hstep : (t.step (.capture false)).map Lifecycle.trace =
        some (.updateProviderState .degraded :: .healthState .stopping :: s.trace) := by
      rw [ht]
      simp [Lifecycle.step, Lifecycle.continueCapture, Lifecycle.setState,
        Lifecycle.updateProviderState, hnotifying, hpilot]
    obtain ⟨u, hu, htrace⟩ := Option.map_eq_some_iff.mp hstep
    exact ⟨u, hu, htrace ▸ not_orderly_cons rfl hstopping⟩

/-- Where every stop finds no failure in flight, the provider states are in order; where a stop
finds one, the next step of the capture thread breaks the order. -/
theorem providerStates_orderly {s : Lifecycle} (h : LifecycleReachable StopsQuietly s) :
    Orderly s.trace ∧ s.health.state = currentState s.trace ∧
      (isStopping s.trace = true → s.health.state = .stopping) ∧
      ∀ t, s.started = true → FailureInFlight s → s.step .stopApplication = some t →
        ∃ u, t.step (.capture false) = some u ∧ ¬ Orderly u.trace := by
  have hi := lifecycleInvariant_reachable h
  refine ⟨hi.orderly, hi.current, ?_, ?_⟩
  · intro hstopping
    rw [hi.current]
    exact currentState_of_isStopping hi.orderly hstopping
  · intro t hstarted hflight ht
    exact overtaken hstarted hflight ht

/-- A start that succeeds, and a capture failure that has passed its test of the stop flag -/
def sampleFailing : List LifecycleEvent :=
  [.startApplication, .owner true, .owner true, .owner true, .owner true, .owner true,
    .capture true, .capture false, .capture false]

def quietly (s : Lifecycle) (e : LifecycleEvent) : Bool :=
  decide (e = .stopApplication → s.started = true → ¬ FailureInFlight s)

theorem quietly_sound (s : Lifecycle) (e : LifecycleEvent) (t : Lifecycle)
    (h : quietly s e = true) (_ : s.step e = some t) : StopsQuietly s e t := by
  intro he hstarted
  exact of_decide_eq_true h he hstarted

/-- The failure is handled before the stop. -/
def stoppedTrace : List Notice :=
  [.updateProviderState .stopping, .healthState .stopping, .updateProviderState .degraded,
    .healthState .degraded, .healthState .ready, .startApplication]

theorem providerStates_orderly_sample : ∃ s, LifecycleReachable StopsQuietly s ∧
    s.trace = stoppedTrace ∧ Orderly s.trace ∧ s.health.state = .stopping := by
  have hr : LifecycleReachable StopsQuietly {} := .start rfl
  have hrun : (runEvents Lifecycle.step quietly {} (sampleFailing ++
      [.capture false, .capture false, .stopApplication, .owner true])).any
      (fun s => s.trace = stoppedTrace) = true := by decide
  obtain ⟨s, hs, ht⟩ := Reach.exists_run quietly_sound hr hrun
  have htrace : s.trace = stoppedTrace := of_decide_eq_true ht
  obtain ⟨horderly, _, hstopping, _⟩ := providerStates_orderly hs
  have hstate : s.health.state = .stopping := by
    apply hstopping
    rw [htrace]
    rfl
  exact ⟨s, hs, htrace, horderly, hstate⟩

/-- The stop comes between the test of the stop flag and the change of the state. -/
def overtakenTrace : List Notice :=
  [.updateProviderState .degraded, .healthState .degraded, .healthState .stopping,
    .healthState .ready, .startApplication]

theorem stopping_overtaken : ∃ s, LifecycleReachable anyStep s ∧ s.health.state = .degraded ∧
    s.trace = overtakenTrace ∧ ¬ Orderly s.trace := by
  have hr : LifecycleReachable anyStep {} := .start rfl
  have hrun : (runEvents Lifecycle.step (fun _ _ => true) {} (sampleFailing ++
      [.stopApplication, .capture false, .capture false])).any
      (fun s => s.health.state = .degraded ∧ s.trace = overtakenTrace) = true := by decide
  obtain ⟨s, hs, ht⟩ := Reach.exists_run (fun _ _ _ _ _ => trivial) hr hrun
  obtain ⟨hstate, htrace⟩ : s.health.state = .degraded ∧ s.trace = overtakenTrace :=
    of_decide_eq_true ht
  refine ⟨s, hs, hstate, htrace, ?_⟩
  rw [htrace]
  exact not_orderly_cons rfl rfl

end NodusVision.Application
