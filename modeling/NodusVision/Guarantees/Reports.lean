import NodusVision.Guarantees.Quiescence
import NodusVision.Manager.Reports

/-! Whether the state that a status request is told agrees with the storage. -/
namespace NodusVision.Guarantees
open Text Storage Program Recording Manager Transition

/-- The status is the one that `getStatus` answers, whatever it counts in staging. -/
structure StatusAgrees (s : System) : Prop where
  finalized : ∀ n, (s.getStatus n).state = .finalized →
    s.machine.disk (.artifact .finalized (s.getStatus n).recordingId) ≠ none
  faulted : ∀ n, (s.getStatus n).state = .faulted → ¬s.lifecycle.Activating →
    s.machine.disk (.artifact .finalized (s.getStatus n).recordingId) = none

/-- No activation fails after its rename, no start fails over a finalized recording, and no replay
restores an artifact while a worker runs. -/
structure KeepsReports (s : System) : Prop where
  activation : ¬s.lifecycle.ActivationFailed
  start : ¬s.lifecycle.StartFailedOver
  replay : ¬s.lifecycle.Displaces

/-- In runs of such steps the reported state agrees with the storage. -/
theorem reports_agree {setup : Setup} {s : System}
    (h : Reach (IsInitial setup) (System.step setup) (fun s _ _ => KeepsReports s) s) :
    StatusAgrees s := by
  have hk := control_reachable h
  have hs := storage_reachable h
  have hl := truthful_reachable h
  have hatt := attended_reachable (fun _ _ _ hok => ⟨hok.activation, hok.replay⟩) h
  have hapart := faultedApart_reachable
    (fun _ _ _ hok => ⟨hok.activation, hok.start, hok.replay⟩) h
  constructor
  · intro n hst
    have hf : s.machine.disk (.artifact .finalized s.impl.recordingId) = some .directory :=
      hl.finalized hst
    exact fun hnone => by cases hnone.symm.trans hf
  · intro n hst hact
    by_contra hne
    have hf := finalized_of_ne hs.wellFormed hne
    by_cases hlive : ∃ w, s.worker = some w ∧ w.pc.isLive = true
    · obtain ⟨w, hw, hlive⟩ := hlive
      exact not_finalized_of_live hk hs hatt hw hlive hact hf
    · refine hapart hst (fun w hw => ?_) hf
      by_contra hlive'
      exact hlive ⟨w, hw, eq_true_of_ne_false hlive'⟩

/-- No activation has failed, no start is at its catch, and no stop has found a finalized one. -/
def keepsReports (s : System) : Bool :=
  (match s.worker with
  | some ⟨_, .closing (.activate (.throw _))⟩ => false
  | _ => true) &&
  match s.holder with
  | some (.startFailed _ _) => false
  | some (.stopLookup _ (.pure (some artifact))) => !artifact.finalized
  | _ => true

theorem keepsReports_sound {s : System} (h : keepsReports s = true) : KeepsReports s := by
  simp only [keepsReports, Bool.and_eq_true] at h
  constructor
  · rintro ⟨w, e, hw, hpc, -⟩
    have hw : s.worker = some w := hw
    obtain ⟨id, pc⟩ := w
    cases hpc
    simp [hw] at h
  · rintro ⟨request, e, hh, -⟩
    have hh : s.holder = some (.startFailed request e) := hh
    simp [hh] at h
  · rintro ⟨request, artifact, w, hh, hfin, -⟩
    have hh : s.holder = some (.stopLookup request (.pure (some artifact))) := hh
    simp [hh, hfin] at h

set_option maxRecDepth 100000 in
/-- A recording that is stopped and finalized. -/
theorem reports_agree_finalized : ∃ s : System, s.impl.state = .finalized ∧ StatusAgrees s := by
  obtain ⟨s, hs, htest⟩ := sample_reach (fun s _ _ => KeepsReports s) keepsReports
    (fun s => decide (s.impl.state = .finalized)) (fun _ _ _ => keepsReports_sound)
    (recorded ++ stopped ++ works 52) (by decide +kernel)
  exact ⟨s, of_decide_eq_true htest, reports_agree hs⟩

/-- The next start finds no free space. -/
def startedWithoutSpace : List Event :=
  [.call (.start (request "start-2" "take-2"))] ++ calls 11 ++ [.callStep failing] ++ calls 3

set_option maxRecDepth 100000 in
/-- It faults the recorder, which still reports the id of the finalized recording. -/
theorem reports_disagree : ∃ s, Reach (IsInitial sampleSetup) (System.step sampleSetup) anyStep s ∧
    s.mutexFree = true ∧ (s.getStatus 0).state = .faulted ∧ ¬StatusAgrees s := by
  obtain ⟨s, hs, htest⟩ := sample_reach anyStep (fun _ => true)
    (fun s => s.mutexFree && s.worker.isNone && s.impl.state = .faulted &&
      (s.machine.disk (.artifact .finalized s.impl.recordingId)).isSome)
    (fun _ _ _ _ => trivial) (recorded ++ stopped ++ works 52 ++ startedWithoutSpace)
    (by decide +kernel)
  simp only [Bool.and_eq_true, decide_eq_true_eq, Option.isSome_iff_ne_none,
    Option.isNone_iff_eq_none] at htest
  obtain ⟨⟨⟨hfree, hworker⟩, hst⟩, hdisk⟩ := htest
  refine ⟨s, hs, hfree, hst, ?_⟩
  intro h
  refine hdisk (h.faulted 0 hst ?_)
  rintro ⟨w, hw, -⟩
  cases hworker.symm.trans hw

end NodusVision.Guarantees
