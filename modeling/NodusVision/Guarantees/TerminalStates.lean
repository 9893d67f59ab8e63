import NodusVision.Guarantees.Quiescence
import NodusVision.Manager.Histories

/-! A recording that has ended stays as it ended for the rest of its process. -/
namespace NodusVision.Guarantees
open Text Storage Program Recording Manager Transition

/-- No API closer fails to write its stop evidence, no activation fails after its rename, and no
replay restores an artifact while a worker runs. -/
structure KeepsPhases (s : System) : Prop where
  evidence : ¬s.lifecycle.EvidenceFailed
  activation : ¬s.lifecycle.ActivationFailed
  replay : ¬s.lifecycle.Displaces

section Runs
variable {setup : Setup} {s t : System}

theorem recordings_reachable
    (h : Reach (IsInitial setup) (System.step setup) (fun s _ _ => KeepsPhases s) s) :
    s.lifecycle.Placed ∧ s.lifecycle.Named := by
  refine h.invariant (fun s => s.lifecycle.Placed ∧ s.lifecycle.Named) ?_ ?_
  · rintro s ⟨machine, -, rfl⟩
    constructor
    · exact ⟨fun _ hw => (by cases hw), fun hf => (by cases hf), fun _ _ hid => (by cases hid),
        fun _ _ _ hid => by cases hid⟩
    · exact ⟨fun _ _ hid => (by cases hid), fun _ _ hid => (by cases hid), fun _ _ hc => by cases hc⟩
  · intro s e t hs hi he hok
    have hk := control_reachable hs
    have hst := storage_reachable hs
    have hatt := attended_reachable (fun _ _ _ hok => ⟨hok.activation, hok.replay⟩) hs
    have hpr := pressed_reachable (fun _ _ _ hok => hok.evidence) hs
    obtain ⟨hn, hown⟩ := numbered_reachable hs
    have hnext := step_next hk hst he
    constructor
    · exact placed_next hk hst hatt hpr hn hown hi.1 hok.replay hnext
    · exact named_next hst hn hi.2 hnext

theorem moved_step (h : Reach (IsInitial setup) (System.step setup) (fun s _ _ => KeepsPhases s) s)
    {e : Event} (hgoes : Goes s e) (he : s.step setup e = some t) :
    s.lifecycle.Moved t.lifecycle := by
  have hk := control_reachable h
  have hst := storage_reachable h
  have hpr := pressed_reachable (fun _ _ _ hok => hok.evidence) h
  obtain ⟨hn, -⟩ := numbered_reachable h
  obtain ⟨hpl, hna⟩ := recordings_reachable h
  exact moved_next hk hst hpr hn hna hpl (idle_of_step hgoes he) (step_next hk hst he)

end Runs

/-- In runs of such steps every recording of a process goes through its states in order, and one
that has ended stays as it is until the process ends; one that has failed is never finalized. -/
theorem failed_stays_failed {setup : Setup} {s : System}
    (h : Reach (IsInitial setup) (System.step setup) (fun s _ _ => KeepsPhases s) s) :
    (s.impl.state ≠ .idle → s.history.phase s.history.current = some s.impl.state) ∧
    (∀ w, s.worker = some w → w.pc.isLive = true →
      s.history.owner w.recordingId = some s.history.current) ∧
    (∀ e t, Goes s e → s.step setup e = some t → s.lifecycle.Moved t.lifecycle) ∧
    ∀ n p, (p = .finalized ∨ p = .faulted) → s.history.phase n = some p → ∀ t,
      Reach (fun u => u = s) (System.step setup) (fun u e _ => KeepsPhases u ∧ Goes u e) t →
      t.history.phase n = some p ∧
        (p = .faulted → ∀ id, s.history.owner id = some n → ¬Finalized t.machine.disk id) := by
  obtain ⟨hn, -⟩ := numbered_reachable h
  refine ⟨hn.current, (recordings_reachable h).1.owned, fun e t hgoes he => moved_step h hgoes he, ?_⟩
  intro n p hp hphase t ht
  -- the phase and the owners of the recording last as long as the process
  have hlast : Reach (IsInitial setup) (System.step setup) (fun s _ _ => KeepsPhases s) t ∧
      t.history.phase n = some p ∧
      ∀ id, s.history.owner id = some n → t.history.owner id = some n := by
    refine ht.invariant (fun t => Reach (IsInitial setup) (System.step setup)
      (fun s _ _ => KeepsPhases s) t ∧ t.history.phase n = some p ∧
      ∀ id, s.history.owner id = some n → t.history.owner id = some n) ?_ ?_
    · rintro u rfl
      exact ⟨h, hphase, fun _ hid => hid⟩
    · intro u e u' _ hi he hok
      obtain ⟨hu, hph, hown⟩ := hi
      have hmoved := moved_step hu hok.2 he
      have hmove : PhaseMove (u.history.phase n) (u'.history.phase n) := hmoved.phase n
      rw [hph] at hmove
      exact ⟨hu.next he hok.1, hmove.terminal hp, fun id hid => hmoved.owner id n (hown id hid)⟩
  obtain ⟨hreach, hph, hown⟩ := hlast
  refine ⟨hph, ?_⟩
  rintro rfl id hid
  exact (recordings_reachable hreach).1.unfinished id n _ (hown id hid) hph nofun nofun

/-- No API closer has failed to write its evidence, no activation has failed, and no stop has found
a finalized artifact. -/
def keepsPhases (s : System) : Bool :=
  (match s.holder.bind Call.closing with
  | some (_, .evidence (.throw _)) => false
  | _ => true) &&
  (match s.worker with
  | some ⟨_, .closing (.activate (.throw _))⟩ => false
  | _ => true) &&
  match s.holder with
  | some (.stopLookup _ (.pure (some artifact))) => !artifact.finalized
  | _ => true

theorem keepsPhases_sound {s : System} (h : keepsPhases s = true) : KeepsPhases s := by
  simp only [keepsPhases, Bool.and_eq_true] at h
  constructor
  · rintro ⟨call, closer, e, hh, hc⟩
    have hh : s.holder = some call := hh
    simp [hh, hc] at h
  · rintro ⟨w, e, hw, hpc, -⟩
    have hw : s.worker = some w := hw
    obtain ⟨id, pc⟩ := w
    cases hpc
    simp [hw] at h
  · rintro ⟨request, artifact, w, hh, hfin, -⟩
    have hh : s.holder = some (.stopLookup request (.pure (some artifact))) := hh
    simp [hh, hfin] at h

set_option maxRecDepth 100000 in
/-- A recording that is stopped and whose finalization fails at a file step. -/
theorem failed_stays_failed_stopped : ∃ s : System, s.impl.state = .faulted ∧
    s.history.phase s.history.current = some .faulted := by
  obtain ⟨s, hs, htest⟩ := sample_reach (fun s _ _ => KeepsPhases s) keepsPhases
    (fun s => s.impl.state = .faulted) (fun _ _ _ => keepsPhases_sound)
    (recorded ++ stopped ++ works 32 ++ [.workerStep failing] ++ works 2) (by decide +kernel)
  have hst : s.impl.state = .faulted := of_decide_eq_true htest
  have hphase := (failed_stays_failed hs).1 (by simp [hst])
  rw [hst] at hphase
  exact ⟨s, hst, hphase⟩

set_option maxRecDepth 100000 in
/-- The evidence of a client stop cannot be written; the recording faults and is then finalized. -/
theorem failed_finalized : ∃ s t n id,
    Reach (IsInitial sampleSetup) (System.step sampleSetup) anyStep s ∧
    s.history.phase n = some .faulted ∧ s.history.owner id = some n ∧
    Reach (fun u => u = s) (System.step sampleSetup) (fun u e _ => Goes u e) t ∧
    t.history.phase n = some .finalized ∧ Finalized t.machine.disk id := by
  obtain ⟨s, hs, htest⟩ := sample_reach anyStep (fun _ => true)
    (fun s => s.history.phase 1 = some .faulted && s.history.owner (ascii "take-1") = some 1 &&
      (runEvents (System.step sampleSetup) (fun _ _ => true) s (works 52)).any fun t =>
        t.history.phase 1 = some .finalized &&
          decide (t.machine.disk (.artifact .finalized (ascii "take-1")) = some .directory))
    (fun _ _ _ _ => trivial) (recorded ++ stoppedWithoutEvidence) (by decide +kernel)
  simp only [Bool.and_eq_true, decide_eq_true_eq] at htest
  obtain ⟨⟨hphase, howner⟩, hrun⟩ := htest
  have hstart : Reach (fun u => u = s) (System.step sampleSetup) (fun u e _ => Goes u e) s :=
    .start rfl
  have hgoes : ∀ e ∈ works 52, ∀ u u', (fun (u : System) e (_ : System) => Goes u e) u e u' := by
    intro e he _ _
    rw [List.eq_of_mem_replicate he]
    exact ⟨nofun, nofun⟩
  obtain ⟨t, ht, htest⟩ := hstart.exists_run_all hgoes hrun
  simp only [Bool.and_eq_true, decide_eq_true_eq] at htest
  exact ⟨s, t, 1, ascii "take-1", hs, hphase, howner, ht, htest.1, htest.2⟩

end NodusVision.Guarantees
