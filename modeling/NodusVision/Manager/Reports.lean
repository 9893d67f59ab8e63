import NodusVision.Manager.Attended

/-! The state that the recorder reports, and where the artifact of the recording is. -/
namespace NodusVision.Manager
open Text Storage Disk Program Recording RecordingStore Transition

namespace Lifecycle

/-- The worker has renamed its artifact and has not yet stored its state. -/
def Activating (v : Lifecycle) : Prop :=
  ∃ w, v.worker = some w ∧
    ((∃ p, w.pc = .closing (.activate p)) ∨ w.pc = .closing .publish) ∧
    Finalized v.disk w.recordingId

/-- A recorder whose worker has returned reports FAULTED only for an artifact that is staged. -/
def FaultedApart (v : Lifecycle) : Prop :=
  v.state = .faulted → (∀ w, v.worker = some w → w.pc.isLive = false) →
    ¬Finalized v.disk v.recordingId

theorem Moves.to_live {v : Lifecycle} {pc pc' : WorkerPc} (h : v.Moves pc pc') :
    pc'.isLive = true := by
  cases h with
  | within => rfl
  | _ => rfl

end Lifecycle

section Steps
variable {setup : Setup} {s t : System} {v' : Lifecycle}

open Lifecycle

theorem recordingId_of_live {w : Worker} (hk : s.core.Control) (h : s.lifecycle.Attended)
    (hw : s.worker = some w) (hlive : w.pc.isLive = true) :
    s.impl.recordingId = w.recordingId :=
  (session_of_live hk hw hlive (h.session w hw hlive)).1

/-- While the worker runs, only its activation moves the artifact of the current recording. -/
theorem not_finalized_of_live {w : Worker} (hk : s.core.Control) (hs : s.Storage setup)
    (h : s.lifecycle.Attended) (hw : s.worker = some w) (hlive : w.pc.isLive = true)
    (ha : ¬s.lifecycle.Activating) : ¬Finalized s.machine.disk s.impl.recordingId := by
  rw [recordingId_of_live hk h hw hlive]
  by_cases hpub : (∃ p, w.pc = .closing (.activate p)) ∨ w.pc = .closing .publish
  · exact fun hf => ha ⟨w, hw, hpub, hf⟩
  · by_cases hpc : w.pc = .fault
    · exact h.failing w hw hpc
    · obtain ⟨hact, hpub⟩ := not_or.mp hpub
      exact staged_not_finalized hs
        (staged_of_worker hs hw hlive hpc (fun p hp => hact ⟨p, hp⟩) hpub)

theorem faultedApart_next (hk : s.core.Control) (hs : s.Storage setup)
    (hatt : s.lifecycle.Attended) (h : s.lifecycle.FaultedApart)
    (hok : ¬s.lifecycle.StartFailedOver) (hn : s.lifecycle.Next v') : v'.FaultedApart := by
  cases hn with
  | tick | enter | reject | answer | repeated | await | started | create => exact h
  | proceed d hh hf hd =>
    intro hst hdead
    exact (KeepsFinal.of_changes hd (Call.writes_keep _)).not_finalized (h hst hdead)
  | joined hdead | startJoined hh hdead => exact fun hst _ => h hst hdead
  | @startRestored request canonical artifact hh hw hc heq hheld =>
    intro hst _
    have hstaged : artifact.finalized = false := by
      cases hf : artifact.finalized with
      | false => rfl
      | true =>
        have hst : (if artifact.finalized then RecordingState.finalized else .faulted) =
          .faulted := hst
        rw [hf] at hst
        cases hst
    rw [hstaged] at hheld
    have hdir : Staged s.machine.disk request.recordingId := hheld.directory
    intro hf
    cases (hdir.not_finalized hs.wellFormed).symm.trans hf
  | stopRestored | record | finalized | exit => exact nofun
  | prepare => exact nofun
  | publish hh hw hst | spawn hh hw hst =>
    intro hf
    cases hst.symm.trans hf
  | startFailed hh hw hst => exact fun _ _ hf => hok ⟨_, _, hh, hf⟩
  | beginPoint hh hc hc' hf hb =>
    obtain ⟨-, hflags⟩ := closing_control hk hh hc
    exact fun hst => absurd hst (active_of_begins hflags hb).2
  | beginFinished rs hh hc hf hb =>
    obtain ⟨-, hflags⟩ := closing_control hk hh hc
    cases hb
    exact fun hst => absurd hst (active_of_flags hflags).2
  | beginFailed h' rs hh hc hb =>
    obtain ⟨⟨w, hw, hin, -⟩, -⟩ := closing_control hk hh hc
    intro _ hdead
    have hlive := hdead w (hb.beside.worker.trans hw)
    rw [isLive_of_inLoop hin] at hlive
    cases hlive
  | shutdownCatch hh hst => exact fun _ => h hst
  | work d hw hm =>
    intro _ hdead
    have hlive := hdead _ rfl
    rw [hm.to_live] at hlive
    cases hlive
  | workBegin | workFinished | workFailed =>
    intro _ hdead
    cases hdead _ rfl
  | @faulted w hh hw hpc =>
    intro _ _
    have hlive : w.pc.isLive = true := by
      rw [hpc]
      rfl
    have hid := recordingId_of_live hk hatt hw hlive
    have hf := hatt.failing w hw hpc
    rw [← hid] at hf
    exact hf

/-- Steps in which also no start fails over a finalized recording. -/
theorem faultedApart_reachable {ok : System → Event → System → Prop}
    (hok : ∀ s e t, ok s e t → ¬s.lifecycle.ActivationFailed ∧ ¬s.lifecycle.StartFailedOver ∧
      ¬s.lifecycle.Displaces)
    (h : Reach (IsInitial setup) (System.step setup) ok s) : s.lifecycle.FaultedApart := by
  refine h.invariant (fun s => s.lifecycle.FaultedApart) ?_ ?_
  · rintro s ⟨machine, -, rfl⟩
    exact nofun
  · intro s e t hs hi he hstep
    have hk := control_reachable hs
    have hstorage := storage_reachable hs
    have hatt := attended_reachable (fun s e t h => ⟨(hok s e t h).1, (hok s e t h).2.2⟩) hs
    exact faultedApart_next hk hstorage hatt hi (hok s e t hstep).2.1 (step_next hk hstorage he)

end Steps

end NodusVision.Manager
