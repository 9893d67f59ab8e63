import NodusVision.Manager.Phases

/-! A worker that lives past the end of its recording is about to fault at a deadline check. -/
namespace NodusVision.Manager
open Text Storage Disk Program Recording RecordingStore Transition

namespace Lifecycle
variable {v v' u : Lifecycle}

/-- The worker faults at its next deadline check. -/
def Doomed (v : Lifecycle) (w : Worker) : Prop :=
  w.pc = .fault ∨ v.Expired ∧ (w.pc.inLoop = true ∨ w.pc = .closing .deadline1)

/-- Only a doomed worker survives the end of a recording, and only the deadline ends the
closing of an API call by an exception. -/
structure Pressed (v : Lifecycle) : Prop where
  doomed : ∀ w, v.worker = some w → w.pc.isLive = true →
    v.state = .finalized ∨ v.state = .faulted → v.Doomed w
  late : ∀ call closer e, v.holder = some call → call.closing = some (closer, .fail e) → v.Expired

theorem Expired.later (h : v.Expired) (hr : v.stopRequested = true → v'.stopRequested = true)
    (hd : v'.finalizeDeadline = v.finalizeDeadline) (hs : v.steady ≤ v'.steady) : v'.Expired :=
  ⟨hr h.1, hd.trans_le (h.2.trans hs)⟩

theorem Doomed.later {w : Worker} (h : v.Doomed w)
    (hr : v.stopRequested = true → v'.stopRequested = true)
    (hd : v'.finalizeDeadline = v.finalizeDeadline) (hs : v.steady ≤ v'.steady) : v'.Doomed w :=
  h.imp_right fun hx => ⟨hx.1.later hr hd hs, hx.2⟩

theorem Moves.isLive {pc pc' : WorkerPc} (h : v.Moves pc pc') : pc.isLive = true := by
  cases h with
  | fault hl => exact hl
  | _ => rfl

/-- A doomed worker stays doomed as it moves. -/
theorem Doomed.moves {w : Worker} {pc : WorkerPc} (h : v.Doomed w) (hm : v.Moves w.pc pc) :
    v.Doomed { w with pc := pc } := by
  obtain ⟨id, pc'⟩ := w
  change v.Moves pc' pc at hm
  rcases h with hf | ⟨hx, hpc⟩
  · change pc' = .fault at hf
    subst hf
    cases hm with
    | fault => exact .inl rfl
  · change pc'.inLoop = true ∨ pc' = .closing .deadline1 at hpc
    cases hm with
    | within hk hl => exact .inr ⟨hx, .inl hl⟩
    | wake hk hrun => cases hx.1.symm.trans hrun
    | leave => exact .inr ⟨hx, .inr rfl⟩
    | close hk hlate => exact absurd hx hlate
    | closing hj =>
      rcases hpc with hpc | hpc
      · cases hpc
      · exact absurd (WorkerPc.closing.inj hpc) hj
    | activated =>
      rcases hpc with hpc | hpc <;> cases hpc
    | fault => exact .inl rfl

/-- A step that leaves states and deadlines alone. -/
theorem Pressed.same (h : v.Pressed) (hst : v'.state = v.state) (hw : v'.worker = v.worker)
    (hr : v.stopRequested = true → v'.stopRequested = true)
    (hd : v'.finalizeDeadline = v.finalizeDeadline) (hs : v.steady ≤ v'.steady)
    (hh : ∀ call closer e, v'.holder = some call → call.closing = some (closer, .fail e) →
      v.holder = some call) : v'.Pressed where
  doomed w hw' hlive hend := (h.doomed w (hw ▸ hw') hlive (hst ▸ hend)).later hr hd hs
  late call closer e hc hf := (h.late call closer e (hh call closer e hc hf) hf).later hr hd hs

/-- A step after which no worker lives and no call closes. -/
theorem Pressed.of_quiet (hw : ∀ w, v.worker = some w → w.pc.isLive = false)
    (hh : ∀ call, v.holder = some call → call.closing = none) : v.Pressed where
  doomed w hw' hlive := by cases (hw w hw').symm.trans hlive
  late call closer e hc hf := by cases (hh call hc).symm.trans hf

/-- A step after which the recording is in progress and no closer has failed. -/
theorem Pressed.of_active (hst : v.state ≠ .finalized ∧ v.state ≠ .faulted)
    (hh : ∀ call closer e, v.holder = some call → call.closing = some (closer, .fail e) →
      v.Expired) : v.Pressed where
  doomed w _ _ hend := by
    rcases hend with hend | hend
    · exact absurd hend hst.1
    · exact absurd hend hst.2
  late := hh

end Lifecycle

section Steps
variable {setup : Setup} {s : System} {v' : Lifecycle}

/-- A closer finds the recording in progress. -/
theorem active_of_flags {b : BeginPc} (h : b.Flags s.core) :
    s.impl.state ≠ .finalized ∧ s.impl.state ≠ .faulted := by
  have hstate : s.impl.state = .recording ∨ s.impl.state = .finalizing := by
    cases b with
    | enter => exact .inl h.1
    | _ => exact .inr h.1
  rcases hstate with hs | hs <;> simp [hs]

/-- Up to its catch `beginFinalizationLocked` leaves the recording in progress. -/
theorem active_of_begins {b b' : BeginPc} {closer : Closer} {u : Lifecycle} (h : b.Flags s.core)
    (hb : s.lifecycle.Begins closer b (.point b') u) :
    u.state ≠ .finalized ∧ u.state ≠ .faulted := by
  have hact := active_of_flags h
  cases hb with
  | enter => exact ⟨nofun, nofun⟩
  | _ => exact hact

/-- The call of an API closer, with what holds at its program point. -/
theorem closing_control {call : Call} {closer : Closer} {b : BeginPc} (hk : s.core.Control)
    (hh : s.holder = some call) (hc : call.closing = some (closer, b)) :
    s.core.WorkerAt WorkerPc.inLoop ∧ b.Flags s.core := by
  have hctl := hk.call hh
  cases call with
  | stopBegin request b =>
    cases hc
    exact ⟨hctl.1, hctl.2.1⟩
  | shutdownBegin b =>
    cases hc
    exact hctl
  | _ => cases hc

theorem begin_flags {w : Worker} {b : BeginPc} (hk : s.core.Control) (hh : s.holder = none)
    (hw : s.worker = some w) (hpc : w.pc = .loop (.begin b)) : b.Flags s.core := by
  obtain ⟨id, pc⟩ := w
  cases hpc
  exact (hk.worker hh hw rfl).2

theorem pressed_next (hk : s.core.Control) (h : s.lifecycle.Pressed)
    (hok : ¬s.lifecycle.EvidenceFailed) (hn : s.lifecycle.Next v') : v'.Pressed := by
  have hfree : ∀ {u : Lifecycle}, u.state = s.lifecycle.state → u.worker = s.lifecycle.worker →
      (s.lifecycle.stopRequested = true → u.stopRequested = true) →
      u.finalizeDeadline = s.lifecycle.finalizeDeadline → u.steady = s.lifecycle.steady →
      (∀ call, u.holder = some call → call.closing = none) → u.Pressed := by
    intro u hst hw hr hd hs hh
    exact h.same hst hw hr hd hs.ge fun call closer e hc hf => by cases (hh call hc).symm.trans hf
  cases hn with
  | tick n hle => exact h.same rfl rfl id rfl hle fun _ _ _ hc _ => hc
  | reject => exact h.same rfl rfl id rfl le_rfl fun _ _ _ hc _ => hc
  | enter call closed hh hs hc =>
    refine hfree rfl rfl id rfl rfl ?_
    rintro _ ⟨⟩
    exact hc
  | answer | repeated | await | started =>
    exact hfree rfl rfl id rfl rfl fun _ hc => by cases hc
  | proceed d hh hf =>
    refine h.same rfl rfl id rfl le_rfl ?_
    rintro call closer e ⟨⟩ hc
    cases (hf.closing closer _ hc).1
  | joined hdead => exact ⟨fun _ hw => (by cases hw), h.late⟩
  | startJoined hh hdead =>
    refine .of_quiet (fun _ hw => by cases hw) ?_
    rintro _ ⟨⟩
    rfl
  | startRestored hh hw =>
    exact .of_quiet (fun w hw' => by cases hw.symm.trans hw') fun _ hc => by cases hc
  | stopRestored hh hfin hs =>
    have hst : s.core.Settled := hk.call hh
    refine ⟨fun w hw hlive _ => ?_, fun _ _ _ hc => by cases hc⟩
    have hend : s.lifecycle.state = .finalized ∨ s.lifecycle.state = .faulted := by
      rcases hst.cases with ⟨-, hn, -⟩ | ⟨ho, -⟩ | ⟨hc, -⟩ | ⟨hend, -⟩
      · cases hn.symm.trans hw
      · exact absurd ho.1 hs.1
      · exact absurd hc.1 hs.2
      · exact hend
    exact (h.doomed w hw hlive hend).later (fun _ => rfl) rfl le_rfl
  | prepare hh hw | create hh hw | publish hh hw | startFailed hh hw =>
    refine .of_quiet (fun w hw' => by cases hw.symm.trans hw') ?_
    rintro _ ⟨⟩
    rfl
  | spawn hh hw hs =>
    refine .of_active ?_ ?_
    · change s.lifecycle.state ≠ .finalized ∧ s.lifecycle.state ≠ .faulted
      simp [hs]
    · rintro _ _ _ ⟨⟩ ⟨⟩
  | record hh => exact .of_active ⟨nofun, nofun⟩ (by rintro _ _ _ ⟨⟩ ⟨⟩)
  | beginPoint hh hc hc' hf hb =>
    obtain ⟨-, hflags⟩ := closing_control hk hh hc
    have hact := active_of_begins hflags hb
    refine .of_active hact ?_
    · rintro _ _ e ⟨⟩ he
      cases hc'.symm.trans he
      cases hb with
      | unwritten => exact absurd ⟨_, _, _, hh, hc⟩ hok
      | late hx => exact hx
  | beginFinished rs hh hc hf hb =>
    obtain ⟨-, hflags⟩ := closing_control hk hh hc
    refine .of_active ?_ fun _ _ _ hc => by cases hc
    cases hb
    exact active_of_flags hflags
  | beginFailed h' rs hh hc hb hh' =>
    obtain ⟨⟨w, hw, hin, -⟩, hflags⟩ := closing_control hk hh hc
    cases hb with
    | fail =>
      have hx := h.late _ _ _ hh hc
      refine ⟨fun v hv _ _ => .inr ⟨hx, .inl ?_⟩, fun call closer e hc' hf => ?_⟩
      · cases hv.symm.trans hw
        exact hin
      · rcases hh' with rfl | rfl <;> cases hc'
        cases hf
  | shutdownCatch hh hs =>
    exact ⟨fun w hw hlive _ => (h.doomed w hw hlive (.inr hs)).later (fun _ => rfl) rfl le_rfl,
      fun _ _ _ hc => by cases hc⟩
  | work d hw hm =>
    refine ⟨fun w hw' hlive hend => ?_, h.late⟩
    cases hw'
    have hlive' : WorkerPc.isLive _ = true := hm.isLive
    exact (h.doomed _ hw hlive' hend).moves hm
  | workBegin hh hw hpc hid hin hb =>
    have hflags := begin_flags hk hh hw hpc
    have hact := active_of_begins hflags hb
    exact .of_active hact fun _ _ _ hc => by cases (hb.beside.holder.trans hh).symm.trans hc
  | workFinished hh hw hpc hid hin hb =>
    have hflags := begin_flags hk hh hw hpc
    refine .of_active ?_ fun _ _ _ hc => by cases (hb.beside.holder.trans hh).symm.trans hc
    cases hb
    exact active_of_flags hflags
  | workFailed hh hw hpc hid hin hb =>
    refine ⟨fun w hw' _ _ => ?_, fun _ _ _ hc => by cases (hb.beside.holder.trans hh).symm.trans hc⟩
    cases hw'
    exact .inl rfl
  | finalized hh hw hpc | faulted hh hw hpc =>
    refine .of_quiet (fun w hw' => ?_) fun _ hc => by cases hh.symm.trans hc
    cases hw'
    rfl
  | exit => exact .of_quiet (fun _ hw => by cases hw) fun _ hc => by cases hc

theorem pressed_reachable {ok : System → Event → System → Prop}
    (hok : ∀ s e t, ok s e t → ¬s.lifecycle.EvidenceFailed)
    (h : Reach (IsInitial setup) (System.step setup) ok s) : s.lifecycle.Pressed := by
  refine lifecycle_reachable Lifecycle.Pressed (fun machine => ?_) (fun s e t hk _ hi hs hn =>
    pressed_next hk hi (hok s e t hs) hn) h
  exact .of_quiet (fun _ hw => by cases hw) fun _ hc => by cases hc

end Steps

end NodusVision.Manager
