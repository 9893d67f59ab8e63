import NodusVision.Manager.FrameWork
import NodusVision.Manager.Refinement
import NodusVision.Program.Ending

/-! The worker of a recording that is closed and not yet finalized: what each of its steps does,
and what each of them lowers. -/
namespace NodusVision.Manager
open Text Storage Disk Program Recording RecordingStore Transition

/-- The program that the worker is in. -/
def WorkerPc.program : WorkerPc → StoreProg Unit
  | .loop (.writeFrame _ p) => p.forget
  | .loop (.appendFrame _ p) => p.forget
  | .closing (.writer p) => p.forget
  | .closing (.sidecar p) => p.forget
  | .closing (.digestVideo _ p) => p.forget
  | .closing (.digestSidecar _ p) => p.forget
  | .closing (.manifest p) | .closing (.activate p) => p.forget
  | _ => .pure ()

def LoopPc.rank : LoopPc → ℕ
  | .frameDeadline _ => 24
  | .checkFrame _ => 23
  | .writeFrame _ _ => 22
  | .appendFrame _ _ => 21
  | .countFrame _ => 20
  | .acquire | .waiting => 19
  | .begin _ | .dispatch => 18

def ClosingPc.rank : ClosingPc → ℕ
  | .deadline1 => 17
  | .writer _ => 16
  | .deadline2 => 15
  | .sidecar _ => 14
  | .deadline3 => 13
  | .readDeadline => 12
  | .digestVideo _ _ => 11
  | .digestSidecar _ _ => 10
  | .deadline4 _ _ => 9
  | .snapshot _ _ => 8
  | .writeManifest _ _ _ => 7
  | .manifest _ => 6
  | .deadline5 => 5
  | .activate _ => 4
  | .publish => 3

/-- How far the worker is from its end, between two frames. -/
def WorkerPc.rank : WorkerPc → ℕ
  | .loop k => k.rank
  | .closing k => k.rank
  | .fault => 2
  | .finished => 1

/-- The frames that are queued, the rank of the point, and what is left of its program. -/
def WorkerPc.stage (queued : ℕ) (pc : WorkerPc) : ℕ × ℕ × StoreProg Unit :=
  (queued, pc.rank, pc.program)

def Lower : ℕ × ℕ × StoreProg Unit → ℕ × ℕ × StoreProg Unit → Prop :=
  Prod.Lex (· < ·) (Prod.Lex (· < ·) Prog.After)

theorem lower_wellFounded : WellFounded Lower :=
  wellFounded_lt.prod_lex (wellFounded_lt.prod_lex Prog.after_wellFounded)

/-- A live point outside `beginFinalizationLocked`. -/
def WorkerPc.drains : WorkerPc → Bool
  | .loop (.begin _) | .finished => false
  | _ => true

/-- Such a point where the worker does not wait. -/
def WorkerPc.busy : WorkerPc → Bool
  | .loop .waiting => false
  | pc => pc.drains

theorem drains_of_busy {pc : WorkerPc} (h : pc.busy = true) : pc.drains = true := by
  cases pc with
  | loop k =>
    cases k with
    | waiting => cases h
    | _ => exact h
  | _ => exact h

theorem live_of_drains {pc : WorkerPc} (h : pc.drains = true) : pc.isLive = true := by
  cases pc with
  | finished => cases h
  | _ => rfl

/-- The recording is closed, and no thread is in `beginFinalizationLocked`. -/
structure System.Draining (s : System) : Prop where
  finalizing : s.impl.state = .finalizing
  call : ∀ call, s.holder = some call → call.closing = none
  worker : ∀ w, s.worker = some w → w.pc.drains = true

/-- What the worker leaves alone while it drains a recording. -/
structure KeepsDraining (s t : System) : Prop where
  holder : t.holder = s.holder
  state : t.impl.state = s.impl.state
  admitted : t.history.admitted = s.history.admitted
  deadline : t.impl.finalizeDeadline = s.impl.finalizeDeadline
  monotonic : t.impl.times.startedMonotonicNs = s.impl.times.startedMonotonicNs
  epoch : t.impl.times.startedUnixEpochNs = s.impl.times.startedUnixEpochNs
  steady : t.machine.steady = s.machine.steady
  unix : t.machine.unix = s.machine.unix

theorem KeepsDraining.refl (s : System) : KeepsDraining s s :=
  ⟨rfl, rfl, rfl, rfl, rfl, rfl, rfl, rfl⟩

/-- What a step of the worker does while a recording drains. -/
inductive DrainStep (s t : System) (w : Worker) : Prop
  | on (pc : WorkerPc) (hw : t.worker = some { w with pc := pc }) (hkeeps : KeepsDraining s t)
      (hlower : Lower (pc.stage t.impl.queue.count) (w.pc.stage s.impl.queue.count))
      (hpc : pc.busy = true)
  | published (hpc : w.pc = .closing .publish)
      (ht : t = (s.setState .finalized).moveWorker .finished)
  | caught (hpc : w.pc = .fault) (ht : t = s.workerCatch)

section Steps
variable {setup : Setup} {s t u : System} {c : Choice} {w : Worker} {pc : WorkerPc}

/-- A step to a later point of the same frame, or of the closing. -/
theorem drain_moved (hw : s.worker = some w) (hu : u.worker = s.worker) (hkeeps : KeepsDraining s u)
    (hq : u.impl.queue = s.impl.queue) (hrank : pc.rank < w.pc.rank) (hpc : pc.busy = true) :
    DrainStep s (u.moveWorker pc) w := by
  obtain ⟨hh, hst, ha, hdeadline, hmonotonic, hepoch, hsteady, hunix⟩ := hkeeps
  refine .on pc (moveWorker_worker (hu.trans hw) pc)
    ⟨hh, hst, ha, hdeadline, hmonotonic, hepoch, hsteady, hunix⟩ ?_ hpc
  show Lower (pc.stage u.impl.queue.count) _
  rw [hq]
  exact .right _ (.left _ _ hrank)

/-- A step that only moves the worker. -/
theorem drain_only (hw : s.worker = some w) (hrank : pc.rank < w.pc.rank) (hpc : pc.busy = true) :
    DrainStep s (s.moveWorker pc) w := drain_moved hw rfl (.refl s) rfl hrank hpc

theorem drain_deadline (hw : s.worker = some w) (hlast : 2 < w.pc.rank)
    (hrank : pc.rank < w.pc.rank) (hpc : pc.busy = true) :
    DrainStep s (s.requireDeadline pc) w := by
  unfold System.requireDeadline
  split
  · exact drain_only hw hlast rfl
  · exact drain_only hw hrank hpc

/-- One operation of a program of the worker. -/
theorem drain_program {α : Type} {p : StoreProg α} {point : StoreProg α → WorkerPc}
    {onReturn : α → System} (hw : s.worker = some w) (hpc : w.pc = point p)
    (hprogram : ∀ q, (point q).program = q.forget) (hrank : ∀ q, (point q).rank = (point p).rank)
    (hlast : 2 < (point p).rank) (hbusy : ∀ q, (point q).busy = true)
    (hret : ∀ a, p = .pure a → DrainStep s (onReturn a) w) :
    DrainStep s (s.advanceWorker c point onReturn (fun _ => s.moveWorker .fault) p) w := by
  have hat : w.pc.program = p.forget := by rw [hpc, hprogram]
  cases p with
  | pure a => exact hret a rfl
  | throw e =>
    refine drain_only hw ?_ rfl
    rw [hpc]
    exact hlast
  | op o k =>
    have hnext : (point (k (exec o c s.machine).1)).program = (k (exec o c s.machine).1).forget :=
      hprogram _
    refine .on _ (moveWorker_worker (s := { s with machine := (exec o c s.machine).2 }) hw _)
      ⟨rfl, rfl, rfl, rfl, rfl, rfl, exec_steady o c s.machine, exec_unix o c s.machine⟩ ?_
      (hbusy _)
    refine .right _ ?_
    rw [hnext, hat, hrank, hpc]
    exact .right _ (.op o (fun r => (k r).forget) _)

theorem drain_dispatch (hw : s.worker = some w) (hstop : s.impl.stopRequested = true)
    (hrank : 17 < w.pc.rank) : DrainStep s s.dispatch w := by
  unfold System.dispatch
  split
  · exact drain_only hw hrank rfl
  · rename_i hstay
    have hne : s.impl.queue.count ≠ 0 := fun hzero => hstay ⟨hzero, hstop⟩
    split
    · refine .on _ (moveWorker_worker (s := { s with impl := { s.impl with
        queue := s.impl.queue.pop } }) hw _) ⟨rfl, rfl, rfl, rfl, rfl, rfl, rfl, rfl⟩ ?_ rfl
      refine .left _ _ ?_
      show s.impl.queue.count - 1 < s.impl.queue.count
      omega
    · exact drain_only hw (Nat.lt_of_le_of_lt (by decide) hrank) rfl

theorem drain_loop {id : ByteString} {k : LoopPc} (hd : s.Draining)
    (hstop : s.impl.stopRequested = true) (hw : s.worker = some ⟨id, .loop k⟩)
    (he : s.loopStep setup c k = some t) : DrainStep s t ⟨id, .loop k⟩ := by
  have hopen := hd.worker _ hw
  have hrun : ∀ {p : Prop}, ¬(s.impl.stopRequested = false ∧ p) := by
    rintro p ⟨hfalse, -⟩
    cases hstop.symm.trans hfalse
  have hafter : 17 < k.rank → DrainStep s s.afterWait ⟨id, .loop k⟩ := by
    intro hrank
    unfold System.afterWait
    rw [if_neg hrun]
    exact drain_dispatch hw hstop hrank
  cases k with
  | acquire =>
    simp only [System.loopStep] at he
    split at he
    · cases he
    · rw [if_neg hrun] at he
      cases he
      exact hafter (of_decide_eq_true rfl)
  | waiting =>
    simp only [System.loopStep] at he
    split at he
    · cases he
    · rw [if_pos (.inr (.inl hstop))] at he
      cases he
      exact hafter (of_decide_eq_true rfl)
  | begin b => cases hopen
  | dispatch =>
    cases he
    exact drain_dispatch hw hstop (of_decide_eq_true rfl)
  | frameDeadline frame =>
    simp only [System.loopStep] at he
    split at he <;> cases he
    exact drain_deadline hw (of_decide_eq_true rfl) (of_decide_eq_true rfl) rfl
  | checkFrame frame =>
    simp only [System.loopStep] at he
    split at he <;> cases he <;> exact drain_only hw (of_decide_eq_true rfl) rfl
  | writeFrame frame p =>
    cases he
    refine drain_program hw rfl (fun _ => rfl) (fun _ => rfl) (of_decide_eq_true rfl)
      (fun _ => rfl) ?_
    rintro r rfl
    split <;> exact drain_moved (u := { s with impl := { s.impl with writer := some r.2 } }) hw rfl
      ⟨rfl, rfl, rfl, rfl, rfl, rfl, rfl, rfl⟩ rfl (of_decide_eq_true rfl) rfl
  | appendFrame frame p =>
    cases he
    refine drain_program hw rfl (fun _ => rfl) (fun _ => rfl) (of_decide_eq_true rfl)
      (fun _ => rfl) ?_
    rintro r rfl
    exact drain_moved (u := { s with impl := { s.impl with sidecar := some r } }) hw rfl
      ⟨rfl, rfl, rfl, rfl, rfl, rfl, rfl, rfl⟩ rfl (of_decide_eq_true rfl) rfl
  | countFrame frame =>
    simp only [System.loopStep] at he
    split at he <;> cases he
    exact drain_moved (u := s.countFrame frame) hw rfl ⟨rfl, rfl, rfl, rfl, rfl, rfl, rfl, rfl⟩ rfl
      (of_decide_eq_true rfl) rfl

theorem drain_closing {id : ByteString} {k : ClosingPc} (hw : s.worker = some ⟨id, .closing k⟩)
    (he : s.closingStep setup c k = some t) : DrainStep s t ⟨id, .closing k⟩ := by
  cases k with
  | deadline1 | deadline2 =>
    change (if s.holder.isSome = true then none else _) = some t at he
    split at he
    · cases he
    · split at he <;> cases he
      · exact drain_deadline hw (of_decide_eq_true rfl) (of_decide_eq_true rfl) rfl
      · exact drain_only hw (of_decide_eq_true rfl) rfl
  | writer p =>
    cases he
    refine drain_program hw rfl (fun _ => rfl) (fun _ => rfl) (of_decide_eq_true rfl)
      (fun _ => rfl) ?_
    rintro r rfl
    exact drain_moved (u := { s with impl := { s.impl with writer := some r } }) hw rfl
      ⟨rfl, rfl, rfl, rfl, rfl, rfl, rfl, rfl⟩ rfl (of_decide_eq_true rfl) rfl
  | sidecar p =>
    cases he
    refine drain_program hw rfl (fun _ => rfl) (fun _ => rfl) (of_decide_eq_true rfl)
      (fun _ => rfl) ?_
    rintro r rfl
    exact drain_moved (u := { s with impl := { s.impl with sidecar := some r } }) hw rfl
      ⟨rfl, rfl, rfl, rfl, rfl, rfl, rfl, rfl⟩ rfl (of_decide_eq_true rfl) rfl
  | deadline3 | deadline4 | deadline5 =>
    change (if s.holder.isSome = true then none else _) = some t at he
    split at he <;> cases he
    exact drain_deadline hw (of_decide_eq_true rfl) (of_decide_eq_true rfl) rfl
  | readDeadline =>
    change (if s.holder.isSome = true then none else _) = some t at he
    split at he <;> cases he
    exact drain_only hw (of_decide_eq_true rfl) rfl
  | digestVideo | digestSidecar | manifest | activate =>
    cases he
    refine drain_program hw rfl (fun _ => rfl) (fun _ => rfl) (of_decide_eq_true rfl)
      (fun _ => rfl) ?_
    rintro _ rfl
    exact drain_only hw (of_decide_eq_true rfl) rfl
  | snapshot video lines =>
    change (if s.holder.isSome = true then none else _) = some t at he
    split at he <;> cases he
    exact .on _ (moveWorker_worker hw _) ⟨rfl, rfl, rfl, rfl, rfl, rfl, rfl, rfl⟩
      (.right _ (.left _ _ (of_decide_eq_true rfl))) rfl
  | writeManifest manifest video lines =>
    rw [closingStep_writeManifest] at he
    split at he <;> cases he <;> exact drain_only hw (of_decide_eq_true rfl) rfl
  | publish =>
    change (if s.holder.isSome = true then none else _) = some t at he
    split at he <;> cases he
    exact .published rfl rfl

/-- What the worker of a draining recording does. -/
theorem drain_step (hd : s.Draining) (hstop : s.impl.stopRequested = true) (hw : s.worker = some w)
    (he : s.workerStep setup c w.pc = some t) : DrainStep s t w := by
  obtain ⟨id, pc⟩ := w
  cases pc with
  | loop k => exact drain_loop hd hstop hw he
  | closing k => exact drain_closing hw he
  | fault =>
    simp only [System.workerStep] at he
    split at he <;> cases he
    exact .caught rfl rfl
  | finished => cases he

end Steps

section Others
variable {setup : Setup} {s t : System} {c : Choice}

/-- A draining recording has its worker and its session. -/
theorem draining_session (hk : s.core.Control) (hd : s.Draining) :
    ∃ w, s.worker = some w ∧ s.core.Session w ∧ s.impl.stopRequested = true := by
  have hfinal : s.core.state = .finalizing := hd.finalizing
  have hsettled : s.core.Settled →
      ∃ w, s.worker = some w ∧ s.core.Session w ∧ s.impl.stopRequested = true := by
    intro h
    obtain ⟨hclosed, w, hw, -, hsession⟩ := h.finalizing hfinal
    exact ⟨w, hw, hsession, hclosed.2.2⟩
  cases hh : s.holder with
  | none =>
    by_cases hr : s.core.Released
    · exact hsettled (hk.settled hh hr)
    · obtain ⟨w, hheld⟩ := not_forall.mp hr
      obtain ⟨hw, hm⟩ := Classical.not_imp.mp hheld
      have hw : s.worker = some w := hw
      have hopen := hd.worker w hw
      obtain ⟨hsession, hat⟩ := hk.worker hh hw (eq_true_of_ne_false hm)
      obtain ⟨id, pc⟩ := w
      refine ⟨_, hw, hsession, ?_⟩
      cases pc with
      | loop k =>
        cases k with
        | begin b => cases hopen
        | _ => exact hat.2.2
      | _ => exact hat.2.2
  | some call =>
    have hctl := hk.call hh
    have hnone := hd.call call hh
    cases call with
    | startEntered | stopEntered | stopLookup | shutdownEntered => exact hsettled hctl
    | startJoining => exact hsettled hctl.1
    | startLookup | destroying =>
      rcases hctl.2.2 with hs | hs | hs <;> cases hfinal.symm.trans hs
    | startPreparing => cases hfinal.symm.trans hctl.1.2.2
    | startFailed => cases hfinal.symm.trans hctl.2.2
    | startWriter | startReleaseWriter | startSidecar | startReleaseSidecar | startPublish
    | startSpawn => cases hfinal.symm.trans hctl.1.2.2
    | startRecording | startAdmit => cases hfinal.symm.trans hctl.2.2.1
    | startRethrow => cases hfinal.symm.trans hctl.2.2
    | stopBegin | shutdownBegin => cases hnone
    | shutdownCatch => cases hfinal.symm.trans hctl.2.2.2

/-- What other threads leave alone while a recording drains. -/
structure Aloof (s t : System) : Prop where
  state : t.impl.state = s.impl.state
  worker : t.worker = s.worker
  queue : t.impl.queue = s.impl.queue
  admitted : t.history.admitted = s.history.admitted
  deadline : t.impl.finalizeDeadline = s.impl.finalizeDeadline
  disk : t.machine.disk = s.machine.disk

/-- They leave it draining. -/
structure Rests (s t : System) : Prop extends Aloof s t where
  draining : t.Draining

theorem Aloof.rests (h : Aloof s t) (hd : s.Draining)
    (hh : ∀ call, t.holder = some call → call.closing = none) : Rests s t := by
  refine ⟨h, h.state.trans hd.finalizing, hh, ?_⟩
  rw [h.worker]
  exact hd.worker

theorem rests_call {call : Call} (hk : s.core.Control) (hs : s.Storage setup) (hd : s.Draining)
    (hh : s.holder = some call) (he : s.callStep setup c call = some t) : Rests s t := by
  have hfinal : s.core.state = .finalizing := hd.finalizing
  have hctl := hk.call hh
  have hstorage := hs.call call hh
  have hnone := hd.call call hh
  have hfree : ∀ {u : System}, Aloof s u → u.holder = none → Rests s u := by
    intro u haloof hu
    exact haloof.rests hd fun call hc => by cases hu.symm.trans hc
  have hheld : ∀ {u : System} {k : Call}, Aloof s u → u.holder = some k → k.closing = none →
      Rests s u := by
    intro u k haloof hu hk
    exact haloof.rests hd fun call hc => by cases hu.symm.trans hc; exact hk
  have hnot : s.impl.state ≠ .recording := by
    rw [hd.finalizing]
    exact fun h => by cases h
  cases call with
  | startEntered request =>
    cases he
    unfold System.startEntered
    split
    · exact hfree ⟨rfl, rfl, rfl, rfl, rfl, rfl⟩ rfl
    · split
      · split <;> exact hfree ⟨rfl, rfl, rfl, rfl, rfl, rfl⟩ rfl
      · rw [if_pos (by rw [hd.finalizing]; rfl)]
        exact hfree ⟨rfl, rfl, rfl, rfl, rfl, rfl⟩ rfl
  | stopEntered request =>
    cases he
    unfold System.stopEntered
    split
    · split
      · split
        · exact hfree ⟨rfl, rfl, rfl, rfl, rfl, rfl⟩ rfl
        · split <;> exact hfree ⟨rfl, rfl, rfl, rfl, rfl, rfl⟩ rfl
      · exact hfree ⟨rfl, rfl, rfl, rfl, rfl, rfl⟩ rfl
    · exact hheld ⟨rfl, rfl, rfl, rfl, rfl, rfl⟩ rfl rfl
  | stopLookup request p =>
    cases he
    have hunrecorded : Rests s (s.stopUnrecorded request) := by
      unfold System.stopUnrecorded
      split
      · exact hfree ⟨rfl, rfl, rfl, rfl, rfl, rfl⟩ rfl
      · exact hfree ⟨rfl, rfl, rfl, rfl, rfl, rfl⟩ rfl
    cases p with
    | throw e => exact hfree ⟨rfl, rfl, rfl, rfl, rfl, rfl⟩ rfl
    | op o k =>
      exact hheld ⟨rfl, rfl, rfl, rfl, rfl, (hstorage.2.op_step c trivial).1⟩ rfl rfl
    | pure r =>
      show Rests s (s.stopLookedUp request r)
      unfold System.stopLookedUp
      split
      · exact hunrecorded
      · split
        · exact hunrecorded
        · split
          · exact hfree ⟨rfl, rfl, rfl, rfl, rfl, rfl⟩ rfl
          · split
            · unfold System.stopReplayed
              rw [if_neg (fun h => h.2 hd.finalizing)]
              exact hfree ⟨rfl, rfl, rfl, rfl, rfl, rfl⟩ rfl
            · split
              · exact hfree ⟨rfl, rfl, rfl, rfl, rfl, rfl⟩ rfl
              · exact hunrecorded
  | shutdownEntered =>
    cases he
    unfold System.shutdownEntered
    rw [if_neg hnot, if_pos (.inl hd.finalizing)]
    exact hfree ⟨rfl, rfl, rfl, rfl, rfl, rfl⟩ rfl
  | startJoining =>
    have hinactive : s.core.state.isActive = false := hctl.2
    rw [hfinal] at hinactive
    cases hinactive
  | startLookup | destroying =>
    rcases hctl.2.2 with hs | hs | hs <;> cases hfinal.symm.trans hs
  | startPreparing => cases hfinal.symm.trans hctl.1.2.2
  | startFailed => cases hfinal.symm.trans hctl.2.2
  | startWriter | startReleaseWriter | startSidecar | startReleaseSidecar | startPublish
  | startSpawn => cases hfinal.symm.trans hctl.1.2.2
  | startRecording | startAdmit => cases hfinal.symm.trans hctl.2.2.1
  | startRethrow => cases hfinal.symm.trans hctl.2.2
  | stopBegin | shutdownBegin => cases hnone
  | shutdownCatch => cases hfinal.symm.trans hctl.2.2.2

/-- Other threads leave a draining recording alone. -/
theorem rests_other {e : Event} (hk : s.core.Control) (hs : s.Storage setup) (hd : s.Draining)
    (hworker : ∀ c, e ≠ .workerStep c) (hcrash : e ≠ .crash) (he : s.step setup e = some t) :
    Rests s t := by
  have hnot : s.impl.state ≠ .recording := by
    rw [hd.finalizing]
    exact fun h => by cases h
  cases e with
  | workerStep c => exact absurd rfl (hworker c)
  | crash => exact absurd rfl hcrash
  | callStep c =>
    obtain ⟨call, hh, hstep⟩ := Option.bind_eq_some_iff.mp he
    exact rests_call hk hs hd hh hstep
  | tick | setUnix =>
    cases he
    exact Aloof.rests ⟨rfl, rfl, rfl, rfl, rfl, rfl⟩ hd hd.call
  | call api =>
    cases api with
    | stop request =>
      simp only [System.step, System.enter] at he
      split at he
      · cases he
        exact Aloof.rests ⟨rfl, rfl, rfl, rfl, rfl, rfl⟩ hd hd.call
      · split at he <;> cases he
        refine Aloof.rests ⟨rfl, rfl, rfl, rfl, rfl, rfl⟩ hd ?_
        rintro _ ⟨⟩
        rfl
    | start | shutdown | destroy =>
      simp only [System.step, System.enter] at he
      split at he <;> cases he
      refine Aloof.rests ⟨rfl, rfl, rfl, rfl, rfl, rfl⟩ hd ?_
      rintro _ ⟨⟩
      rfl
  | join =>
    simp only [System.step] at he
    split at he <;> cases he
    rename_i hdead
    obtain ⟨w, hw, -⟩ := draining_session hk hd
    have hlive : w.pc.isLive = true := live_of_drains (hd.worker w hw)
    cases hdead.2.symm.trans (workerLive_of hw hlive)
  | submit frame =>
    simp only [System.step] at he
    split at he <;> cases he
    rw [System.submit, if_pos hnot]
    exact Aloof.rests ⟨rfl, rfl, rfl, rfl, rfl, rfl⟩ hd hd.call
  | submitContended frame =>
    simp only [System.step] at he
    split at he <;> cases he
    exact Aloof.rests ⟨rfl, rfl, rfl, rfl, rfl, rfl⟩ hd hd.call
  | captureStep =>
    obtain ⟨call, -, rfl⟩ := Option.map_eq_some_iff.mp he
    unfold System.captureStep
    repeat' split
    all_goals exact Aloof.rests ⟨rfl, rfl, rfl, rfl, rfl, rfl⟩ hd hd.call

end Others

end NodusVision.Manager
