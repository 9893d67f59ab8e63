import NodusVision.Manager.Storage.Worker
import NodusVision.Program.Ending

/-! The file operation that a step of the recorder performs, if any. -/
namespace NodusVision.Manager
open Text Storage Program Recording Transition

/-- The next file operation of a thread. -/
def BeginPc.next : BeginPc → Option FsOp
  | .evidence p => p.next
  | _ => none

def Call.next : Call → Option FsOp
  | .startLookup _ _ p | .stopLookup _ p => p.next
  | .startPreparing _ _ p => p.next
  | .startWriter _ _ p => p.next
  | .startSidecar _ _ p => p.next
  | .startReleaseWriter _ _ p | .startReleaseSidecar _ _ p | .destroying p => p.next
  | .stopBegin _ b | .shutdownBegin b => b.next
  | _ => none

def WorkerPc.next : WorkerPc → Option FsOp
  | .loop (.begin b) => b.next
  | .loop (.writeFrame _ p) => p.next
  | .loop (.appendFrame _ p) | .closing (.sidecar p) => p.next
  | .closing (.writer p) => p.next
  | .closing (.digestVideo _ p) | .closing (.digestSidecar _ p) => p.next
  | .closing (.manifest p) | .closing (.activate p) => p.next
  | _ => none

/-- The file operation that an event performs. -/
def System.next (s : System) : Event → Option FsOp
  | .callStep _ => s.holder.bind Call.next
  | .workerStep _ => s.worker.bind fun w => w.pc.next
  | _ => none

def Event.choice : Event → Choice
  | .callStep c | .workerStep c => c
  | _ => {}

/-- A step performs the operation that is next, or leaves the disk as it is. -/
def Performed (s t : System) (c : Choice) : Option FsOp → Prop
  | some o => t.machine = (exec o c s.machine).2
  | none => t.machine.disk = s.machine.disk

section Performed
variable {setup : Setup} {s t : System} {c : Choice}

theorem performed_advance {α : Type} {p : StoreProg α} {point : StoreProg α → Call}
    {onReturn : α → System} {onThrow : Exception → System}
    (hret : ∀ a, (onReturn a).machine = s.machine)
    (hthrow : ∀ e, (onThrow e).machine = s.machine) :
    Performed s (s.advance c point onReturn onThrow p) c p.next := by
  cases p with
  | pure a => exact congrArg Machine.disk (hret a)
  | throw e => exact congrArg Machine.disk (hthrow e)
  | op o k => rfl

theorem performed_program {α : Type} {p : StoreProg α} {point : StoreProg α → WorkerPc}
    {onReturn : α → System} {onThrow : Exception → System}
    (hret : ∀ a, (onReturn a).machine = s.machine)
    (hthrow : ∀ e, (onThrow e).machine = s.machine) :
    Performed s (s.advanceWorker c point onReturn onThrow p) c p.next := by
  cases p with
  | pure a => exact congrArg Machine.disk (hret a)
  | throw e => exact congrArg Machine.disk (hthrow e)
  | op o k => rfl

theorem performed_begin {closer : Closer} {point : System → BeginPc → System}
    {finish : System → System} {rethrow : System → Exception → System} {b : BeginPc}
    (hpoint : ∀ u b', (point u b').machine = u.machine)
    (hfinish : ∀ u, (finish u).machine = u.machine)
    (hrethrow : ∀ u e, (rethrow u e).machine = u.machine) :
    Performed s (b.step setup s c closer point finish rethrow) c b.next := by
  cases b with
  | enter | closeAdmission => exact congrArg Machine.disk (hpoint _ _)
  | evidence p =>
    cases p with
    | pure a => exact congrArg Machine.disk (hpoint _ _)
    | throw e => exact congrArg Machine.disk (hpoint _ _)
    | op o k => exact hpoint _ _
  | checkDeadline =>
    simp only [BeginPc.step]
    split
    · exact congrArg Machine.disk (hpoint _ _)
    · exact congrArg Machine.disk (hfinish _)
  | fail e => exact congrArg Machine.disk (hrethrow _ _)

theorem startEntered_machine (s : System) (request : RecordingStartRequest) :
    (s.startEntered request).machine = s.machine := by
  unfold System.startEntered
  split
  · rfl
  · repeat' split
    all_goals rfl

theorem startLookedUp_machine (request : RecordingStartRequest) (canonical : ByteString)
    (r : Option PersistedRecordingArtifact) :
    (s.startLookedUp setup request canonical r).machine = s.machine := by
  cases r with
  | none => rfl
  | some artifact =>
    simp only [System.startLookedUp]
    split <;> rfl

theorem stopEntered_machine (request : RecordingStartRequest) :
    (s.stopEntered request).machine = s.machine := by
  unfold System.stopEntered
  repeat' split
  all_goals rfl

theorem stopUnrecorded_machine (request : RecordingStartRequest) :
    (s.stopUnrecorded request).machine = s.machine := by
  unfold System.stopUnrecorded
  repeat' split
  all_goals rfl

theorem stopLookedUp_machine (request : RecordingStartRequest)
    (r : Option PersistedRecordingArtifact) :
    (s.stopLookedUp request r).machine = s.machine := by
  unfold System.stopLookedUp
  split
  · exact stopUnrecorded_machine request
  · split
    · exact stopUnrecorded_machine request
    · split
      · rfl
      · split
        · unfold System.stopReplayed
          split <;> rfl
        · split
          · rfl
          · exact stopUnrecorded_machine request

theorem performed_callStep {call : Call} (he : s.callStep setup c call = some t) :
    Performed s t c call.next := by
  cases call with
  | startEntered request =>
    cases he
    exact congrArg Machine.disk (startEntered_machine s request)
  | startJoining request canonical =>
    change (if s.workerLive = true then none else _) = some t at he
    split at he <;> cases he
    rfl
  | startLookup request canonical p =>
    cases he
    exact performed_advance (fun r => startLookedUp_machine request canonical r) fun _ => rfl
  | startPreparing | startWriter | startReleaseWriter | startSidecar | startReleaseSidecar
  | destroying =>
    cases he
    exact performed_advance (fun _ => rfl) fun _ => rfl
  | startSpawn request =>
    change (if c.fails = true then _ else _) = some t at he
    split at he <;> cases he <;> rfl
  | stopEntered request =>
    cases he
    exact congrArg Machine.disk (stopEntered_machine request)
  | stopLookup request p =>
    cases he
    exact performed_advance (fun r => stopLookedUp_machine request r) fun _ => rfl
  | stopBegin | shutdownBegin =>
    cases he
    exact performed_begin (fun _ _ => rfl) (fun _ => rfl) fun _ _ => rfl
  | shutdownEntered =>
    cases he
    unfold System.shutdownEntered
    repeat' split
    all_goals rfl
  | _ =>
    cases he
    rfl

theorem dispatch_machine (s : System) : s.dispatch.machine = s.machine := by
  unfold System.dispatch
  repeat' split
  all_goals rfl

theorem afterWait_machine (s : System) : s.afterWait.machine = s.machine := by
  unfold System.afterWait
  split
  · rfl
  · exact dispatch_machine s

theorem requireDeadline_machine (s : System) (next : WorkerPc) :
    (s.requireDeadline next).machine = s.machine := by
  unfold System.requireDeadline
  split <;> rfl

theorem performed_workerStep {pc : WorkerPc} (he : s.workerStep setup c pc = some t) :
    Performed s t c pc.next := by
  cases pc with
  | loop k =>
    cases k with
    | acquire =>
      simp only [System.workerStep, System.loopStep] at he
      split at he
      · cases he
      · split at he <;> cases he
        · rfl
        · exact congrArg Machine.disk (afterWait_machine s)
    | waiting =>
      simp only [System.workerStep, System.loopStep] at he
      split at he
      · cases he
      · split at he <;> cases he
        · exact congrArg Machine.disk (afterWait_machine s)
        · rfl
    | begin b =>
      cases he
      exact performed_begin (fun _ _ => rfl) (fun _ => rfl) fun _ _ => rfl
    | dispatch =>
      cases he
      exact congrArg Machine.disk (dispatch_machine s)
    | frameDeadline frame =>
      simp only [System.workerStep, System.loopStep] at he
      split at he <;> cases he
      exact congrArg Machine.disk (requireDeadline_machine s _)
    | checkFrame frame =>
      simp only [System.workerStep, System.loopStep] at he
      split at he <;> cases he <;> rfl
    | writeFrame | appendFrame =>
      cases he
      exact performed_program (fun _ => rfl) fun _ => rfl
    | countFrame frame =>
      simp only [System.workerStep, System.loopStep] at he
      split at he <;> cases he
      rfl
  | closing k =>
    cases k with
    | deadline1 | deadline2 =>
      change (if s.holder.isSome = true then none else _) = some t at he
      split at he
      · cases he
      · split at he <;> cases he
        · exact congrArg Machine.disk (requireDeadline_machine s _)
        · rfl
    | deadline3 | deadline4 | deadline5 =>
      change (if s.holder.isSome = true then none else _) = some t at he
      split at he <;> cases he
      exact congrArg Machine.disk (requireDeadline_machine s _)
    | readDeadline | snapshot | publish =>
      change (if s.holder.isSome = true then none else _) = some t at he
      split at he <;> cases he
      rfl
    | writeManifest manifest video lines =>
      change s.closingStep setup c (.writeManifest manifest video lines) = some t at he
      rw [closingStep_writeManifest] at he
      split at he <;> cases he <;> rfl
    | _ =>
      cases he
      exact performed_program (fun _ => rfl) fun _ => rfl
  | fault =>
    simp only [System.workerStep] at he
    split at he <;> cases he
    rfl
  | finished => cases he

theorem performed_step {e : Event} (he : s.step setup e = some t) :
    Performed s t e.choice (s.next e) := by
  cases e with
  | tick | setUnix | crash =>
    cases he
    rfl
  | call api =>
    cases api <;> simp only [System.step, System.enter] at he <;> repeat' split at he
    all_goals cases he
    all_goals rfl
  | callStep c =>
    obtain ⟨call, hh, hstep⟩ := Option.bind_eq_some_iff.mp he
    have hperformed := performed_callStep hstep
    simpa only [System.next, hh, Option.bind_some, Event.choice] using hperformed
  | workerStep c =>
    obtain ⟨w, hw, hstep⟩ := Option.bind_eq_some_iff.mp he
    have hperformed := performed_workerStep hstep
    simpa only [System.next, hw, Option.bind_some, Event.choice] using hperformed
  | join =>
    simp only [System.step] at he
    split at he <;> cases he
    rfl
  | submit frame =>
    simp only [System.step] at he
    split at he <;> cases he
    unfold System.submit
    repeat' split
    all_goals rfl
  | submitContended frame =>
    simp only [System.step] at he
    split at he <;> cases he
    rfl
  | captureStep =>
    obtain ⟨call, -, rfl⟩ := Option.map_eq_some_iff.mp he
    unfold System.captureStep
    repeat' split
    all_goals rfl

end Performed

end NodusVision.Manager
