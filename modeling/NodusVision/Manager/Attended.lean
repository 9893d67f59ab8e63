import NodusVision.Manager.Ledgers

/-! A worker that runs has the session, and one that comes to its catch has renamed nothing. -/
namespace NodusVision.Manager
open Text Storage Disk Program Recording RecordingStore Transition

section Machine
variable {setup : Setup} {s t : System} {c : Choice}

/-- A step of the worker: it comes to its catch without touching the machine. -/
structure Works (s t : System) : Prop where
  machine : (∀ w, t.worker = some w → w.pc = .fault) → t.machine = s.machine
  idle : t.impl.state = .idle → s.impl.state = .idle

theorem Works.of_same (hm : t.machine = s.machine)
    (hs : t.impl.state = s.impl.state ∨ t.impl.state ≠ .idle) : Works s t :=
  ⟨fun _ => hm, fun hi => hs.elim (fun h => h ▸ hi) fun h => absurd hi h⟩

theorem advanceWorker_works {α : Type} {point : StoreProg α → WorkerPc} {onReturn : α → System}
    {onThrow : Exception → System} {p : StoreProg α} (hw : s.worker.isSome = true)
    (hpoint : ∀ q, point q ≠ .fault) (hret : ∀ a, Works s (onReturn a))
    (hthrow : ∀ e, Works s (onThrow e)) :
    Works s (s.advanceWorker c point onReturn onThrow p) := by
  cases p with
  | pure a => exact hret a
  | throw e => exact hthrow e
  | op o k =>
    refine ⟨fun hf => ?_, id⟩
    obtain ⟨w, hw⟩ := Option.isSome_iff_exists.mp hw
    have hpc := hf { w with pc := point (k (exec o c s.machine).1) } (by
      simp only [System.advanceWorker, System.moveWorker, hw, Option.map_some])
    exact absurd hpc (hpoint _)

theorem requireDeadline_works (next : WorkerPc) : Works s (s.requireDeadline next) := by
  unfold System.requireDeadline
  split <;> exact .of_same rfl (.inl rfl)

theorem dispatch_works : Works s s.dispatch := by
  unfold System.dispatch
  split
  · exact .of_same rfl (.inl rfl)
  · split <;> exact .of_same rfl (.inl rfl)

theorem afterWait_works : Works s s.afterWait := by
  unfold System.afterWait
  split
  · exact .of_same rfl (.inl rfl)
  · exact dispatch_works

theorem beginWorker_works {w : Worker} {b : BeginPc} (hw : s.worker = some w) :
    Works s (b.step setup s c .maxDuration (fun s b => s.moveWorker (.loop (.begin b)))
      (fun s => s.moveWorker (.loop .dispatch)) (fun s _ => s.moveWorker .fault)) := by
  cases b with
  | enter => exact .of_same rfl (.inr fun hi => by cases hi)
  | closeAdmission => exact .of_same rfl (.inl rfl)
  | evidence p =>
    cases p with
    | op o k =>
      refine ⟨fun hf => ?_, id⟩
      have hpc := hf { w with pc := .loop (.begin (.evidence (k (exec o c s.machine).1))) } (by
        simp only [BeginPc.step, System.moveWorker, hw, Option.map_some])
      cases hpc
    | _ => exact .of_same rfl (.inl rfl)
  | checkDeadline =>
    simp only [BeginPc.step]
    split <;> exact .of_same rfl (.inl rfl)
  | fail e => exact .of_same rfl (.inr fun hi => by cases hi)

theorem loopStep_works {w : Worker} {k : LoopPc} (hw : s.worker = some w)
    (he : s.loopStep setup c k = some t) : Works s t := by
  have hsome : s.worker.isSome = true := by
    rw [hw]
    rfl
  cases k with
  | acquire =>
    simp only [System.loopStep] at he
    split at he
    · cases he
    · split at he <;> cases he
      · exact .of_same rfl (.inl rfl)
      · exact afterWait_works
  | waiting =>
    simp only [System.loopStep] at he
    split at he
    · cases he
    · split at he <;> cases he
      · exact afterWait_works
      · exact .of_same rfl (.inl rfl)
  | begin b =>
    cases he
    exact beginWorker_works hw
  | dispatch =>
    cases he
    exact dispatch_works
  | frameDeadline frame =>
    simp only [System.loopStep] at he
    split at he <;> cases he
    exact requireDeadline_works _
  | checkFrame frame =>
    simp only [System.loopStep] at he
    split at he <;> cases he <;> exact .of_same rfl (.inl rfl)
  | writeFrame frame p | appendFrame frame p =>
    cases he
    exact advanceWorker_works hsome (fun _ hf => by cases hf) (fun _ => .of_same rfl (.inl rfl))
      fun _ => .of_same rfl (.inl rfl)
  | countFrame frame =>
    simp only [System.loopStep] at he
    split at he <;> cases he
    exact .of_same rfl (.inl rfl)

theorem closingStep_works {w : Worker} {k : ClosingPc} (hw : s.worker = some w)
    (he : s.closingStep setup c k = some t) : Works s t := by
  have hsome : s.worker.isSome = true := by
    rw [hw]
    rfl
  cases k with
  | deadline1 | deadline2 =>
    change (if s.holder.isSome = true then none else _) = some t at he
    split at he
    · cases he
    · split at he <;> cases he
      · exact requireDeadline_works _
      · exact .of_same rfl (.inl rfl)
  | deadline3 | deadline4 | deadline5 =>
    change (if s.holder.isSome = true then none else _) = some t at he
    split at he <;> cases he
    exact requireDeadline_works _
  | readDeadline | snapshot =>
    change (if s.holder.isSome = true then none else _) = some t at he
    split at he <;> cases he
    exact .of_same rfl (.inl rfl)
  | publish =>
    change (if s.holder.isSome = true then none else _) = some t at he
    split at he <;> cases he
    exact .of_same rfl (.inr nofun)
  | writeManifest manifest video sidecar =>
    rw [closingStep_writeManifest] at he
    split at he <;> cases he <;> exact .of_same rfl (.inl rfl)
  | writer | sidecar | digestVideo | digestSidecar | manifest | activate =>
    cases he
    exact advanceWorker_works hsome (fun _ => nofun) (fun _ => .of_same rfl (.inl rfl))
      fun _ => .of_same rfl (.inl rfl)

theorem workerStep_works {w : Worker} (hw : s.worker = some w)
    (he : s.workerStep setup c w.pc = some t) : Works s t := by
  obtain ⟨id, pc⟩ := w
  cases pc with
  | loop k => exact loopStep_works hw he
  | closing k => exact closingStep_works hw he
  | fault =>
    simp only [System.workerStep] at he
    split at he <;> cases he
    exact .of_same rfl (.inr fun hi => by cases hi)
  | finished => cases he

/-- The call ends the process with this step. -/
def Call.exits : Call → Bool
  | .destroying (.op _ _) => false
  | .destroying _ => true
  | _ => false

/-- A step that no worker takes: the worker stays unless a start changes it. -/
structure Succeeds (s t : System) : Prop where
  worker : t.worker = s.worker ∨ t.worker = none ∨ ∃ id, t.worker = some ⟨id, .loop .acquire⟩
  idle : t.impl.state = .idle → s.impl.state = .idle

theorem Succeeds.of_same {s t : System} (hw : t.worker = s.worker)
    (hs : t.impl.state = s.impl.state ∨ t.impl.state ≠ .idle) : Succeeds s t :=
  ⟨.inl hw, fun hi => hs.elim (fun h => h ▸ hi) fun h => absurd hi h⟩

theorem advance_succeeds {α : Type} {point : StoreProg α → Call} {onReturn : α → System}
    {onThrow : Exception → System} {p : StoreProg α} (hret : ∀ a, Succeeds s (onReturn a))
    (hthrow : ∀ e, Succeeds s (onThrow e)) : Succeeds s (s.advance c point onReturn onThrow p) := by
  cases p with
  | pure a => exact hret a
  | throw e => exact hthrow e
  | op o k => exact .of_same rfl (.inl rfl)

theorem begin_succeeds {closer : Closer} {point : System → BeginPc → System}
    {finish : System → System} {rethrow : System → Exception → System} {b : BeginPc}
    (hpoint : ∀ u b', Succeeds s u → Succeeds s (point u b'))
    (hfinish : ∀ u, Succeeds s u → Succeeds s (finish u))
    (hrethrow : ∀ u e, Succeeds s u → Succeeds s (rethrow u e)) :
    Succeeds s (b.step setup s c closer point finish rethrow) := by
  cases b with
  | enter => exact hpoint _ _ (.of_same rfl (.inr fun hi => by cases hi))
  | closeAdmission => exact hpoint _ _ (.of_same rfl (.inl rfl))
  | evidence p => cases p <;> exact hpoint _ _ (.of_same rfl (.inl rfl))
  | checkDeadline =>
    simp only [BeginPc.step]
    split
    · exact hpoint _ _ (.of_same rfl (.inl rfl))
    · exact hfinish _ (.of_same rfl (.inl rfl))
  | fail e => exact hrethrow _ _ (.of_same rfl (.inr fun hi => by cases hi))

theorem restore_state (artifact : PersistedRecordingArtifact) (request : RecordingStartRequest)
    (canonicalStart : ByteString) :
    (s.restorePersistedArtifactLocked artifact request canonicalStart).impl.state ≠ .idle := by
  simp only [System.restorePersistedArtifactLocked]
  split
  · intro hi
    cases hi
  · intro hi
    cases hi

theorem callStep_succeeds {call : Call} (hlive : call.exits = false)
    (he : s.callStep setup c call = some t) : Succeeds s t := by
  cases call with
  | startEntered request =>
    cases he
    unfold System.startEntered
    repeat' split
    all_goals exact .of_same rfl (.inl rfl)
  | startJoining request canonical =>
    simp only [System.callStep] at he
    split at he <;> cases he
    exact ⟨.inr (.inl rfl), id⟩
  | startLookup request canonical p =>
    cases he
    refine advance_succeeds (fun r => ?_) fun _ => .of_same rfl (.inl rfl)
    unfold System.startLookedUp
    split
    · split
      · exact .of_same rfl (.inl rfl)
      · exact .of_same rfl (.inr (restore_state (s := s) _ request _))
    · exact .of_same rfl (.inr fun hi => by cases hi)
  | startPreparing | startWriter | startReleaseWriter | startSidecar | startReleaseSidecar =>
    cases he
    exact advance_succeeds (fun _ => .of_same rfl (.inl rfl)) fun _ => .of_same rfl (.inl rfl)
  | startSpawn request =>
    simp only [System.callStep] at he
    split at he <;> cases he
    · exact .of_same rfl (.inl rfl)
    · exact ⟨.inr (.inr ⟨_, rfl⟩), id⟩
  | startRecording | startFailed | shutdownCatch =>
    cases he
    exact .of_same rfl (.inr fun hi => by cases hi)
  | stopEntered request =>
    cases he
    unfold System.stopEntered
    repeat' split
    all_goals exact .of_same rfl (.inl rfl)
  | stopLookup request p =>
    cases he
    refine advance_succeeds (fun r => ?_) fun _ => .of_same rfl (.inl rfl)
    unfold System.stopLookedUp System.stopReplayed System.stopUnrecorded
    repeat' split
    all_goals first
      | exact .of_same rfl (.inl rfl)
      | exact .of_same rfl (.inr (restore_state (s := s) _ request []))
  | stopBegin request b =>
    cases he
    exact begin_succeeds (fun _ _ h => ⟨h.worker, h.idle⟩) (fun _ h => ⟨h.worker, h.idle⟩)
      fun _ _ h => ⟨h.worker, h.idle⟩
  | shutdownEntered =>
    cases he
    unfold System.shutdownEntered
    repeat' split
    all_goals exact .of_same rfl (.inl rfl)
  | shutdownBegin b =>
    cases he
    exact begin_succeeds (fun _ _ h => ⟨h.worker, h.idle⟩) (fun _ h => ⟨h.worker, h.idle⟩)
      fun _ _ h => ⟨h.worker, h.idle⟩
  | destroying p =>
    cases he
    cases p with
    | op o k => exact .of_same rfl (.inl rfl)
    | _ => cases hlive
  | _ =>
    cases he
    exact .of_same rfl (.inl rfl)

/-- The process goes on after the event. -/
def Goes (s : System) (e : Event) : Prop :=
  e ≠ .crash ∧ ∀ c call, e = .callStep c → s.holder = some call → call.exits = false

/-- Steps of the recorder besides those of its worker. -/
theorem step_succeeds {e : Event} (hgoes : Goes s e) (hworker : ∀ c, e ≠ .workerStep c)
    (he : s.step setup e = some t) : Succeeds s t := by
  cases e with
  | workerStep c => exact absurd rfl (hworker c)
  | crash => exact absurd rfl hgoes.1
  | callStep c =>
    obtain ⟨call, hh, he⟩ := Option.bind_eq_some_iff.mp he
    exact callStep_succeeds (hgoes.2 c call rfl hh) he
  | tick | setUnix =>
    cases he
    exact .of_same rfl (.inl rfl)
  | call api =>
    cases api <;> simp only [System.step, System.enter] at he <;> repeat' split at he
    all_goals first | (cases he; done) | (cases he; exact .of_same rfl (.inl rfl))
  | join =>
    simp only [System.step] at he
    split at he <;> cases he
    exact ⟨.inr (.inl rfl), id⟩
  | submit frame =>
    simp only [System.step] at he
    split at he <;> cases he
    unfold System.submit
    repeat' split
    all_goals exact .of_same rfl (.inl rfl)
  | submitContended frame =>
    simp only [System.step] at he
    split at he <;> cases he
    exact .of_same rfl (.inl rfl)
  | captureStep =>
    obtain ⟨call, -, rfl⟩ := Option.map_eq_some_iff.mp he
    unfold System.captureStep
    repeat' split
    all_goals exact .of_same rfl (.inl rfl)

/-- The worker comes to its catch by a step of its own that leaves the disk alone. -/
theorem fault_disk {e : Event} (he : s.step setup e = some t) {w w' : Worker}
    (hw : s.worker = some w) (hw' : t.worker = some w') (hpc : w.pc ≠ .fault)
    (hpc' : w'.pc = .fault) : t.machine.disk = s.machine.disk := by
  by_cases hworker : ∃ c, e = .workerStep c
  · obtain ⟨c, rfl⟩ := hworker
    obtain ⟨v, hv, he⟩ := Option.bind_eq_some_iff.mp he
    cases hv.symm.trans hw
    rw [(workerStep_works hw he).machine fun u hu => by cases hu.symm.trans hw'; exact hpc']
  · by_cases hgoes : Goes s e
    · rcases (step_succeeds hgoes (fun c hc => hworker ⟨c, hc⟩) he).worker with h | h | ⟨id, h⟩
      · cases hw'.symm.trans (h.trans hw)
        exact absurd hpc' hpc
      · cases hw'.symm.trans h
      · cases hw'.symm.trans h
        cases hpc'
    · -- At the end of the process there is no worker.
      exfalso
      apply hgoes
      constructor
      · rintro rfl
        cases he
        cases hw'
      · rintro c call rfl hh
        obtain ⟨call', hh', he⟩ := Option.bind_eq_some_iff.mp he
        cases hh'.symm.trans hh
        cases call with
        | destroying p =>
          cases p with
          | op => rfl
          | _ =>
            cases he
            cases hw'
        | _ => rfl

/-- Only the end of the process makes the recorder idle again. -/
theorem idle_of_step {e : Event} (hgoes : Goes s e) (he : s.step setup e = some t)
    (hidle : t.impl.state = .idle) : s.impl.state = .idle := by
  by_cases hworker : ∃ c, e = .workerStep c
  · obtain ⟨c, rfl⟩ := hworker
    obtain ⟨w, hw, he⟩ := Option.bind_eq_some_iff.mp he
    exact (workerStep_works hw he).idle hidle
  · exact (step_succeeds hgoes (fun c hc => hworker ⟨c, hc⟩) he).idle hidle

end Machine

/-- No artifact comes to finalized storage. -/
def KeepsFinal (d d' : Disk) : Prop :=
  ∀ id, d' (.artifact .finalized id) = d (.artifact .finalized id)

namespace KeepsFinal
variable {d d' : Disk} {id : ByteString}

theorem refl (d : Disk) : KeepsFinal d d := fun _ => rfl

theorem not_finalized (h : KeepsFinal d d') (hn : ¬Finalized d id) : ¬Finalized d' id :=
  fun hf => hn ((h id).symm.trans hf)

theorem finalized (h : KeepsFinal d d') (hf : Finalized d id) : Finalized d' id := (h id).trans hf

theorem of_changes {paths : Set ManagedPath} (h : Changes paths d d')
    (hp : ∀ id, ManagedPath.artifact .finalized id ∉ paths) : KeepsFinal d d' :=
  fun id => h.2 _ (hp id)

end KeepsFinal

theorem outputs_keep (id : ByteString) : ManagedPath.artifact .finalized id ∉ outputPaths := by
  rintro ⟨i, h | h⟩ <;> cases h

theorem written_keeps (recordingId : ByteString) (f : ArtifactFile) (id : ByteString) :
    ManagedPath.artifact .finalized id ∉ writtenPaths recordingId f := by
  rintro (h | h) <;> cases h

theorem start_keeps (recordingId id : ByteString) :
    ManagedPath.artifact .finalized id ∉ startPaths recordingId := by
  simp [startPaths, managedPaths, artifactTree]

/-- Calls never finalize an artifact. -/
theorem Call.writes_keep (call : Call) (id : ByteString) :
    ManagedPath.artifact .finalized id ∉ call.writes := by
  cases call with
  | startPreparing request => exact start_keeps request.recordingId id
  | startWriter | startReleaseWriter | startSidecar | startReleaseSidecar | destroying =>
    exact outputs_keep id
  | _ => exact Set.notMem_empty _

namespace Lifecycle
variable {v v' u : Lifecycle}

theorem Begins.keepsFinal {closer : Closer} {b : BeginPc} {r : BeginResult}
    (h : v.Begins closer b r u) : KeepsFinal v.disk u.disk := by
  cases h with
  | write d p p' hd => exact .of_changes hd (written_keeps v.recordingId .stopRequest)
  | _ => exact .refl _

/-- A worker that runs has the session, and one that is about to fault has renamed nothing. -/
structure Attended (v : Lifecycle) : Prop where
  session : ∀ w, v.worker = some w → w.pc.isLive = true → v.inSession = true
  failing : ∀ w, v.worker = some w → w.pc = .fault → ¬Finalized v.disk w.recordingId

theorem Attended.same (h : v.Attended) (hd : KeepsFinal v.disk v'.disk)
    (hw : v'.worker = v.worker) (hin : v.inSession = true → v'.inSession = true) : v'.Attended where
  session w hw' hlive := hin (h.session w (hw ▸ hw') hlive)
  failing w hw' hpc := hd.not_finalized (h.failing w (hw ▸ hw') hpc)

theorem Attended.of_none (h : ∀ w, v.worker = some w → w.pc.isLive = false) : v.Attended where
  session w hw hlive := by cases (h w hw).symm.trans hlive
  failing w hw hpc := by
    have hdead := h w hw
    rw [hpc] at hdead
    cases hdead

/-- A worker that was not about to fault. -/
theorem Attended.moved (w : Worker) (hw : v.worker = some w) (hin : v.inSession = true)
    (hpc : w.pc ≠ .fault ∨ ¬Finalized v.disk w.recordingId) : v.Attended where
  session _ _ _ := hin
  failing w' hw' hf := by
    cases hw.symm.trans hw'
    exact hpc.resolve_left fun hne => hne hf

end Lifecycle

section Steps
variable {setup : Setup} {s t : System} {v' : Lifecycle}

open Lifecycle

theorem staged_not_finalized {w : Worker} (hs : s.Storage setup) (hstaged : Staged s.machine.disk w.recordingId) :
    ¬Finalized s.machine.disk w.recordingId := by
  intro hf
  have hnone := hstaged.not_finalized hs.wellFormed
  cases hnone.symm.trans hf

/-- Where the worker has not come to its activation, its artifact is staged. -/
theorem staged_of_worker {w : Worker} (hs : s.Storage setup) (hw : s.worker = some w)
    (hlive : w.pc.isLive = true) (hfault : w.pc ≠ .fault)
    (ha : ∀ p, w.pc ≠ .closing (.activate p)) (hp : w.pc ≠ .closing .publish) :
    Staged s.machine.disk w.recordingId := by
  have h := hs.worker w hw
  obtain ⟨id, pc⟩ := w
  cases pc with
  | loop k =>
    cases k with
    | begin | writeFrame | appendFrame => exact h.1
    | _ => exact h
  | closing k =>
    cases k with
    | writer | sidecar | digestVideo | digestSidecar | manifest => exact h.1
    | activate p => exact absurd rfl (ha p)
    | publish => exact absurd rfl hp
    | _ => exact h
  | fault => exact absurd rfl hfault
  | finished => cases hlive

theorem Lifecycle.Moves.to_fault {v : Lifecycle} {pc : WorkerPc} (h : v.Moves pc .fault) :
    pc.isLive = true ∧ (∀ p, pc = .closing (.activate p) → ∃ e, p = .throw e) ∧
      pc ≠ .closing .publish := by
  cases h with
  | fault hlive hmutex hact hpub => exact ⟨hlive, hact, hpub⟩

/-- A worker that comes to its catch has renamed nothing, unless its activation has failed. -/
theorem failing_of_fault {w : Worker} {d : Disk} (hs : s.Storage setup) (h : s.lifecycle.Attended)
    (ha : ¬s.lifecycle.ActivationFailed) (hw : s.worker = some w)
    (hm : s.lifecycle.Moves w.pc .fault)
    (hch : Changes (w.pc.writes w.recordingId) s.machine.disk d)
    (hd : w.pc ≠ .fault → d = s.machine.disk) : ¬Finalized d w.recordingId := by
  by_cases hpc : w.pc = .fault
  · rw [hpc] at hch
    exact (KeepsFinal.of_changes hch outputs_keep).not_finalized (h.failing w hw hpc)
  · rw [hd hpc]
    obtain ⟨hlive, hact, hpub⟩ := hm.to_fault
    · by_cases hthrown : ∃ e, w.pc = .closing (.activate (.throw e))
      · obtain ⟨e, he⟩ := hthrown
        exact fun hf => ha ⟨w, e, hw, he, hf⟩
      · apply staged_not_finalized hs
        refine staged_of_worker hs hw hlive hpc ?_ hpub
        intro p hp
        obtain ⟨e, rfl⟩ := hact p hp
        exact hthrown ⟨e, hp⟩

theorem attended_next (hs : s.Storage setup) (h : s.lifecycle.Attended)
    (ha : ¬s.lifecycle.ActivationFailed) (hd : ¬s.lifecycle.Displaces)
    (hfault : ∀ w w', s.lifecycle.worker = some w → v'.worker = some w' → w.pc ≠ .fault →
      w'.pc = .fault → v'.disk = s.lifecycle.disk)
    (hn : s.lifecycle.Next v') : v'.Attended := by
  cases hn with
  | tick | enter | reject | answer | repeated | await | started | create | record =>
    exact h.same (.refl _) rfl id
  | proceed d hh hf hd => exact h.same (.of_changes hd (Call.writes_keep _)) rfl id
  | joined | startJoined | exit => exact .of_none fun w hw => by cases hw
  | startRestored hh hw | prepare hh hw | startFailed hh hw | publish hh hw =>
    exact .of_none fun w hw' => by cases hw.symm.trans hw'
  | stopRestored hh hfin hst hv heq =>
    refine .of_none fun w hw => ?_
    by_contra hlive
    exact hd ⟨_, _, w, hh, hfin, heq, hst.1, hst.2, hw, eq_true_of_ne_false hlive⟩
  | spawn hh hw hst hr hid hin => exact .moved _ rfl hin (.inl nofun)
  | beginPoint hh hc hc' hf hb =>
    exact h.same hb.keepsFinal hb.beside.worker fun hin => hb.beside.inSession.trans hin
  | beginFinished rs hh hc hf hb =>
    exact h.same hb.keepsFinal hb.beside.worker fun hin => hb.beside.inSession.trans hin
  | beginFailed h' rs hh hc hb =>
    exact h.same hb.keepsFinal hb.beside.worker fun hin => hb.beside.inSession.trans hin
  | shutdownCatch => exact h.same (.refl _) rfl id
  | @work w pc d hw hm hch =>
    have hlive := hm.isLive
    refine .moved _ rfl (h.session w hw hlive) ?_
    by_cases hpc : pc = .fault
    · right
      subst hpc
      exact failing_of_fault (w := w) hs h ha hw hm hch fun hpc => hfault w _ hw rfl hpc rfl
    · exact .inl hpc
  | workBegin hh hw hpc hid hin hb | workFinished hh hw hpc hid hin hb =>
    exact .moved _ rfl (hb.beside.inSession.trans hin) (.inl nofun)
  | workFailed hh hw hpc hid hin hb =>
    refine .moved _ rfl (hb.beside.inSession.trans hin) (.inr ?_)
    apply hb.keepsFinal.not_finalized
    apply staged_not_finalized hs
    apply staged_of_worker hs hw <;> rw [hpc] <;> simp [WorkerPc.isLive]
  | finalized hh hw hpc | faulted hh hw hpc => 
    refine .of_none fun w hw' => ?_
    cases hw'
    rfl

/-- Steps in which no activation fails after its rename and no replay displaces a worker. -/
theorem attended_reachable {ok : System → Event → System → Prop}
    (hok : ∀ s e t, ok s e t → ¬s.lifecycle.ActivationFailed ∧ ¬s.lifecycle.Displaces)
    (h : Reach (IsInitial setup) (System.step setup) ok s) : s.lifecycle.Attended := by
  refine h.invariant (fun s => s.lifecycle.Attended) ?_ ?_
  · rintro s ⟨machine, -, rfl⟩
    exact .of_none fun w hw => by cases hw
  · intro s e t hs hi he hstep
    obtain ⟨ha, hd⟩ := hok s e t hstep
    have hstorage := storage_reachable hs
    refine attended_next hstorage hi ha hd ?_ (step_next (control_reachable hs) hstorage he)
    intro w w' hw hw' hpc hpc'
    exact fault_disk he hw hw' hpc hpc'

end Steps

end NodusVision.Manager
