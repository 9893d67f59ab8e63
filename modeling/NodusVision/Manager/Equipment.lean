import NodusVision.Manager.Sizes
import NodusVision.Manager.FrameWork
import NodusVision.Recording.Presence
import NodusVision.Recording.Succeeding

/-! What the end of a recording needs: its start leaves it on the disk, and it is there as long as
the worker is in its loop. -/
namespace NodusVision.Manager
open Text Storage Disk Program Recording RecordingStore Transition

/-- The artifact can be activated, and the name that its manifest is written under is free. -/
structure Vacant (id : ByteString) (d : Disk) : Prop where
  managed : d (.managed .finalized) = some .directory
  free : d (.entry .staging id (.temporary .manifest)) = none

/-- The video is there besides. -/
structure Stocked (id : ByteString) (d : Disk) : Prop extends Vacant id d where
  video : d (videoPath id) ≠ none

/-- The video writer is open, with the configuration of the recording. -/
def System.Filming (setup : Setup) (s : System) (id : ByteString) : Prop :=
  ∃ w, s.impl.writer = some w ∧ w.config = writerConfig setup (artifactPaths id) ∧
    w.finalized = false

/-- A recording that may go on to its end. -/
structure System.Equips (setup : Setup) (s : System) (id : ByteString) : Prop where
  stocked : Stocked id s.machine.disk
  filming : s.Filming setup id

/-- What a start has prepared. -/
def Call.Equipped (setup : Setup) (s : System) : Call → Prop
  | .startPreparing request _ p =>
      Runs ∅ (Changes (startPaths request.recordingId)) p
        (fun _ d => d (.entry .staging request.recordingId (.temporary .manifest)) = none) s.machine ∧
      Runs ∅ (fun _ _ => True) p (fun _ d => d (.managed .finalized) = some .directory) s.machine
  | .startWriter request _ p => Vacant request.recordingId s.machine.disk ∧
      Runs ∅ (Changes {videoPath request.recordingId}) p
        (fun _ d => d (videoPath request.recordingId) ≠ none) s.machine
  | .startReleaseWriter request _ _ | .startSidecar request _ _ | .startReleaseSidecar request _ _
  | .startPublish request _ | .startSpawn request => s.Equips setup request.recordingId
  | _ => True

/-- A program of the loop fails only where one of its operations fails. -/
def LoopPc.Steady (setup : Setup) (id : ByteString) : LoopPc → Prop
  | .writeFrame _ p => p.Robust exec faultless ∧ p.Uses (fun _ => True)
      (fun r => r.2.config = writerConfig setup (artifactPaths id) ∧ r.2.finalized = false)
      fun _ => True
  | .appendFrame _ p => p.Robust exec faultless
  | _ => True

def WorkerPc.Equipped (setup : Setup) (s : System) (id : ByteString) : WorkerPc → Prop
  | .loop k => s.Equips setup id ∧ k.Steady setup id
  | _ => True

structure System.Equipped (setup : Setup) (s : System) : Prop where
  call : ∀ call, s.holder = some call → call.Equipped setup s
  worker : ∀ w, s.worker = some w → w.pc.Equipped setup s w.recordingId

section Disk
variable {setup : Setup} {id : ByteString} {paths : Set ManagedPath} {d d' : Disk} {o : FsOp}

theorem Vacant.keep (h : Vacant id d) (hd : Changes paths d d')
    (hm : ManagedPath.managed .finalized ∉ paths)
    (ht : ManagedPath.entry .staging id (.temporary .manifest) ∉ paths) : Vacant id d' :=
  ⟨(hd.2 _ hm).trans h.managed, (hd.2 _ ht).trans h.free⟩

theorem Vacant.output (h : Vacant id d) (hd : Changes outputPaths d d') : Vacant id d' := by
  refine h.keep hd ?_ ?_
  · rintro ⟨i, he | he⟩ <;> cases he
  · rintro ⟨i, he | he⟩ <;> cases he

/-- Stop evidence is written beside the outputs. -/
theorem Stocked.evidence (h : Stocked id d) (hd : Changes evidencePaths d d') : Stocked id d' := by
  refine ⟨h.toVacant.keep hd ?_ ?_, ?_⟩
  · rintro ⟨i, he | he⟩ <;> cases he
  · rintro ⟨i, he | he⟩ <;> cases he
  · rw [hd.2 _ (by rintro ⟨i, he | he⟩ <;> cases he)]
    exact h.video

theorem Stocked.output {m : Machine} (h : Stocked id m.disk)
    (ho : ∃ id path, IsOutput id path ∧ WritesTo path o) (c : Choice) :
    Stocked id (exec o c m).2.disk := by
  refine ⟨h.toVacant.output (output_program_changes ho c m), ?_⟩
  obtain ⟨i, path, -, ho⟩ := ho
  exact writes_present ho c m h.video

/-- The preparation of a start leaves the store with its directories. -/
theorem prepareStaging_managed (request : RecordingStartRequest) (k : ManagedDirectory) :
    Spec anyChoice ∅ (fun _ _ => True) (fun _ => True) (prepareStaging setup request)
      (fun _ d => d (.managed k) = some .directory) fun _ _ => True :=
  Spec.bind _ (initializeStore_managed k) fun _ => managed_spec _ k

end Disk

section Others
variable {setup : Setup} {s t u : System} {c : Choice} {w : Worker}

/-- What the other threads leave to a worker. -/
structure LeavesWorker (s t : System) : Prop where
  worker : t.worker = s.worker
  writer : t.impl.writer = s.impl.writer
  disk : Changes evidencePaths s.machine.disk t.machine.disk

theorem LeavesWorker.of_aside (h : Aside s t) : LeavesWorker s t := ⟨h.worker, h.writer, h.disk⟩

theorem LeavesWorker.of_same (hw : t.worker = s.worker) (hwriter : t.impl.writer = s.impl.writer)
    (hd : t.machine.disk = s.machine.disk) : LeavesWorker s t := by
  refine ⟨hw, hwriter, ?_⟩
  rw [hd]
  exact .refl _ _

theorem Filming.keep {id : ByteString} (h : s.Filming setup id)
    (hw : t.impl.writer = s.impl.writer) : t.Filming setup id := by
  unfold System.Filming
  rw [hw]
  exact h

theorem System.Equips.quiet {id : ByteString} (h : s.Equips setup id)
    (hw : t.impl.writer = s.impl.writer) (hd : t.machine.disk = s.machine.disk) :
    t.Equips setup id := by
  refine ⟨?_, Filming.keep h.filming hw⟩
  rw [hd]
  exact h.stocked

theorem System.Equips.evidence {id : ByteString} (h : s.Equips setup id)
    (hw : t.impl.writer = s.impl.writer)
    (hd : Changes evidencePaths s.machine.disk t.machine.disk) : t.Equips setup id :=
  ⟨h.stocked.evidence hd, Filming.keep h.filming hw⟩

theorem WorkerPc.Equipped.evidence {pc : WorkerPc} {id : ByteString} (h : pc.Equipped setup s id)
    (hw : t.impl.writer = s.impl.writer)
    (hd : Changes evidencePaths s.machine.disk t.machine.disk) : pc.Equipped setup t id := by
  cases pc with
  | loop k => exact ⟨h.1.evidence hw hd, h.2⟩
  | _ => trivial

theorem stopUnrecorded_leavesWorker (request : RecordingStartRequest) :
    LeavesWorker s (s.stopUnrecorded request) := by
  unfold System.stopUnrecorded
  repeat' split
  all_goals exact .of_same rfl rfl rfl

theorem stopLookedUp_leavesWorker (request : RecordingStartRequest)
    (r : Option PersistedRecordingArtifact) :
    LeavesWorker s (s.stopLookedUp request r) := by
  unfold System.stopLookedUp
  split
  · exact stopUnrecorded_leavesWorker request
  · split
    · exact stopUnrecorded_leavesWorker request
    · split
      · exact .of_same rfl rfl rfl
      · split
        · unfold System.stopReplayed
          split <;> exact .of_same rfl rfl rfl
        · split
          · exact .of_same rfl rfl rfl
          · exact stopUnrecorded_leavesWorker request

/-- A call beside a worker leaves it alone, or has found that it has returned. -/
theorem call_leavesWorker {call : Call} (hk : s.core.Control) (hs : s.Storage setup)
    (hw : s.worker = some w) (hh : s.holder = some call)
    (he : s.callStep setup c call = some t) : t.worker = none ∨ LeavesWorker s t := by
  have hctl := hk.call hh
  have hstorage := hs.call call hh
  cases call with
  | startEntered request =>
    cases he
    unfold System.startEntered
    split
    · exact .inr (.of_same rfl rfl rfl)
    · repeat' split
      all_goals exact .inr (.of_same rfl rfl rfl)
  | startJoining request canonical =>
    change (if s.workerLive = true then none else _) = some t at he
    split at he <;> cases he
    exact .inl rfl
  | startLookup | destroying | startRethrow | startFailed => cases hw.symm.trans hctl.1
  | startPreparing | startWriter | startReleaseWriter | startSidecar | startReleaseSidecar
  | startPublish | startSpawn => cases hw.symm.trans hctl.1.1
  | startRecording | startAdmit | shutdownCatch =>
    cases he
    exact .inr (.of_same rfl rfl rfl)
  | stopEntered request =>
    cases he
    unfold System.stopEntered
    repeat' split
    all_goals exact .inr (.of_same rfl rfl rfl)
  | stopLookup request p =>
    cases he
    cases p with
    | pure r => exact .inr (stopLookedUp_leavesWorker request r)
    | throw e => exact .inr (.of_same rfl rfl rfl)
    | op o k => exact .inr (.of_same rfl rfl (hstorage.2.op_step c trivial).1)
  | stopBegin request b =>
    cases he
    refine .inr (begin_aside hstorage.2 ?_ ?_ ?_)
    · exact fun u b' hu _ => .of_aside (hu.hold _)
    · exact fun u hu _ => .of_aside (hu.release _)
    · exact fun u e hu _ => .of_aside (hu.release _)
  | shutdownEntered =>
    cases he
    unfold System.shutdownEntered
    repeat' split
    all_goals exact .inr (.of_same rfl rfl rfl)
  | shutdownBegin b =>
    cases he
    refine .inr (begin_aside hstorage ?_ ?_ ?_)
    · exact fun u b' hu _ => .of_aside (hu.hold _)
    · exact fun u hu _ => .of_aside hu.shutdown
    · exact fun u e hu _ => .of_aside (hu.hold _)

theorem other_leavesWorker {e : Event} (hk : s.core.Control) (hs : s.Storage setup)
    (hw : s.worker = some w) (hworker : ∀ c, e ≠ .workerStep c) (he : s.step setup e = some t) :
    t.worker = none ∨ LeavesWorker s t := by
  cases e with
  | workerStep c => exact absurd rfl (hworker c)
  | callStep c =>
    obtain ⟨call, hh, hstep⟩ := Option.bind_eq_some_iff.mp he
    exact call_leavesWorker hk hs hw hh hstep
  | tick | setUnix =>
    cases he
    exact .inr (.of_same rfl rfl rfl)
  | call api =>
    cases api <;> simp only [System.step, System.enter] at he <;> repeat' split at he
    all_goals cases he
    all_goals exact .inr (.of_same rfl rfl rfl)
  | join =>
    simp only [System.step] at he
    split at he <;> cases he
    exact .inl rfl
  | submit frame =>
    simp only [System.step] at he
    split at he <;> cases he
    unfold System.submit
    repeat' split
    all_goals exact .inr (.of_same rfl rfl rfl)
  | submitContended frame =>
    simp only [System.step] at he
    split at he <;> cases he
    exact .inr (.of_same rfl rfl rfl)
  | captureStep =>
    obtain ⟨call, -, rfl⟩ := Option.map_eq_some_iff.mp he
    unfold System.captureStep
    repeat' split
    all_goals exact .inr (.of_same rfl rfl rfl)
  | crash =>
    cases he
    exact .inl rfl

end Others

section Work
variable {setup : Setup} {s t u : System} {c : Choice} {id : ByteString} {k : LoopPc}
  {pc : WorkerPc}

/-- A worker that the step takes to another point of its loop, or out of it. -/
def Onward (setup : Setup) (id : ByteString) (t : System) : Prop :=
  ∃ pc, t.worker = some ⟨id, pc⟩ ∧ pc.Equipped setup t id

theorem onward_moved (hw : s.worker = some ⟨id, .loop k⟩) (h : s.Equips setup id)
    (hu : u.worker = s.worker) (hwriter : u.impl.writer = s.impl.writer)
    (hd : u.machine.disk = s.machine.disk) (hpc : ∀ l, pc = .loop l → l.Steady setup id) :
    Onward setup id (u.moveWorker pc) := by
  refine ⟨pc, moveWorker_worker (hu.trans hw) pc, ?_⟩
  cases pc with
  | loop l => exact ⟨h.quiet hwriter hd, hpc l rfl⟩
  | _ => trivial

theorem onward_dispatch (hw : s.worker = some ⟨id, .loop k⟩) (h : s.Equips setup id) :
    Onward setup id s.dispatch := by
  unfold System.dispatch
  split
  · exact onward_moved hw h rfl rfl rfl fun _ hpc => by cases hpc
  · split
    · refine onward_moved (u := { s with impl := { s.impl with queue := s.impl.queue.pop } }) hw h
        rfl rfl rfl ?_
      rintro _ ⟨⟩
      trivial
    · exact onward_moved hw h rfl rfl rfl fun _ hpc => by cases hpc

theorem onward_afterWait (hw : s.worker = some ⟨id, .loop k⟩) (h : s.Equips setup id) :
    Onward setup id s.afterWait := by
  unfold System.afterWait
  split
  · refine onward_moved hw h rfl rfl rfl ?_
    rintro _ ⟨⟩
    trivial
  · exact onward_dispatch hw h

/-- One operation of a program of the loop. -/
theorem onward_program {α : Type} {p : StoreProg α} {point : StoreProg α → LoopPc}
    {onReturn : α → System} (hw : s.worker = some ⟨id, .loop k⟩) (h : s.Equips setup id)
    (hops : p.Uses (fun o => ∃ i path, IsOutput i path ∧ WritesTo path o) (fun _ => True)
      fun _ => True)
    (hnext : ∀ o f r, p = .op o f → (point (f r)).Steady setup id)
    (hret : ∀ a, p = .pure a → Onward setup id (onReturn a)) :
    Onward setup id (s.advanceWorker c (fun p => .loop (point p)) onReturn
      (fun _ => s.moveWorker .fault) p) := by
  cases p with
  | pure a => exact hret a rfl
  | throw e => exact onward_moved hw h rfl rfl rfl fun _ hpc => by cases hpc
  | op o f =>
    refine ⟨_, moveWorker_worker (s := { s with machine := (exec o c s.machine).2 }) hw _, ?_, ?_⟩
    · exact ⟨h.stocked.output hops.1 c, h.filming⟩
    · exact hnext o f _ rfl

theorem onward_loop (hk : s.core.Control) (hs : s.Storage setup)
    (hw : s.worker = some ⟨id, .loop k⟩) (h : s.Equips setup id) (hsteady : k.Steady setup id)
    (he : s.loopStep setup c k = some t) : Onward setup id t := by
  have hstorage := hs.worker _ hw
  have hplain : ∀ {l}, LoopPc.Steady setup id l → Onward setup id (s.moveWorker (.loop l)) := by
    intro l hl
    refine onward_moved hw h rfl rfl rfl ?_
    rintro _ ⟨⟩
    exact hl
  have hfault : Onward setup id (s.moveWorker .fault) :=
    onward_moved hw h rfl rfl rfl fun _ hpc => by cases hpc
  cases k with
  | acquire =>
    simp only [System.loopStep] at he
    split at he
    · cases he
    · split at he <;> cases he
      · exact hplain trivial
      · exact onward_afterWait hw h
  | waiting =>
    simp only [System.loopStep] at he
    split at he
    · cases he
    · split at he <;> cases he
      · exact onward_afterWait hw h
      · exact ⟨_, hw, h, trivial⟩
  | begin b =>
    cases he
    have hnone : s.holder = none := by
      by_contra hne
      obtain ⟨call, hh⟩ := Option.ne_none_iff_exists'.mp hne
      cases hk.released hh _ hw
    obtain ⟨⟨hid, -⟩, -⟩ : s.core.Session _ ∧ b.Flags s.core := hk.worker hnone hw rfl
    have hid : s.impl.recordingId = id := hid
    have hb : b.Storage s.machine s.impl.recordingId .maxDuration := by
      rw [hid]
      exact hstorage.2
    have hat : ∀ {u : System} {pc : WorkerPc}, Aside s u → (∀ l, pc = .loop l → l.Steady setup id) →
        Onward setup id (u.moveWorker pc) := by
      intro u pc hu hpc
      exact onward_moved (hu.worker.trans hw) (h.evidence hu.writer hu.disk) rfl rfl rfl hpc
    apply begin_aside hb
    · refine fun u b' hu _ => hat hu ?_
      rintro _ ⟨⟩
      trivial
    · refine fun u hu _ => hat hu ?_
      rintro _ ⟨⟩
      trivial
    · refine fun u e hu _ => hat hu ?_
      rintro _ ⟨⟩
  | dispatch =>
    cases he
    exact onward_dispatch hw h
  | frameDeadline frame =>
    simp only [System.loopStep] at he
    split at he <;> cases he
    unfold System.requireDeadline
    split
    · exact hfault
    · exact hplain trivial
  | checkFrame frame =>
    simp only [System.loopStep] at he
    split at he <;> cases he
    · rename_i color w hview hwriter
      obtain ⟨v, hv, hconfig, hopen⟩ := h.filming
      cases hwriter.symm.trans hv
      refine hplain ⟨ColorVideoWriter.writeFrame_robust _ _, ?_⟩
      refine (ColorVideoWriter.writeFrame_uses w color).mono (fun _ _ => trivial) ?_
        fun _ _ => trivial
      rintro _ rfl
      exact ⟨hconfig, hopen⟩
    · exact hfault
  | writeFrame frame p =>
    cases he
    obtain ⟨hrobust, hresult⟩ := hsteady
    obtain ⟨-, i, huses⟩ := hstorage
    refine onward_program hw h (huses.mono (fun _ ho => ⟨i, _, .inl rfl, ho⟩) (fun _ _ => trivial)
      fun _ _ => trivial) ?_ ?_
    · rintro o f r rfl
      exact ⟨hrobust.2 r, hresult.2 r⟩
    · rintro r rfl
      have hequips : System.Equips setup { s with impl := { s.impl with writer := some r.2 } } id :=
        ⟨h.stocked, r.2, rfl, hresult⟩
      split
      · refine onward_moved (s := { s with impl := { s.impl with writer := some r.2 } }) hw hequips
          rfl rfl rfl ?_
        rintro _ ⟨⟩
        exact RecordingSidecarWriter.append_robust _ _
      · exact onward_moved (s := { s with impl := { s.impl with writer := some r.2 } }) hw hequips
          rfl rfl rfl fun _ hpc => by cases hpc
  | appendFrame frame p =>
    cases he
    obtain ⟨-, i, huses⟩ := hstorage
    refine onward_program hw h (huses.mono (fun _ ho => ⟨i, _, .inr rfl, ho⟩) (fun _ _ => trivial)
      fun _ _ => trivial) ?_ ?_
    · rintro o f r rfl
      exact hsteady.2 r
    · rintro r rfl
      refine onward_moved (u := { s with impl := { s.impl with sidecar := some r } }) hw h rfl rfl
        rfl ?_
      rintro _ ⟨⟩
      trivial
  | countFrame frame =>
    simp only [System.loopStep] at he
    split at he <;> cases he
    refine onward_moved (u := s.countFrame frame) hw h rfl rfl rfl ?_
    rintro _ ⟨⟩
    trivial

end Work

section Starts
variable {setup : Setup} {s t : System} {c : Choice}

/-- One operation of a program of a start that has its video writer. -/
theorem equips_program {α : Type} {p : StoreProg α} {point : StoreProg α → Call}
    {onReturn : α → System} {request : RecordingStartRequest}
    (h : s.Equips setup request.recordingId)
    (hops : p.Uses (fun o => ∃ id path, IsOutput id path ∧ WritesTo path o) (fun _ => True)
      fun _ => True)
    (hpoint : ∀ q (u : System), u.Equips setup request.recordingId → (point q).Equipped setup u)
    (hret : ∀ a call', (onReturn a).holder = some call' → call'.Equipped setup (onReturn a)) :
    ∀ call', (s.advance c point onReturn (fun e => s.hold (.startFailed request e)) p).holder =
        some call' → call'.Equipped setup
          (s.advance c point onReturn (fun e => s.hold (.startFailed request e)) p) := by
  intro call' hc
  cases p with
  | pure a => exact hret a call' hc
  | throw e =>
    cases hc
    trivial
  | op o k =>
    cases hc
    exact hpoint _ _ ⟨h.stocked.output hops.1 c, h.filming⟩

theorem equipped_starting {call : Call} (hk : s.core.Control) (hs : s.Storage setup)
    (h : s.Equipped setup) (hh : s.holder = some call)
    (hstarts : call.building ≠ none ∨ call.preparing ≠ none)
    (he : s.callStep setup c call = some t) :
    ∀ call', t.holder = some call' → call'.Equipped setup t := by
  have hctl := hk.call hh
  have hstorage := hs.call call hh
  have hcall := h.call call hh
  cases call with
  | startPreparing request canonical p =>
    cases he
    obtain ⟨hfree, hmanaged⟩ := hcall
    intro call' hc
    cases p with
    | pure paths =>
      have hpaths : paths = artifactPaths request.recordingId := hctl.2
      subst hpaths
      cases hc
      refine ⟨⟨hmanaged.of_pure, hfree.of_pure⟩, ?_⟩
      have hspec : Spec anyChoice ∅ (Changes {videoPath request.recordingId}) (fun _ => True)
        (ColorVideoWriter.construct (writerConfig setup (artifactPaths request.recordingId))) _ _ :=
        ColorVideoWriter.construct_present rfl
      exact hspec s.machine trivial
    | throw e =>
      cases hc
      trivial
    | op o k =>
      cases hc
      exact ⟨(hfree.op_step c trivial).2, (hmanaged.op_step c trivial).2⟩
  | startWriter request canonical p =>
    cases he
    obtain ⟨hvacant, hpresent⟩ := hcall
    obtain ⟨-, -, huses⟩ := hstorage
    intro call' hc
    cases p with
    | pure w =>
      have hwriter : w = { config := writerConfig setup (artifactPaths request.recordingId)
                           headerWritten := true } := huses
      cases hc
      refine ⟨⟨hvacant, hpresent.of_pure⟩, w, rfl, ?_⟩
      rw [hwriter]
      exact ⟨rfl, rfl⟩
    | throw e =>
      cases hc
      trivial
    | op o k =>
      cases hc
      obtain ⟨hd, hrest⟩ := hpresent.op_step c trivial
      exact ⟨hvacant.output (hd.mono (video_subset _)), hrest⟩
  | startReleaseWriter request canonical p =>
    cases he
    have hequips : s.Equips setup request.recordingId := hcall
    refine equips_program hequips hstorage.2.2 (fun _ _ hu => hu) ?_
    rintro a _ ⟨⟩
    exact ⟨hequips.stocked, hequips.filming⟩
  | startSidecar request canonical p =>
    cases he
    have hequips : s.Equips setup request.recordingId := hcall
    have hops : p.Uses (fun o => ∃ id path, IsOutput id path ∧ WritesTo path o) (fun _ => True)
        fun _ => True :=
      hstorage.2.2.mono (fun _ ho => ⟨request.recordingId, _, .inr rfl, ho⟩) (fun _ _ => trivial)
        fun _ h => h
    refine equips_program hequips hops (fun _ _ hu => hu) ?_
    rintro a _ ⟨⟩
    exact ⟨hequips.stocked, hequips.filming⟩
  | startReleaseSidecar request canonical p =>
    cases he
    have hequips : s.Equips setup request.recordingId := hcall
    refine equips_program hequips hstorage.2.2 (fun _ _ hu => hu) ?_
    rintro a _ ⟨⟩
    exact ⟨hequips.stocked, hequips.filming⟩
  | startPublish request canonical =>
    cases he
    have hequips : s.Equips setup request.recordingId := hcall
    rintro _ ⟨⟩
    exact ⟨hequips.stocked, hequips.filming⟩
  | startSpawn request =>
    change (if c.fails = true then _ else _) = some t at he
    split at he <;> cases he
    · rintro _ ⟨⟩
      trivial
    · rintro _ ⟨⟩
      trivial
  | startRecording request =>
    cases he
    rintro _ ⟨⟩
    trivial
  | startAdmit request =>
    cases he
    intro call' hc
    cases hc
  | _ => rcases hstarts with hb | hp <;> contradiction

/-- A start that finds no artifact prepares its own. -/
theorem equipped_lookedUp {request : RecordingStartRequest} {canonical : ByteString}
    {p : StoreProg (Option PersistedRecordingArtifact)} (hs : s.Storage setup)
    (hh : s.holder = some (.startLookup request canonical p))
    (he : s.callStep setup c (.startLookup request canonical p) = some t) :
    ∀ call', t.holder = some call' → call'.Equipped setup t := by
  obtain ⟨-, hruns⟩ := hs.call _ hh
  cases he
  intro call' hc
  cases p with
  | throw e => cases hc
  | op o k =>
    cases hc
    trivial
  | pure r =>
    cases r with
    | some artifact =>
      change (s.startLookedUp setup request canonical (some artifact)).holder = some call' at hc
      simp only [System.startLookedUp] at hc
      split at hc <;> cases hc
    | none =>
      cases hc
      have hfound : ∀ m, s.machine.disk (.artifact m request.recordingId) = none := hruns.of_pure
      have hprepared := prepareStaging_spec setup request s.machine ⟨hs.wellFormed, hfound⟩
      refine ⟨hprepared.mono (fun _ _ h => h.2) fun _ _ _ => trivial, ?_⟩
      exact prepareStaging_managed request .finalized s.machine trivial

end Starts

section Equipped
variable {setup : Setup} {s t : System}

/-- A call beside a worker has nothing to prepare. -/
theorem equipped_of_worker {call : Call} {w : Worker} {u : System} (hk : s.core.Control)
    (hw : s.worker = some w) (hh : s.holder = some call) : call.Equipped setup u := by
  have hctl := hk.call hh
  cases call with
  | startPreparing | startWriter | startReleaseWriter | startSidecar | startReleaseSidecar
  | startPublish | startSpawn => cases hw.symm.trans hctl.1.1
  | _ => trivial

theorem Call.Equipped.of_building {call : Call} (hb : call.building = none)
    (hp : call.preparing = none) : call.Equipped setup s := by
  cases call with
  | startPreparing => cases hp
  | startWriter | startReleaseWriter | startSidecar | startReleaseSidecar | startPublish
  | startSpawn => cases hb
  | _ => trivial

theorem Call.Equipped.quiet {call : Call} (h : call.Equipped setup s)
    (hw : t.impl.writer = s.impl.writer) (hd : t.machine.disk = s.machine.disk) :
    call.Equipped setup t := by
  cases call with
  | startPreparing => exact ⟨runs_quiet hd h.1, runs_quiet hd h.2⟩
  | startWriter =>
    refine ⟨?_, runs_quiet hd h.2⟩
    rw [hd]
    exact h.1
  | startReleaseWriter request | startSidecar request | startReleaseSidecar request
  | startPublish request | startSpawn request =>
    have hequips : s.Equips setup request.recordingId := h
    exact hequips.quiet hw hd
  | _ => trivial

/-- Without a worker only calls do anything. -/
theorem still_step {e : Event} (hw : s.worker = none) (hcall : ∀ c, e ≠ .callStep c)
    (he : s.step setup e = some t) : t.worker = none ∧ ∀ call, t.holder = some call →
      t.impl.writer = s.impl.writer ∧ t.machine.disk = s.machine.disk := by
  cases e with
  | callStep c => exact absurd rfl (hcall c)
  | workerStep c =>
    simp only [System.step, hw, Option.bind_none] at he
    cases he
  | tick | setUnix =>
    cases he
    exact ⟨hw, fun _ _ => ⟨rfl, rfl⟩⟩
  | call api =>
    cases api <;> simp only [System.step, System.enter] at he <;> repeat' split at he
    all_goals cases he
    all_goals exact ⟨hw, fun _ _ => ⟨rfl, rfl⟩⟩
  | join =>
    simp only [System.step] at he
    split at he <;> cases he
    exact ⟨rfl, fun _ _ => ⟨rfl, rfl⟩⟩
  | submit frame =>
    simp only [System.step] at he
    split at he <;> cases he
    unfold System.submit
    repeat' split
    all_goals exact ⟨hw, fun _ _ => ⟨rfl, rfl⟩⟩
  | submitContended frame =>
    simp only [System.step] at he
    split at he <;> cases he
    exact ⟨hw, fun _ _ => ⟨rfl, rfl⟩⟩
  | captureStep =>
    obtain ⟨call, -, rfl⟩ := Option.map_eq_some_iff.mp he
    unfold System.captureStep
    repeat' split
    all_goals exact ⟨hw, fun _ _ => ⟨rfl, rfl⟩⟩
  | crash =>
    cases he
    refine ⟨rfl, fun call hc => ?_⟩
    cases hc

/-- A worker that has left its loop does not come back to it. -/
theorem outside_next {v v' : Lifecycle} {w w' : Worker} (hn : v.Next v') (hw : v.worker = some w)
    (hpc : ∀ k, w.pc ≠ .loop k) (hw' : v'.worker = some w') : ∀ k, w'.pc ≠ .loop k := by
  have hkept : ∀ {u : Lifecycle}, u.worker = v.worker → u.worker = some w' →
      ∀ k, w'.pc ≠ .loop k := by
    intro u hu hw'
    cases hw.symm.trans (hu.symm.trans hw')
    exact hpc
  obtain ⟨id, pc⟩ := w
  cases hn with
  | joined | startJoined | exit => cases hw'
  | spawn hh hw₁ => cases hw.symm.trans hw₁
  | work d hw₁ hm hd =>
    cases hw.symm.trans hw₁
    cases hw'
    intro k hk
    cases hm with
    | within hk' | wake hk' | leave hk' => exact hpc _ rfl
    | _ => cases hk
  | workBegin hh hw₁ hpc₁ | workFinished hh hw₁ hpc₁ | workFailed hh hw₁ hpc₁ =>
    cases hw.symm.trans hw₁
    exact absurd hpc₁ (hpc _)
  | finalized hh hw₁ | faulted hh hw₁ =>
    cases hw.symm.trans hw₁
    cases hw'
    exact fun k hk => by cases hk
  | beginPoint hh hc hc' hf hb =>
    have hbeside := hb.beside
    exact hkept hbeside.worker hw'
  | beginFinished rs hh hc hf hb | beginFailed h' rs hh hc hb =>
    have hbeside := hb.beside
    exact hkept hbeside.worker hw'
  | _ => exact hkept rfl hw'

theorem equipped_calls {e : Event} (hk : s.core.Control) (hs : s.Storage setup)
    (h : s.Equipped setup) (he : s.step setup e = some t) :
    ∀ call, t.holder = some call → call.Equipped setup t := by
  intro call hc
  by_cases hcall : ∃ c, e = .callStep c
  · obtain ⟨c, rfl⟩ := hcall
    obtain ⟨held, hh, hstep⟩ := Option.bind_eq_some_iff.mp he
    by_cases hstarts : held.building ≠ none ∨ held.preparing ≠ none
    · exact equipped_starting hk hs h hh hstarts hstep call hc
    · rw [not_or, not_not, not_not] at hstarts
      have hplain : ∀ held', s.holder = some held' →
          held'.building = none ∧ held'.preparing = none := by
        intro held' hh'
        cases hh.symm.trans hh'
        exact hstarts
      rcases building_next (step_next hk hs he) hplain call hc with
        ⟨hb, hp | ⟨request, canonical, p, hlookup⟩⟩
      · exact .of_building hb hp
      · have hlookup : s.holder = some (.startLookup request canonical p) := hlookup
        cases hh.symm.trans hlookup
        exact equipped_lookedUp hs hh hstep call hc
  · rw [not_exists] at hcall
    rcases holder_step he hcall hc with hold | ⟨api, rfl, henters⟩
    · cases hw : s.worker with
      | some w => exact equipped_of_worker hk hw hold
      | none =>
        obtain ⟨hwriter, hd⟩ := (still_step hw hcall he).2 call hc
        exact (h.call call hold).quiet hwriter hd
    · cases api with
      | destroy =>
        obtain ⟨p, rfl⟩ := henters
        trivial
      | _ =>
        cases henters
        trivial

theorem equipped_step {e : Event} (hk : s.core.Control) (hs : s.Storage setup)
    (h : s.Equipped setup) (he : s.step setup e = some t) : t.Equipped setup := by
  have hn := step_next hk hs he
  refine ⟨equipped_calls hk hs h he, fun w hw' => ?_⟩
  cases hw : s.worker with
  | none =>
    obtain ⟨request, hh, rfl⟩ := spawn_next hn hw hw'
    have hh : s.holder = some (.startSpawn request) := hh
    have hequips : s.Equips setup request.recordingId := h.call _ hh
    by_cases hcall : ∃ c, e = .callStep c
    · obtain ⟨c, rfl⟩ := hcall
      obtain ⟨held, hh', hstep⟩ := Option.bind_eq_some_iff.mp he
      cases hh.symm.trans hh'
      change (if c.fails = true then _ else _) = some t at hstep
      split at hstep <;> cases hstep
      · cases hw.symm.trans hw'
      · exact ⟨⟨hequips.stocked, hequips.filming⟩, trivial⟩
    · cases (still_step hw (not_exists.mp hcall) he).1.symm.trans hw'
  | some v =>
    by_cases hloop : ∃ k, v.pc = .loop k
    · obtain ⟨id, pc⟩ := v
      obtain ⟨k, rfl⟩ := hloop
      by_cases hworker : ∃ c, e = .workerStep c
      · obtain ⟨c, rfl⟩ := hworker
        obtain ⟨v, hv, hstep⟩ := Option.bind_eq_some_iff.mp he
        cases hw.symm.trans hv
        obtain ⟨hequips, hsteady⟩ := h.worker _ hw
        obtain ⟨pc, hpc, hequipped⟩ := onward_loop hk hs hw hequips hsteady hstep
        cases hpc.symm.trans hw'
        exact hequipped
      · rcases other_leavesWorker hk hs hw (not_exists.mp hworker) he with hnone | hleaves
        · cases hnone.symm.trans hw'
        · cases (hleaves.worker.trans hw).symm.trans hw'
          exact (h.worker _ hw).evidence hleaves.writer hleaves.disk
    · have hout := outside_next hn hw (not_exists.mp hloop) hw'
      obtain ⟨id, pc⟩ := w
      cases pc with
      | loop k => exact absurd rfl (hout k)
      | _ => trivial

theorem equipped_reachable {ok : System → Event → System → Prop}
    (h : Reach (IsInitial setup) (System.step setup) ok s) : s.Equipped setup := by
  refine h.invariant _ ?_ fun s e t hs hi he _ =>
    equipped_step (control_reachable hs) (storage_reachable hs) hi he
  rintro s ⟨machine, -, rfl⟩
  constructor
  · intro call hc
    cases hc
  · intro w hw
    cases hw

end Equipped

end NodusVision.Manager
