import NodusVision.Manager.Lifecycle

/-! Every step of the recorder is a step on its recordings. -/
namespace NodusVision.Manager
open Text Storage Disk Program Recording RecordingStore Transition Lifecycle

theorem output_program_changes {o : FsOp} (ho : ∃ id path, IsOutput id path ∧ WritesTo path o)
    (c : Choice) (m : Machine) : Changes outputPaths m.disk (exec o c m).2.disk := by
  obtain ⟨id, path, hpath, ho⟩ := ho
  refine (output_changes hpath ho c m).mono ?_
  rintro p rfl
  exact ⟨id, hpath⟩

section Calls
variable {setup : Setup} {s t : System} {c : Choice}

private theorem hold_next {call call' : Call} (hh : s.holder = some call)
    (hf : s.lifecycle.Follows call call') : Next s.lifecycle (s.hold call').lifecycle :=
  .proceed s.machine.disk hh hf (.refl _ _)

private theorem release_next {call : Call} {r : Return} (hh : s.holder = some call)
    (hr : r.isPlain = true) : Next s.lifecycle (s.release r).lifecycle := .answer r hh hr

/-- A move that ends the preparation of a start or was none of it. -/
private theorem follows_plain {v : Lifecycle} {call call' : Call} (hp : call'.preparing = none)
    (hb : call'.building = none) (hc : call'.closing = none)
    (hl : ∀ request p, call' ≠ .stopLookup request p) : v.Follows call call' :=
  ⟨.inl hp, .inl hb, fun closer b he => (by cases hc.symm.trans he),
    fun request p he => absurd he (hl request p)⟩

/-- A move within the preparation of a start. -/
private theorem follows_start {v : Lifecycle} {call call' : Call} (hp : call'.preparing = call.preparing)
    (hb : call'.building = call.building) (hc : call'.closing = none)
    (hl : ∀ request p, call' ≠ .stopLookup request p) : v.Follows call call' :=
  ⟨.inr hp, .inr hb, fun closer b he => (by cases hc.symm.trans he),
    fun request p he => absurd he (hl request p)⟩

/-- One step of a program of the mutex holder. -/
private theorem advance_next {α : Type} {call : Call} {p : StoreProg α} {point : StoreProg α → Call}
    {onReturn : α → System} {onThrow : Exception → System} (hh : s.holder = some call)
    (hpoint : ∀ p', s.lifecycle.Follows call (point p'))
    (hop : ∀ o k, p = .op o k →
      Changes call.writes s.machine.disk (exec o c s.machine).2.disk)
    (hret : ∀ a, p = .pure a → Next s.lifecycle (onReturn a).lifecycle)
    (hthrow : ∀ e, Next s.lifecycle (onThrow e).lifecycle) :
    Next s.lifecycle (s.advance c point onReturn onThrow p).lifecycle := by
  cases p with
  | pure a => exact hret a rfl
  | throw e => exact hthrow e
  | op o k =>
    have hnext := Next.proceed (v := s.lifecycle) (exec o c s.machine).2.disk hh
      (hpoint (k (exec o c s.machine).1)) (hop o k rfl)
    have hst := exec_steady o c s.machine
    simp only [System.advance, System.lifecycle, hst] at hnext ⊢
    exact hnext

private theorem startEntered_next {request : RecordingStartRequest}
    (hh : s.holder = some (.startEntered request)) :
    Next s.lifecycle (s.startEntered request).lifecycle := by
  unfold System.startEntered
  split
  · exact release_next hh rfl
  · split
    · split
      · exact release_next hh rfl
      · exact release_next hh rfl
    · split
      · exact release_next hh rfl
      · split
        · exact hold_next hh (follows_plain rfl rfl rfl nofun)
        · exact hold_next hh (follows_plain rfl rfl rfl nofun)

private theorem stopEntered_next {request : RecordingStartRequest} (h : s.Storage setup)
    (hh : s.holder = some (.stopEntered request)) :
    Next s.lifecycle (s.stopEntered request).lifecycle := by
  unfold System.stopEntered
  split
  · rename_i hid
    split
    · rename_i hcan
      split
      · exact release_next hh rfl
      · split
        · exact release_next hh rfl
        · exact .repeated hh (h.call _ hh) hid.1 hid.2 hcan
    · exact release_next hh rfl
  · rename_i hid
    refine hold_next hh ⟨.inl rfl, .inl rfl, nofun, ?_⟩
    rintro _ _ ⟨⟩
    exact .inr hid

private theorem stopUnrecorded_next {request : RecordingStartRequest} {p}
    (hv : isStopValid request = true) (hh : s.holder = some (.stopLookup request p)) :
    Next s.lifecycle (s.stopUnrecorded request).lifecycle := by
  unfold System.stopUnrecorded
  split
  · exact release_next hh rfl
  · rename_i hid
    split
    · exact release_next hh rfl
    · rename_i hst
      refine hold_next hh ⟨.inl rfl, .inl rfl, ?_, fun _ _ hl => by cases hl⟩
      rintro _ _ ⟨⟩
      exact ⟨rfl, not_not.mp hst, hv, not_not.mp hid⟩

private theorem stopLookedUp_next {request : RecordingStartRequest}
    {r : Option PersistedRecordingArtifact} (hv : isStopValid request = true)
    (hr : LookupShared request.recordingId s.machine.disk r)
    (hh : s.holder = some (.stopLookup request (.pure r))) :
    Next s.lifecycle (s.stopLookedUp request r).lifecycle := by
  unfold System.stopLookedUp
  split
  · exact stopUnrecorded_next hv hh
  · rename_i artifact
    split
    · exact stopUnrecorded_next hv hh
    · rename_i evidence hev
      split
      · exact release_next hh rfl
      · rename_i heq
        split
        · rename_i hfin
          unfold System.stopReplayed
          split
          · rename_i hst
            have hheld := (hr artifact rfl).2 hfin
            have hnext := Next.stopRestored (v := s.lifecycle) hh hfin hst hv
              (hev.trans (congrArg some (not_not.mp heq))) hheld
            simp only [System.restorePersistedArtifactLocked, hfin, if_true]
            exact hnext
          · exact release_next hh rfl
        · split
          · exact release_next hh rfl
          · exact stopUnrecorded_next hv hh

private theorem startLookedUp_next {request : RecordingStartRequest} {canonical : ByteString}
    {r : Option PersistedRecordingArtifact} (hq : s.core.Quiet) (hc : Canonical request canonical)
    (hr : LookupFound request.recordingId s.machine.disk r)
    (hh : s.holder = some (.startLookup request canonical (.pure r))) :
    Next s.lifecycle (s.startLookedUp setup request canonical r).lifecycle := by
  cases r with
  | none => exact Next.prepare (v := s.lifecycle) hh hq.1 hr _
  | some artifact =>
    simp only [System.startLookedUp]
    split
    · exact release_next hh rfl
    · rename_i heq
      have hnext := Next.startRestored (v := s.lifecycle) hh hq.1 hc (not_not.mp heq) hr.2
      simp only [System.restorePersistedArtifactLocked, if_pos hc.ne_nil]
      exact hnext

/-- What one step of `beginFinalizationLocked` does to the recordings. -/
private theorem begin_next (setup : Setup) {closer : Closer} {point : System → BeginPc → System}
    {finish : System → System} {rethrow : System → Exception → System} {b : BeginPc}
    (hf : b.Flags s.core) (hb : b.Storage s.machine s.impl.recordingId closer) :
    (∃ u b', b.step setup s c closer point finish rethrow = point u b' ∧
        u.worker = s.worker ∧ s.lifecycle.Begins closer b (.point b') u.lifecycle) ∨
      (∃ u, b.step setup s c closer point finish rethrow = finish u ∧
        u.worker = s.worker ∧ s.lifecycle.Begins closer b .finished u.lifecycle) ∨
      ∃ u e, b.step setup s c closer point finish rethrow = rethrow u e ∧
        u.worker = s.worker ∧ s.lifecycle.Begins closer b (.failed e) u.lifecycle := by
  cases b with
  | enter => exact .inl ⟨_, _, rfl, rfl, .enter⟩
  | closeAdmission => exact .inl ⟨_, _, rfl, rfl, .close _ _⟩
  | evidence p =>
    cases p with
    | pure a => exact .inl ⟨_, _, rfl, rfl, .written a⟩
    | throw e => exact .inl ⟨_, _, rfl, rfl, .unwritten e⟩
    | op o k =>
      have hr : Runs outputPaths (Changes (writtenPaths s.impl.recordingId .stopRequest))
        (.op o k) (fun _ d => StopIs d s.impl.recordingId (closer.evidence s.impl.recordingId))
        s.machine := hb
      have hd := (hr.op_step c trivial).1
      have hnext : s.lifecycle.Begins closer _ _ _ :=
        .write (exec o c s.machine).2.disk (.op o k) (k (exec o c s.machine).1) hd
      refine .inl ⟨_, _, rfl, rfl, ?_⟩
      simpa only [System.lifecycle, exec_steady] using hnext
  | checkDeadline =>
    simp only [BeginPc.step]
    split
    · rename_i hlate
      exact .inl ⟨_, _, rfl, rfl, .late ⟨hf.2.2, hlate⟩⟩
    · rename_i hlate
      exact .inr (.inl ⟨_, rfl, rfl, .finish (not_le.mp hlate) hb⟩)
  | fail e => exact .inr (.inr ⟨_, _, rfl, rfl, .fail e⟩)

theorem callStep_next {call : Call} (hk : s.core.Control) (h : s.Storage setup)
    (hh : s.holder = some call) (he : s.callStep setup c call = some t) :
    Next s.lifecycle t.lifecycle := by
  have hctl := hk.call hh
  have hcall := h.call call hh
  cases call with
  | startEntered request =>
    cases he
    exact startEntered_next hh
  | startJoining request canonical =>
    change (if s.workerLive = true then none else _) = some t at he
    split at he
    · cases he
    · rename_i hdead
      cases he
      refine .startJoined hh (fun w hw => ?_) _
      have hw : s.worker = some w := hw
      simpa [System.workerLive, hw] using hdead
  | startLookup request canonical p =>
    cases he
    obtain ⟨hc, hr⟩ := hcall
    refine advance_next hh (fun _ => follows_plain rfl rfl rfl (by rintro _ _ ⟨⟩)) ?_ ?_
      fun _ => release_next hh rfl
    · rintro o k rfl
      exact (show _ = _ from (hr.op_step c trivial).1) ▸ .refl _ _
    · rintro r rfl
      exact startLookedUp_next hctl hc hr.of_pure hh
  | startPreparing request canonical p =>
    cases he
    obtain ⟨⟨hw, -, hstate⟩, -⟩ := hctl
    obtain ⟨hc, hr⟩ := hcall
    refine advance_next hh (fun _ => follows_start rfl rfl rfl (by rintro _ _ ⟨⟩)) ?_ ?_
      fun _ => hold_next hh (follows_plain rfl rfl rfl (by rintro _ _ ⟨⟩))
    · rintro o k rfl
      exact (hr.op_step c trivial).1
    · rintro paths rfl
      exact .create hh hw hstate hr.of_pure _
  | startWriter request canonical p =>
    cases he
    obtain ⟨hc, hs, hu⟩ := hcall
    refine advance_next hh (fun _ => follows_start rfl rfl rfl (by rintro _ _ ⟨⟩)) ?_
      (fun _ _ => .proceed s.machine.disk hh (follows_start rfl rfl rfl (by rintro _ _ ⟨⟩)) (.refl _ _))
      fun _ => hold_next hh (follows_plain rfl rfl rfl (by rintro _ _ ⟨⟩))
    rintro o k rfl
    exact (output_changes (.inl rfl) hu.1 c s.machine).mono (video_subset _)
  | startReleaseWriter request canonical p =>
    cases he
    obtain ⟨hc, hs, hu⟩ := hcall
    refine advance_next hh (fun _ => follows_start rfl rfl rfl (by rintro _ _ ⟨⟩)) ?_
      (fun _ _ => hold_next hh (follows_start rfl rfl rfl (by rintro _ _ ⟨⟩)))
      fun _ => hold_next hh (follows_plain rfl rfl rfl (by rintro _ _ ⟨⟩))
    rintro o k rfl
    exact output_program_changes hu.1 c s.machine
  | startSidecar request canonical p =>
    cases he
    obtain ⟨hc, hs, hu⟩ := hcall
    refine advance_next hh (fun _ => follows_start rfl rfl rfl (by rintro _ _ ⟨⟩)) ?_
      (fun _ _ => .proceed s.machine.disk hh (follows_start rfl rfl rfl (by rintro _ _ ⟨⟩)) (.refl _ _))
      fun _ => hold_next hh (follows_plain rfl rfl rfl (by rintro _ _ ⟨⟩))
    rintro o k rfl
    exact (output_changes (.inr rfl) hu.1 c s.machine).mono (sidecar_subset _)
  | startReleaseSidecar request canonical p =>
    cases he
    obtain ⟨hc, hs, hu⟩ := hcall
    refine advance_next hh (fun _ => follows_start rfl rfl rfl (by rintro _ _ ⟨⟩)) ?_
      (fun _ _ => hold_next hh (follows_start rfl rfl rfl (by rintro _ _ ⟨⟩)))
      fun _ => hold_next hh (follows_plain rfl rfl rfl (by rintro _ _ ⟨⟩))
    rintro o k rfl
    exact output_program_changes hu.1 c s.machine
  | startPublish request canonical =>
    cases he
    exact .publish hh hctl.1.1 hctl.1.2.2 hcall.1 hcall.2
  | startSpawn request =>
    obtain ⟨⟨hw, -, hstate⟩, hrun, hid, -, hin⟩ := hctl
    change (if c.fails = true then _ else _) = some t at he
    split at he
    · cases he
      exact hold_next hh (follows_plain rfl rfl rfl (by rintro _ _ ⟨⟩))
    · cases he
      have hp : Published request s.machine s.impl := hcall
      exact .spawn hh hw hstate hrun hid hin hp.started
  | startRecording request =>
    cases he
    obtain ⟨-, hsess, hstate, -⟩ := hctl
    exact .record hh hstate hsess.1
  | startAdmit request =>
    cases he
    have hp : Published request s.machine s.impl := hcall
    exact .started hh hctl.2.1.1 hp.requestId hp.canonical hp.started
  | startFailed request e =>
    cases he
    exact .startFailed hh hctl.1 hctl.2.2
  | startRethrow request e =>
    cases he
    exact .answer _ hh rfl
  | stopEntered request =>
    cases he
    exact stopEntered_next h hh
  | stopLookup request p =>
    cases he
    obtain ⟨hid, hr⟩ := hcall
    refine advance_next hh (fun p' => ⟨.inl rfl, .inl rfl, (fun _ _ hc => by cases hc), ?_⟩) ?_ ?_
      fun _ => release_next hh rfl
    · rintro _ _ ⟨⟩
      exact .inl ⟨p, rfl⟩
    · rintro o k rfl
      exact (show _ = _ from (hr.op_step c trivial).1) ▸ .refl _ _
    · rintro r rfl
      exact stopLookedUp_next hid hr.of_pure hh
  | stopBegin request b =>
    cases he
    obtain ⟨-, hf, hid⟩ := hctl
    have hfor : Closer.IsFor s.lifecycle.recordingId (.requested request) := ⟨hcall.1, hid⟩
    rcases begin_next setup hf hcall.2 with
      ⟨u, b', he, -, hb⟩ | ⟨u, he, -, hb⟩ | ⟨u, e, he, -, hb⟩
    · rw [he]
      exact .beginPoint hh rfl rfl hfor hb
    · rw [he]
      refine .beginFinished [.stop request (.ok .accepted)] hh rfl hfor hb ?_
      rintro _ hr
      exact ⟨request, rfl, List.mem_singleton.mp hr⟩
    · rw [he]
      refine .beginFailed none [.stop request (.error e)] hh rfl hb (.inl rfl) ?_
      rintro r hr
      rw [List.mem_singleton.mp hr]
      rfl
  | shutdownEntered =>
    cases he
    unfold System.shutdownEntered
    split
    · rename_i hstate
      refine hold_next hh ⟨.inl rfl, .inl rfl, ?_, fun _ _ hl => by cases hl⟩
      rintro _ _ ⟨⟩
      exact ⟨rfl, hstate, trivial⟩
    · split
      · exact .await hh
      · exact release_next hh rfl
  | shutdownBegin b =>
    cases he
    obtain ⟨-, hf⟩ := hctl
    have hfor : Closer.IsFor s.lifecycle.recordingId .applicationShutdown := trivial
    rcases begin_next setup hf hcall with
      ⟨u, b', he, -, hb⟩ | ⟨u, he, -, hb⟩ | ⟨u, e, he, -, hb⟩
    · rw [he]
      exact .beginPoint hh rfl rfl hfor hb
    · rw [he]
      exact .beginFinished [] hh rfl hfor hb (List.forall_mem_nil _)
    · rw [he]
      exact .beginFailed (some .shutdownCatch) [] hh rfl hb (.inr rfl) (List.forall_mem_nil _)
  | shutdownCatch =>
    cases he
    exact Next.shutdownCatch (v := s.lifecycle) hh hctl.2.2.2 hctl.2.2.1
  | destroying p =>
    cases he
    have hu : OutputProgram p fun _ => True := hcall
    refine advance_next hh (fun _ => follows_plain rfl rfl rfl (by rintro _ _ ⟨⟩)) ?_ (fun _ _ => .exit) fun _ => .exit
    rintro o k rfl
    exact output_program_changes hu.1 c s.machine

end Calls

section Workers
variable {setup : Setup} {s t : System} {c : Choice} {w : Worker} {pc : WorkerPc}

private theorem move_next {u : System} (hw : s.worker = some w) (hm : s.lifecycle.Moves w.pc pc)
    (hu : u.lifecycle = s.lifecycle) : Next s.lifecycle (u.moveWorker pc).lifecycle := by
  have hnext := Next.work (v := s.lifecycle) s.machine.disk hw hm (.refl _ _)
  have hlife : (u.moveWorker pc).lifecycle = s.lifecycle.moveWorker w pc := by
    have hw' : u.worker = some w := (congrArg Lifecycle.worker hu).trans hw
    simp only [Lifecycle.moveWorker, ← hu]
    simp only [System.moveWorker, System.lifecycle, hw', Option.map_some]
  rw [hlife]
  exact hnext

/-- One step of a program of the worker. -/
private theorem advanceWorker_next {α : Type} {p : StoreProg α} {point : StoreProg α → WorkerPc}
    {onReturn : α → System} {onThrow : Exception → System} (hw : s.worker = some w)
    (hpoint : ∀ p', s.lifecycle.Moves w.pc (point p'))
    (hop : ∀ o k, p = .op o k →
      Changes (w.pc.writes w.recordingId) s.machine.disk (exec o c s.machine).2.disk)
    (hret : ∀ a, p = .pure a → Next s.lifecycle (onReturn a).lifecycle)
    (hthrow : ∀ e, p = .throw e → Next s.lifecycle (onThrow e).lifecycle) :
    Next s.lifecycle (s.advanceWorker c point onReturn onThrow p).lifecycle := by
  cases p with
  | pure a => exact hret a rfl
  | throw e => exact hthrow e rfl
  | op o k =>
    have hnext := Next.work (v := s.lifecycle) (exec o c s.machine).2.disk hw
      (hpoint (k (exec o c s.machine).1)) (hop o k rfl)
    have hst := exec_steady o c s.machine
    simp only [System.advanceWorker, System.moveWorker, System.lifecycle, Lifecycle.moveWorker, hw,
      Option.map_some, hst] at hnext ⊢
    exact hnext

private theorem dispatch_next {k : LoopPc} (hw : s.worker = some w) (hpc : w.pc = .loop k)
    (hk : (WorkerPc.loop k).inLoop = true ∨ k = .dispatch) :
    Next s.lifecycle s.dispatch.lifecycle := by
  have hm : (WorkerPc.loop k).holdsMutex = true → WorkerPc.loop k = .loop .dispatch := by
    intro hm
    rcases hk with hk | rfl
    · cases hm.symm.trans (outside_of_inLoop hk)
    · rfl
  unfold System.dispatch
  split
  · rename_i hstop
    exact move_next hw (hpc ▸ .leave hk hstop.2) rfl
  · split
    · exact move_next (u := { s with impl := { s.impl with queue := s.impl.queue.pop } }) hw
        (hpc ▸ .within hk rfl) rfl
    · exact move_next hw (hpc ▸ .fault rfl hm nofun nofun) rfl

private theorem afterWait_next {k : LoopPc} (hw : s.worker = some w) (hpc : w.pc = .loop k)
    (hk : (WorkerPc.loop k).inLoop = true) : Next s.lifecycle s.afterWait.lifecycle := by
  unfold System.afterWait
  split
  · rename_i hrun
    exact move_next hw (hpc ▸ .wake hk hrun.1) rfl
  · exact dispatch_next hw hpc (.inl hk)

/-- A step of the loop outside `beginFinalizationLocked`. -/
private theorem within_next {u : System} {k l : LoopPc} (hw : s.worker = some w)
    (hpc : w.pc = .loop k) (hk : (WorkerPc.loop k).inLoop = true)
    (hl : (WorkerPc.loop l).inLoop = true) (hu : u.lifecycle = s.lifecycle) :
    Next s.lifecycle (u.moveWorker (.loop l)).lifecycle :=
  move_next hw (hpc ▸ .within (.inl hk) hl) hu

private theorem loop_fault_next {k : LoopPc} (hw : s.worker = some w) (hpc : w.pc = .loop k)
    (hk : (WorkerPc.loop k).inLoop = true) : Next s.lifecycle (s.moveWorker .fault).lifecycle := by
  refine move_next hw (hpc ▸ .fault rfl (fun hm => ?_) nofun nofun) rfl
  cases hm.symm.trans (outside_of_inLoop hk)

private theorem stutter_next : Next s.lifecycle s.lifecycle := .tick _ le_rfl

theorem loopStep_next {id : ByteString} {k : LoopPc} (hk : s.core.Control) (h : s.Storage setup)
    (hw : s.worker = some ⟨id, .loop k⟩) (he : s.loopStep setup c k = some t) :
    Next s.lifecycle t.lifecycle := by
  have hpc := h.worker _ hw
  cases k with
  | acquire =>
    change (if s.holder.isSome = true then none else _) = some t at he
    split at he
    · cases he
    · split at he <;> cases he
      · exact within_next hw rfl rfl rfl rfl
      · exact afterWait_next hw rfl rfl
  | waiting =>
    change (if s.holder.isSome = true then none else _) = some t at he
    split at he
    · cases he
    · split at he <;> cases he
      · exact afterWait_next hw rfl rfl
      · exact stutter_next
  | begin b =>
    cases he
    have hn : s.holder = none := by
      by_contra hne
      obtain ⟨call, hh⟩ := Option.ne_none_iff_exists'.mp hne
      cases hk.released hh _ hw
    obtain ⟨hsess, hf⟩ : s.core.Session _ ∧ b.Flags s.core := hk.worker hn hw rfl
    have hid : s.impl.recordingId = id := hsess.1
    have hlife : ∀ (u : System) (pc : WorkerPc), u.worker = s.worker →
        (u.moveWorker pc).lifecycle = u.lifecycle.moveWorker ⟨id, .loop (.begin b)⟩ pc := by
      intro u pc hu
      simp only [System.moveWorker, System.lifecycle, Lifecycle.moveWorker, hu, hw, Option.map_some]
    rcases begin_next setup hf (hid ▸ hpc.2) with
      ⟨u, b', he, hu, hb⟩ | ⟨u, he, hu, hb⟩ | ⟨u, e, he, hu, hb⟩
    · rw [he, hlife u _ hu]
      exact .workBegin hn hw rfl hid hsess.2.2 hb
    · rw [he, hlife u _ hu]
      exact .workFinished hn hw rfl hid hsess.2.2 hb
    · rw [he, hlife u _ hu]
      exact .workFailed hn hw rfl hid hsess.2.2 hb
  | dispatch =>
    cases he
    exact dispatch_next hw rfl (.inr rfl)
  | frameDeadline frame =>
    change (if s.holder.isSome = true then none else _) = some t at he
    split at he
    · cases he
    · cases he
      unfold System.requireDeadline
      split
      · exact loop_fault_next hw rfl rfl
      · exact within_next hw rfl rfl rfl rfl
  | checkFrame frame =>
    simp only [System.loopStep] at he
    split at he <;> cases he
    · exact within_next hw rfl rfl rfl rfl
    · exact loop_fault_next hw rfl rfl
  | writeFrame frame p =>
    cases he
    obtain ⟨-, i, hu⟩ := hpc
    refine advanceWorker_next hw (fun _ => .within (.inl rfl) rfl) ?_ ?_ ?_
    · rintro o k rfl
      exact (output_changes (.inl rfl) hu.1 c s.machine).mono (video_subset i)
    · rintro r -
      split
      · exact within_next (u := { s with impl := { s.impl with writer := some r.2 } }) hw rfl rfl
          rfl rfl
      · exact loop_fault_next (s := { s with impl := { s.impl with writer := some r.2 } }) hw rfl rfl
    · exact fun _ _ => loop_fault_next hw rfl rfl
  | appendFrame frame p =>
    cases he
    obtain ⟨-, i, hu⟩ := hpc
    refine advanceWorker_next hw (fun _ => .within (.inl rfl) rfl) ?_ ?_ ?_
    · rintro o k rfl
      exact (output_changes (.inr rfl) hu.1 c s.machine).mono (sidecar_subset i)
    · exact fun r _ => within_next (u := { s with impl := { s.impl with sidecar := some r } }) hw rfl
        rfl rfl rfl
    · exact fun _ _ => loop_fault_next hw rfl rfl
  | countFrame frame =>
    change (if s.holder.isSome = true then none else _) = some t at he
    split at he
    · cases he
    · cases he
      exact within_next (u := s.countFrame frame) hw rfl rfl rfl rfl

private theorem closing_fault_next {j : ClosingPc} (hw : s.worker = some w)
    (hpc : w.pc = .closing j) (ha : ∀ p, j = .activate p → ∃ e, p = .throw e)
    (hp : j ≠ .publish) : Next s.lifecycle (s.moveWorker .fault).lifecycle := by
  refine move_next hw (hpc ▸ .fault rfl nofun ?_ ?_) rfl
  · rintro p ⟨⟩
    exact ha p rfl
  · rintro ⟨⟩
    exact hp rfl

private theorem closing_next {u : System} {j k : ClosingPc} (hw : s.worker = some w)
    (hpc : w.pc = .closing j) (hj : j ≠ .deadline1) (hk : k ≠ .deadline1 ∧ k ≠ .publish)
    (ha : ∀ p, j ≠ .activate p) (hu : u.lifecycle = s.lifecycle) :
    Next s.lifecycle (u.moveWorker (.closing k)).lifecycle :=
  move_next hw (hpc ▸ .closing hj hk fun p hp => absurd hp (ha p)) hu

/-- A deadline check of the worker. -/
private theorem deadline_next {j k : ClosingPc} (hw : s.worker = some w)
    (hpc : w.pc = .closing j) (hk : k ≠ .deadline1 ∧ k ≠ .publish)
    (ha : ∀ p, j ≠ .activate p) (hp : j ≠ .publish) :
    Next s.lifecycle (s.requireDeadline (.closing k)).lifecycle := by
  unfold System.requireDeadline
  split
  · exact closing_fault_next hw hpc (fun p he => absurd he (ha p)) hp
  · rename_i hlate
    by_cases hj : j = .deadline1
    · subst hj
      exact move_next hw (hpc ▸ .close hk hlate) rfl
    · exact closing_next hw hpc hj hk ha rfl

/-- A program of the worker other than the activation. -/
private theorem program_next {α : Type} {p : StoreProg α} {point : StoreProg α → ClosingPc}
    {j : ClosingPc} {after : α → System}
    (hw : s.worker = some w) (hpc : w.pc = .closing j) (hj : j ≠ .deadline1 ∧ j ≠ .publish)
    (ha : ∀ p, j ≠ .activate p) (hpoint : ∀ p', point p' ≠ .deadline1 ∧ point p' ≠ .publish)
    (hop : ∀ o k, p = .op o k →
      Changes (w.pc.writes w.recordingId) s.machine.disk (exec o c s.machine).2.disk)
    (hret : ∀ a, Next s.lifecycle (after a).lifecycle) :
    Next s.lifecycle (s.advanceWorker c (fun p => .closing (point p)) after
      (fun _ => s.moveWorker .fault) p).lifecycle := by
  refine advanceWorker_next hw (fun p' => ?_) hop (fun a _ => hret a) fun _ _ => ?_
  · exact hpc ▸ .closing hj.1 (hpoint p') fun p hp => absurd hp (ha p)
  · exact closing_fault_next hw hpc (fun p he => absurd he (ha p)) hj.2

theorem closingStep_next {id : ByteString} {j : ClosingPc} (h : s.Storage setup)
    (hw : s.worker = some ⟨id, .closing j⟩) (he : s.closingStep setup c j = some t) :
    Next s.lifecycle t.lifecycle := by
  have hpc := h.worker _ hw
  cases j with
  | deadline1 | deadline2 =>
    change (if s.holder.isSome = true then none else _) = some t at he
    split at he
    · cases he
    · split at he <;> cases he
      · exact deadline_next hw rfl ⟨nofun, nofun⟩ nofun nofun
      · exact closing_fault_next hw rfl nofun nofun
  | deadline3 | deadline4 | deadline5 =>
    change (if s.holder.isSome = true then none else _) = some t at he
    split at he
    · cases he
    · cases he
      exact deadline_next hw rfl ⟨nofun, nofun⟩ nofun nofun
  | readDeadline =>
    change (if s.holder.isSome = true then none else _) = some t at he
    split at he
    · cases he
    · cases he
      exact closing_next hw rfl nofun ⟨nofun, nofun⟩ nofun rfl
  | snapshot video sidecar =>
    change (if s.holder.isSome = true then none else _) = some t at he
    split at he
    · cases he
    · cases he
      exact move_next hw (.closing nofun ⟨nofun, nofun⟩ nofun) rfl
  | writer p =>
    cases he
    obtain ⟨-, i, hu⟩ := hpc
    refine program_next hw rfl ⟨nofun, nofun⟩ nofun (fun _ => ⟨nofun, nofun⟩) ?_ fun a =>
      closing_next (u := { s with impl := { s.impl with writer := some a } }) hw rfl nofun
        ⟨nofun, nofun⟩ nofun rfl
    rintro o k rfl
    exact (output_changes (.inl rfl) hu.1 c s.machine).mono (video_subset i)
  | sidecar p =>
    cases he
    obtain ⟨-, i, hu⟩ := hpc
    refine program_next hw rfl ⟨nofun, nofun⟩ nofun (fun _ => ⟨nofun, nofun⟩) ?_ fun a =>
      closing_next (u := { s with impl := { s.impl with sidecar := some a } }) hw rfl nofun
        ⟨nofun, nofun⟩ nofun rfl
    rintro o k rfl
    exact (output_changes (.inr rfl) hu.1 c s.machine).mono (sidecar_subset i)
  | digestVideo deadline p =>
    cases he
    refine program_next hw rfl ⟨nofun, nofun⟩ nofun (fun _ => ⟨nofun, nofun⟩) ?_ fun a =>
      closing_next hw rfl nofun ⟨nofun, nofun⟩ nofun rfl
    rintro o k rfl
    rw [hpc.2.1 c s.machine]
    exact .refl _ _
  | digestSidecar video p =>
    cases he
    refine program_next hw rfl ⟨nofun, nofun⟩ nofun (fun _ => ⟨nofun, nofun⟩) ?_ fun a =>
      closing_next hw rfl nofun ⟨nofun, nofun⟩ nofun rfl
    rintro o k rfl
    rw [hpc.2.1 c s.machine]
    exact .refl _ _
  | writeManifest manifest video sidecar =>
    rw [closingStep_writeManifest] at he
    split at he <;> cases he
    · exact closing_next hw rfl nofun ⟨nofun, nofun⟩ nofun rfl
    · exact closing_fault_next hw rfl nofun nofun
  | manifest p =>
    cases he
    refine program_next hw rfl ⟨nofun, nofun⟩ nofun (fun _ => ⟨nofun, nofun⟩) ?_ fun a =>
      closing_next hw rfl nofun ⟨nofun, nofun⟩ nofun rfl
    rintro o k rfl
    exact (hpc.2.op_step c trivial).1
  | activate p =>
    cases he
    obtain ⟨-, hr⟩ := hpc
    refine advanceWorker_next hw (fun q => ?_) ?_ ?_ ?_
    · exact .closing nofun ⟨nofun, nofun⟩ fun _ _ => ⟨q, rfl⟩
    · rintro o k rfl
      exact (hr.op_step c trivial).1.changes
    · rintro a rfl
      exact move_next hw (.activated a) rfl
    · rintro e rfl
      refine closing_fault_next hw rfl ?_ nofun
      rintro _ ⟨⟩
      exact ⟨e, rfl⟩
  | publish =>
    change (if s.holder.isSome = true then none else _) = some t at he
    split at he
    · cases he
    · rename_i hn
      cases he
      have hn : s.holder = none := by simpa using hn
      have hnext := Next.finalized (v := s.lifecycle) hn hw rfl hpc
      simp only [System.moveWorker, System.setState, System.lifecycle, Lifecycle.moveWorker,
        Lifecycle.store, hw, Option.map_some, History.store] at hnext ⊢
      exact hnext

theorem workerStep_next (hk : s.core.Control) (h : s.Storage setup) (hw : s.worker = some w)
    (he : s.workerStep setup c w.pc = some t) : Next s.lifecycle t.lifecycle := by
  obtain ⟨id, pc⟩ := w
  cases pc with
  | loop k => exact loopStep_next hk h hw he
  | closing j => exact closingStep_next h hw he
  | fault =>
    simp only [System.workerStep] at he
    split at he
    · cases he
    · rename_i hn
      cases he
      have hn : s.holder = none := by simpa using hn
      have hnext := Next.faulted (v := s.lifecycle) hn hw rfl
      simp only [System.moveWorker, System.workerCatch, System.lifecycle, Lifecycle.moveWorker,
        Lifecycle.store, hw, Option.map_some, History.store] at hnext ⊢
      exact hnext
  | finished => cases he

end Workers

section Step
variable {setup : Setup} {s t : System}

theorem enter_next {call : ApiCall} (he : s.enter call = some t) : Next s.lifecycle t.lifecycle := by
  have hfree : s.mutexFree = true → s.holder = none := by
    intro hm
    simp only [System.mutexFree, Bool.and_eq_true, Option.isNone_iff_eq_none] at hm
    exact hm.1
  cases call with
  | start request =>
    simp only [System.enter] at he
    split at he <;> cases he
    exact .enter _ none (hfree ‹_›) (fun _ h => by rcases h with h | h <;> cases h) rfl (.inr rfl)
  | stop request =>
    simp only [System.enter] at he
    split at he
    · cases he
      exact .reject _ rfl
    · split at he <;> cases he
      exact .enter _ _ (hfree ‹_›) (fun _ h => by rcases h with h | h <;> cases h) rfl (.inl rfl)
  | shutdown =>
    simp only [System.enter] at he
    split at he <;> cases he
    exact .enter _ _ (hfree ‹_›) (fun _ h => by rcases h with h | h <;> cases h) rfl (.inl rfl)
  | destroy =>
    simp only [System.enter] at he
    split at he <;> cases he
    rename_i hm
    exact .enter _ _ (hfree hm.1) (fun _ h => by rcases h with h | h <;> cases h) rfl (.inl rfl)

/-- The recorder refines its lifecycle. -/
theorem step_next {e : Event} (hk : s.core.Control) (h : s.Storage setup)
    (he : s.step setup e = some t) : Next s.lifecycle t.lifecycle := by
  cases e with
  | tick ns =>
    cases he
    exact .tick _ (Nat.le_add_right _ ns)
  | setUnix ns =>
    cases he
    exact stutter_next
  | call c => exact enter_next he
  | callStep c =>
    obtain ⟨call, hh, he⟩ := Option.bind_eq_some_iff.mp he
    exact callStep_next hk h hh he
  | workerStep c =>
    obtain ⟨w, hw, he⟩ := Option.bind_eq_some_iff.mp he
    exact workerStep_next hk h hw he
  | join =>
    simp only [System.step] at he
    split at he <;> cases he
    rename_i hj
    refine .joined fun w hw => ?_
    have hw : s.worker = some w := hw
    simpa [System.workerLive, hw] using hj.2
  | submit frame =>
    simp only [System.step] at he
    split at he <;> cases he
    unfold System.submit
    split
    · exact stutter_next
    · split
      · exact stutter_next
      · exact stutter_next
  | submitContended frame =>
    simp only [System.step] at he
    split at he <;> cases he
    exact stutter_next
  | captureStep =>
    obtain ⟨call, -, rfl⟩ := Option.map_eq_some_iff.mp he
    unfold System.captureStep
    split
    · exact stutter_next
    · split
      · exact stutter_next
      · exact stutter_next
  | crash =>
    cases he
    exact .exit

/-- An invariant of the lifecycle holds in every state that is reached. -/
theorem lifecycle_reachable {ok : System → Event → System → Prop} (Inv : Lifecycle → Prop)
    (h0 : ∀ machine, Inv (System.initial setup machine).lifecycle)
    (hstep : ∀ s e t, s.core.Control → s.Storage setup → Inv s.lifecycle → ok s e t →
      Next s.lifecycle t.lifecycle → Inv t.lifecycle)
    (h : Reach (IsInitial setup) (System.step setup) ok s) : Inv s.lifecycle := by
  refine h.invariant (fun s => Inv s.lifecycle) ?_ ?_
  · rintro s ⟨machine, -, rfl⟩
    exact h0 machine
  · intro s e t hs hi he hk
    have hc := control_reachable hs
    have hd := storage_reachable hs
    exact hstep s e t hc hd hi hk (step_next hc hd he)

end Step

end NodusVision.Manager
