import NodusVision.Manager.Storage.Assertions

/-! Every step of an API call keeps the storage invariant. -/
namespace NodusVision.Manager
open Text Storage Disk Program Recording RecordingStore Transition

section Calls
variable {setup : Setup} {s t : System} {c : Choice}

theorem storage_of (h : s.Storage setup) (hk : SameRecording s t)
    (hl : s.machine.disk.Lawful t.machine.disk)
    (hun : t.impl.state = .recording → NoStop t.machine.disk t.impl.recordingId)
    (hwk : ∀ w, s.worker = some w → w.pc.Storage t.machine w.recordingId)
    (hcall : ∀ call, t.holder = some call → call.Storage setup t.machine t.impl) :
    t.Storage setup where
  wellFormed := (hl h.wellFormed).1
  unstopped := hun
  displaced w hw hlive hin := by
    obtain ⟨id, hpaths, hfin⟩ := h.displaced w (hk.worker ▸ hw) hlive (hk.inSession ▸ hin)
    exact ⟨id, hk.paths.trans hpaths, hfin.lawful h.wellFormed hl⟩
  writer w hw := h.writer w (hk.writer ▸ hw)
  sidecar w hw := h.sidecar w (hk.sidecar ▸ hw)
  call := hcall
  worker w hw := hwk w (hk.worker ▸ hw)

/-- A step of the mutex holder that leaves the disk and the recording as they are. -/
theorem storage_quiet (h : s.Storage setup) (hk : SameRecording s t)
    (hd : t.machine.disk = s.machine.disk)
    (hst : t.impl.state = .recording → s.impl.state = .recording)
    (hcall : ∀ call, t.holder = some call → call.Storage setup t.machine t.impl) :
    t.Storage setup := by
  refine storage_of h hk (hd ▸ .refl _) (fun hr => ?_) (fun w hw => ?_) hcall
  · rw [hd, hk.recordingId]
    exact h.unstopped (hst hr)
  · exact (h.worker w hw).quiet hd

/-- A step beside the call that holds the mutex. -/
theorem storage_aside (h : s.Storage setup) (hk : SameRecording s t)
    (hd : t.machine.disk = s.machine.disk)
    (hst : t.impl.state = .recording → s.impl.state = .recording) (hh : t.holder = s.holder) :
    t.Storage setup :=
  storage_quiet h hk hd hst fun call hc => (h.call call (hh ▸ hc)).quiet hd hk.recordingId hk.start

theorem storage_hold (h : s.Storage setup) {call : Call}
    (hc : call.Storage setup s.machine s.impl) : (s.hold call).Storage setup := by
  refine storage_quiet h ⟨rfl, rfl, rfl, rfl, rfl, rfl, rfl⟩ rfl id ?_
  rintro _ ⟨⟩
  exact hc

theorem storage_release (h : s.Storage setup) (r : Return) : (s.release r).Storage setup :=
  storage_quiet h ⟨rfl, rfl, rfl, rfl, rfl, rfl, rfl⟩ rfl id nofun

/-- A step of a call that has no worker beside it. -/
theorem storage_alone (hw : t.worker = none) (hst : t.impl.state ≠ .recording)
    (hwf : t.machine.disk.WellFormed)
    (hwriter : ∀ w, t.impl.writer = some w → ∃ id, w.config.outputPath = videoPath id)
    (hsidecar : ∀ w, t.impl.sidecar = some w → ∃ id, w.outputPath = sidecarPath id)
    (hcall : ∀ call, t.holder = some call → call.Storage setup t.machine t.impl) :
    t.Storage setup where
  wellFormed := hwf
  unstopped hr := absurd hr hst
  displaced w hw' := by cases hw.symm.trans hw'
  writer := hwriter
  sidecar := hsidecar
  call := hcall
  worker w hw' := by cases hw.symm.trans hw'

theorem exitProcess_storage (hwf : s.machine.disk.WellFormed) : (s.exitProcess setup).Storage setup :=
  storage_alone rfl nofun hwf (fun _ hw => by cases hw) (fun _ hw => by cases hw)
    fun _ hh => by cases hh

private theorem Started.output {id path : ByteString} {p : ManagedPath} {canonical : ByteString}
    {d d' : Disk} (h : Started id canonical d) (hp : IsOutput path p) (hd : Changes {p} d d') :
    Started id canonical d' := by
  have hkeep : ∀ q, (∀ i, ¬IsOutput i q) → d' q = d q := by
    rintro q hq
    refine hd.2 q ?_
    rintro rfl
    exact hq path hp
  refine ⟨(hkeep _ ?_).trans h.staging, (hkeep _ ?_).trans h.start, (hkeep _ ?_).trans h.noStop⟩
  · rintro i (he | he) <;> cases he
  · rintro i (he | he) <;> cases he
  · rintro i (he | he) <;> cases he

theorem releaseWriter_output (h : s.Storage setup) :
    OutputProgram (releaseWriter s.impl.writer) fun _ => True := by
  cases hw : s.impl.writer with
  | none => trivial
  | some w =>
    obtain ⟨id, hid⟩ := h.writer w hw
    exact (hid ▸ ColorVideoWriter.destroy_uses w).mono
      (fun _ ho => ⟨id, videoPath id, .inl rfl, ho⟩) (fun _ h => h) fun _ _ => trivial

theorem releaseSidecar_output (h : s.Storage setup) :
    OutputProgram (releaseSidecar s.impl.sidecar) fun _ => True := by
  cases hw : s.impl.sidecar with
  | none => trivial
  | some w =>
    obtain ⟨id, hid⟩ := h.sidecar w hw
    exact (hid ▸ RecordingSidecarWriter.destroy_uses w).mono
      (fun _ ho => ⟨id, sidecarPath id, .inr rfl, ho⟩) (fun _ h => h) fun _ _ => trivial

theorem canonical_unique {request : RecordingStartRequest} {a b : ByteString}
    (ha : Canonical request a) (hb : Canonical request b) : a = b :=
  Except.ok.inj (ha.symm.trans hb)

theorem Canonical.valid {request : RecordingStartRequest} {canonical : ByteString}
    (h : Canonical request canonical) : isRecordingIdValid request.recordingId = true :=
  (serialize_ok h).2

theorem Canonical.ne_nil {request : RecordingStartRequest} {canonical : ByteString}
    (h : Canonical request canonical) : canonical ≠ [] := serialize_ne_nil h

private theorem startEntered_storage {request : RecordingStartRequest} (h : s.Storage setup) :
    (s.startEntered request).Storage setup := by
  unfold System.startEntered
  cases hser : serializeRecordingStartRequest request with
  | error e => exact storage_release h _
  | ok canonical =>
    dsimp only
    split
    · split
      · exact storage_release h _
      · exact storage_release h _
    · split
      · exact storage_release h _
      · split
        · exact storage_hold h hser
        · exact storage_hold h ⟨hser, startLookup_runs (Canonical.valid hser) h.wellFormed⟩

private theorem startLookedUp_storage {request : RecordingStartRequest} {canonical : ByteString}
    {r : Option PersistedRecordingArtifact} (h : s.Storage setup) (hq : s.core.Quiet)
    (hc : Canonical request canonical) (hr : LookupFound request.recordingId s.machine.disk r) :
    (s.startLookedUp setup request canonical r).Storage setup := by
  cases r with
  | none =>
    refine storage_alone hq.1 (fun hr => by cases hr) h.wellFormed h.writer h.sidecar ?_
    rintro _ ⟨⟩
    refine ⟨hc, (prepareStaging_spec setup request s.machine ⟨h.wellFormed, hr⟩).mono ?_
      fun _ _ h => h⟩
    rintro _ m ⟨⟨canonical', hc', hp⟩, -⟩
    exact canonical_unique hc' hc ▸ hp
  | some artifact =>
    simp only [System.startLookedUp]
    split
    · exact storage_release h _
    · refine storage_alone hq.1 ?_ h.wellFormed h.writer h.sidecar fun _ hc => by cases hc
      simp only [System.release, System.restorePersistedArtifactLocked]
      split
      · intro hr
        cases hr
      · intro hr
        cases hr

private theorem stopUnrecorded_storage {request : RecordingStartRequest} (h : s.Storage setup)
    (hid : isStopValid request = true) : (s.stopUnrecorded request).Storage setup := by
  unfold System.stopUnrecorded
  split
  · exact storage_release h _
  · split
    · exact storage_release h _
    · rename_i hstate
      exact storage_hold h ⟨hid, h.unstopped (not_not.mp hstate)⟩

private theorem stopReplayed_storage {request : RecordingStartRequest}
    {artifact : PersistedRecordingArtifact} (h : s.Storage setup)
    (hp : artifact.paths = artifactPaths request.recordingId)
    (hf : Finalized s.machine.disk request.recordingId) :
    (s.stopReplayed request artifact).Storage setup := by
  unfold System.stopReplayed
  split
  · refine ⟨h.wellFormed, ?_, ?_, h.writer, h.sidecar, (fun _ hc => by cases hc), h.worker⟩
    · simp only [System.release, System.restorePersistedArtifactLocked]
      split
      · intro hr
        cases hr
      · intro hr
        cases hr
    · exact fun w _ _ _ => ⟨_, hp, hf⟩
  · exact storage_release h _

private theorem stopLookedUp_storage {request : RecordingStartRequest}
    {r : Option PersistedRecordingArtifact} (h : s.Storage setup)
    (hid : isStopValid request = true) (hr : LookupShared request.recordingId s.machine.disk r) :
    (s.stopLookedUp request r).Storage setup := by
  unfold System.stopLookedUp
  split
  · exact stopUnrecorded_storage h hid
  · split
    · exact stopUnrecorded_storage h hid
    · split
      · exact storage_release h _
      · split
        · rename_i hfin
          obtain ⟨hp, hholds⟩ := hr _ rfl
          exact stopReplayed_storage h hp (hholds hfin).directory
        · split
          · exact storage_release h _
          · exact stopUnrecorded_storage h hid

/-- The start programs: only they write, and the recording they prepare is not running. -/
private theorem start_advance {α : Type} {p : StoreProg α} {point : StoreProg α → Call}
    {onReturn : α → System} {onThrow : Exception → System}
    (h : s.Storage setup) (hw : s.worker = none) (hst : s.impl.state ≠ .recording)
    (hop : ∀ o k, p = .op o k → s.machine.disk.Lawful (exec o c s.machine).2.disk ∧
      (point (k (exec o c s.machine).1)).Storage setup (exec o c s.machine).2 s.impl)
    (hret : ∀ a, p = .pure a → (onReturn a).Storage setup)
    (hthrow : ∀ e, p = .throw e → (onThrow e).Storage setup) :
    (s.advance c point onReturn onThrow p).Storage setup := by
  cases p with
  | pure a => exact hret a rfl
  | throw e => exact hthrow e rfl
  | op o k =>
    obtain ⟨hl, hcall⟩ := hop o k rfl
    refine storage_alone hw hst (hl h.wellFormed).1 h.writer h.sidecar ?_
    rintro _ ⟨⟩
    exact hcall

theorem paths_of_workerAt {P : WorkerPc → Bool} (h : s.core.WorkerAt P) :
    s.impl.artifactPaths = artifactPaths s.impl.recordingId := by
  obtain ⟨w, -, -, hid, hpaths, -⟩ := h
  have hid : s.impl.recordingId = w.recordingId := hid
  rw [hid]
  exact hpaths

private theorem evidence_beside {w : Worker} {m : Machine} {id : ByteString} (h : s.Storage setup)
    (hat : s.core.WorkerAt WorkerPc.inLoop) (hw : s.worker = some w)
    (hd : Changes (writtenPaths id .stopRequest) s.machine.disk m.disk) :
    w.pc.Storage m w.recordingId := by
  obtain ⟨v, hv, hin, -⟩ := hat
  cases hw.symm.trans hv
  exact (h.worker w hw).beside hin hd

theorem callStep_storage {call : Call} (hk : s.core.Control) (h : s.Storage setup)
    (hh : s.holder = some call) (he : s.callStep setup c call = some t) : t.Storage setup := by
  have hctl := hk.call hh
  have hcall := h.call call hh
  cases call with
  | startEntered request =>
    cases he
    exact startEntered_storage h
  | startJoining request canonical =>
    change (if s.workerLive = true then none else _) = some t at he
    split at he
    · cases he
    · cases he
      refine storage_alone rfl ?_ h.wellFormed h.writer h.sidecar ?_
      · intro hr
        cases (congrArg RecordingState.isActive hr).symm.trans hctl.2
      · rintro _ ⟨⟩
        exact ⟨hcall, startLookup_runs hcall.valid h.wellFormed⟩
  | startLookup request canonical p =>
    cases he
    have hst : s.impl.state ≠ .recording := by
      intro hr
      rcases hctl.2.2 with hs | hs | hs <;> cases hr.symm.trans hs
    obtain ⟨hc, hr⟩ := hcall
    refine start_advance h hctl.1 hst ?_ ?_ fun _ _ => storage_release h _
    · rintro o k rfl
      obtain ⟨hg, hk'⟩ := hr.op_step c trivial
      exact ⟨(show _ = _ from hg) ▸ .refl _, hc, hk'⟩
    · rintro r rfl
      exact startLookedUp_storage h hctl hc hr.of_pure
  | startPreparing request canonical p =>
    cases he
    obtain ⟨⟨hw, -, hstate⟩, huses⟩ := hctl
    have hst : s.impl.state ≠ .recording := fun hr => by cases hr.symm.trans hstate
    obtain ⟨hc, hr⟩ := hcall
    refine start_advance h hw hst ?_ ?_ fun _ _ => storage_hold h trivial
    · rintro o k rfl
      obtain ⟨hg, hk'⟩ := hr.op_step c trivial
      exact ⟨hg.1, hc, hk'⟩
    · rintro paths rfl
      have hpaths : paths = artifactPaths request.recordingId := huses
      subst hpaths
      have hp : Prepared request.recordingId canonical s.machine.disk := hr.of_pure
      refine storage_alone hw hst h.wellFormed h.writer h.sidecar ?_
      rintro _ ⟨⟩
      exact ⟨hc, ⟨hp.staging, hp.start, hp.fresh _ nofun⟩,
        ColorVideoWriter.construct_uses (writerConfig setup (artifactPaths request.recordingId))⟩
  | startWriter request canonical p =>
    cases he
    obtain ⟨⟨hw, -, hstate⟩, hpaths⟩ := hctl
    have hst : s.impl.state ≠ .recording := fun hr => by cases hr.symm.trans hstate
    obtain ⟨hc, hs, hu⟩ := hcall
    refine start_advance h hw hst ?_ ?_ fun _ _ => storage_hold h trivial
    · rintro o k rfl
      have hd := output_changes (.inl rfl) hu.1 c s.machine
      exact ⟨hd.1, hc, hs.output (.inl rfl) hd, hu.2 _⟩
    · rintro w rfl
      have hwriter : w = { config := writerConfig setup (artifactPaths request.recordingId)
                           headerWritten := true } := hu
      refine storage_alone hw hst h.wellFormed ?_ h.sidecar ?_
      · rintro _ ⟨⟩
        exact ⟨request.recordingId, hwriter ▸ rfl⟩
      · rintro _ ⟨⟩
        exact ⟨hc, hs, releaseWriter_output h⟩
  | startReleaseWriter request canonical p =>
    cases he
    obtain ⟨⟨hw, -, hstate⟩, hpaths⟩ := hctl
    have hst : s.impl.state ≠ .recording := fun hr => by cases hr.symm.trans hstate
    obtain ⟨hc, hs, hu⟩ := hcall
    refine start_advance h hw hst ?_ ?_ fun _ _ => storage_hold h trivial
    · rintro o k rfl
      obtain ⟨id, path, hpath, ho⟩ := hu.1
      have hd := output_changes hpath ho c s.machine
      exact ⟨hd.1, hc, hs.output hpath hd, hu.2 _⟩
    · rintro a rfl
      have hpaths : s.impl.artifactPaths = artifactPaths request.recordingId := hpaths
      refine storage_hold h ⟨hc, hs, ?_⟩
      rw [hpaths]
      refine (RecordingSidecarWriter.construct_uses _ _ _ _).mono (fun _ h => h) ?_ fun _ h => h
      rintro _ rfl
      rfl
  | startSidecar request canonical p =>
    cases he
    obtain ⟨⟨hw, -, hstate⟩, -⟩ := hctl
    have hst : s.impl.state ≠ .recording := fun hr => by cases hr.symm.trans hstate
    obtain ⟨hc, hs, hu⟩ := hcall
    refine start_advance h hw hst ?_ ?_ fun _ _ => storage_hold h trivial
    · rintro o k rfl
      have hd := output_changes (.inr rfl) hu.1 c s.machine
      exact ⟨hd.1, hc, hs.output (.inr rfl) hd, hu.2 _⟩
    · rintro w rfl
      refine storage_alone hw hst h.wellFormed h.writer ?_ ?_
      · rintro _ ⟨⟩
        exact ⟨request.recordingId, hu⟩
      · rintro _ ⟨⟩
        exact ⟨hc, hs, releaseSidecar_output h⟩
  | startReleaseSidecar request canonical p =>
    cases he
    obtain ⟨⟨hw, -, hstate⟩, -⟩ := hctl
    have hst : s.impl.state ≠ .recording := fun hr => by cases hr.symm.trans hstate
    obtain ⟨hc, hs, hu⟩ := hcall
    refine start_advance h hw hst ?_ ?_ fun _ _ => storage_hold h trivial
    · rintro o k rfl
      obtain ⟨id, path, hpath, ho⟩ := hu.1
      have hd := output_changes hpath ho c s.machine
      exact ⟨hd.1, hc, hs.output hpath hd, hu.2 _⟩
    · rintro a rfl
      exact storage_hold h ⟨hc, hs⟩
  | startPublish request canonical =>
    cases he
    obtain ⟨⟨hw, -, hstate⟩, -⟩ := hctl
    have hst : s.impl.state ≠ .recording := fun hr => by cases hr.symm.trans hstate
    refine storage_alone hw hst h.wellFormed h.writer h.sidecar ?_
    rintro _ ⟨⟩
    exact ⟨hcall.1, rfl, hcall.2⟩
  | startSpawn request =>
    obtain ⟨⟨hw, -, hstate⟩, -, hsess⟩ := hctl
    have hst : s.impl.state ≠ .recording := fun hr => by cases hr.symm.trans hstate
    change (if c.fails = true then _ else _) = some t at he
    split at he
    · cases he
      exact storage_hold h trivial
    · cases he
      refine ⟨h.wellFormed, fun hr => absurd hr hst, ?_, h.writer, h.sidecar, ?_, ?_⟩
      · intro w _ _ hin
        cases hin.symm.trans hsess.2.2
      · rintro _ ⟨⟩
        exact hcall
      · rintro w ⟨⟩
        exact hcall.started.staging
  | startRecording request =>
    cases he
    obtain ⟨hw, hsess, -⟩ := hctl
    refine ⟨h.wellFormed, fun _ => ?_, h.displaced, h.writer, h.sidecar, ?_, h.worker⟩
    · have hid : s.impl.recordingId = request.recordingId := hsess.1
      change NoStop s.machine.disk s.impl.recordingId
      rw [hid]
      exact hcall.started.noStop
    · rintro _ ⟨⟩
      have hpub : Published request s.machine s.impl := hcall
      exact hpub.quiet rfl rfl
  | startAdmit request =>
    cases he
    exact storage_quiet h ⟨rfl, rfl, rfl, rfl, rfl, rfl, rfl⟩ rfl id nofun
  | startFailed request e =>
    cases he
    refine storage_alone hctl.1 nofun h.wellFormed h.writer h.sidecar ?_
    rintro _ ⟨⟩
    trivial
  | startRethrow request e =>
    cases he
    exact storage_quiet h ⟨rfl, rfl, rfl, rfl, rfl, rfl, rfl⟩ rfl id nofun
  | stopEntered request =>
    cases he
    have hid : isStopValid request = true := hcall
    unfold System.stopEntered
    split
    · split
      · split
        · exact storage_release h _
        · split
          · exact storage_release h _
          · exact storage_release h _
      · exact storage_release h _
    · refine storage_hold h ⟨hid, stopLookup_runs ?_ h.wellFormed⟩
      simp only [isStopValid, Bool.and_eq_true] at hid
      exact hid.2
  | stopLookup request p =>
    cases he
    obtain ⟨hid, hr⟩ := hcall
    cases p with
    | pure r => exact stopLookedUp_storage h hid hr.of_pure
    | throw e => exact storage_release h _
    | op o k =>
      obtain ⟨hg, hk'⟩ := hr.op_step c trivial
      refine storage_quiet h ⟨rfl, rfl, rfl, rfl, rfl, rfl, rfl⟩ hg id ?_
      rintro _ ⟨⟩
      exact ⟨hid, hk'⟩
  | stopBegin request b =>
    cases he
    obtain ⟨hat, hf, -⟩ := hctl
    rcases begin_storage setup c hf (paths_of_workerAt hat) h.wellFormed hcall.2 with
      ⟨u, b', he, hk, hd, hb⟩ | ⟨u, he, hk, hm, -⟩ | ⟨u, e, he, hk, hm⟩
    · rw [he]
      refine storage_of h (hk.hold _) hd.1 (fun hr => absurd hr hk.closing)
        (fun w hw => evidence_beside h hat hw hd) ?_
      rintro _ ⟨⟩
      exact ⟨hcall.1, hk.recordingId ▸ hb⟩
    · rw [he]
      exact storage_quiet h (hk.release _) (congrArg Machine.disk hm)
        (fun hr => absurd hr hk.closing) nofun
    · rw [he]
      exact storage_quiet h (hk.release _) (congrArg Machine.disk hm)
        (fun hr => absurd hr hk.closing) nofun
  | shutdownEntered =>
    cases he
    unfold System.shutdownEntered
    split
    · rename_i hstate
      exact storage_hold h (h.unstopped hstate)
    · split
      · exact storage_quiet h ⟨rfl, rfl, rfl, rfl, rfl, rfl, rfl⟩ rfl id nofun
      · exact storage_release h _
  | shutdownBegin b =>
    cases he
    obtain ⟨hat, hf⟩ := hctl
    rcases begin_storage setup c hf (paths_of_workerAt hat) h.wellFormed hcall with
      ⟨u, b', he, hk, hd, hb⟩ | ⟨u, he, hk, hm, -⟩ | ⟨u, e, he, hk, hm⟩
    · rw [he]
      refine storage_of h (hk.hold _) hd.1 (fun hr => absurd hr hk.closing)
        (fun w hw => evidence_beside h hat hw hd) ?_
      rintro _ ⟨⟩
      change b'.Storage u.machine u.impl.recordingId .applicationShutdown
      rw [hk.recordingId]
      exact hb
    · rw [he]
      exact storage_quiet h ⟨hk.recordingId, hk.paths, hk.start, hk.writer, hk.sidecar, hk.worker,
        hk.inSession⟩ (congrArg Machine.disk hm) (fun hr => absurd hr hk.closing) nofun
    · rw [he]
      refine storage_quiet h (hk.hold _) (congrArg Machine.disk hm)
        (fun hr => absurd hr hk.closing) ?_
      rintro _ ⟨⟩
      trivial
  | shutdownCatch =>
    cases he
    refine storage_quiet h ⟨rfl, rfl, rfl, rfl, rfl, rfl, rfl⟩ rfl ?_ nofun
    rintro ⟨⟩
  | destroying p =>
    cases he
    have hst : s.impl.state ≠ .recording := by
      intro hr
      rcases hctl.2.2 with hs | hs | hs <;> cases hr.symm.trans hs
    have hu : OutputProgram p fun _ => True := hcall
    refine start_advance h hctl.1 hst ?_ (fun _ _ => exitProcess_storage h.wellFormed)
      fun _ _ => exitProcess_storage h.wellFormed
    rintro o k rfl
    obtain ⟨id, path, hpath, ho⟩ := hu.1
    exact ⟨(output_changes hpath ho c s.machine).1, hu.2 _⟩

end Calls

end NodusVision.Manager
