import NodusVision.Manager.Storage.Calls

/-! Every step of the worker keeps the storage invariant, and every reachable state has it. -/
namespace NodusVision.Manager
open Text Storage Disk Program Recording RecordingStore Transition

section Workers
variable {setup : Setup} {s t : System} {c : Choice} {w : Worker} {pc : WorkerPc}

/-- While a recording takes frames its worker is in the loop. -/
theorem inLoop_of_recording {k : Core} (hk : k.Control) (hs : k.state = .recording)
    (hw : k.worker = some w) : w.pc.inLoop = true ∨ w.pc.holdsMutex = true := by
  have hsettled : k.Settled → w.pc.inLoop = true ∨ w.pc.holdsMutex = true := by
    intro h
    obtain ⟨-, v, hv, hin, -⟩ := h.recording hs
    cases hw.symm.trans hv
    exact .inl hin
  have hat : k.WorkerAt WorkerPc.inLoop → w.pc.inLoop = true ∨ w.pc.holdsMutex = true := by
    rintro ⟨v, hv, hin, -⟩
    cases hw.symm.trans hv
    exact .inl hin
  cases hh : k.holder with
  | none =>
    cases hm : w.pc.holdsMutex with
    | true => exact .inr rfl
    | false =>
      refine hm ▸ hsettled (hk.settled hh fun v hv => ?_)
      cases hw.symm.trans hv
      exact hm
  | some call =>
    have hc := hk.call hh
    cases call with
    | startEntered | stopEntered | stopLookup | shutdownEntered => exact hsettled hc
    | startJoining => exact hsettled hc.1
    | startLookup | destroying | startRethrow | startFailed => cases hw.symm.trans hc.1
    | startPreparing | startWriter | startReleaseWriter | startSidecar | startReleaseSidecar
    | startPublish | startSpawn => cases hw.symm.trans hc.1.1
    | startRecording | startAdmit =>
      cases hw.symm.trans hc.1
      exact .inl rfl
    | stopBegin | shutdownBegin | shutdownCatch => exact hat hc.1

/-- A live worker whose session was not displaced finds its own session fields. -/
theorem session_of_live {k : Core} (hk : k.Control) (hw : k.worker = some w)
    (hlive : w.pc.isLive = true) (hin : k.inSession = true) : k.Session w := by
  have hat : ∀ {P : WorkerPc → Bool}, k.WorkerAt P → k.Session w := by
    rintro P ⟨v, hv, -, hsess⟩
    cases hw.symm.trans hv
    exact hsess
  have hsettled : k.Settled → k.Session w := by
    intro h
    rcases h.cases with ⟨-, hn, -⟩ | ⟨-, h⟩ | ⟨-, h⟩ | ⟨-, h⟩
    · cases hw.symm.trans hn
    · exact hat h
    · exact hat h
    · exact (h.2 w hw hlive).2 hin
  cases hh : k.holder with
  | none =>
    cases hm : w.pc.holdsMutex with
    | true => exact (hk.worker hh hw hm).1
    | false =>
      refine hsettled (hk.settled hh fun v hv => ?_)
      cases hw.symm.trans hv
      exact hm
  | some call =>
    have hc := hk.call hh
    cases call with
    | startEntered | stopEntered | stopLookup | shutdownEntered => exact hsettled hc
    | startJoining => exact hsettled hc.1
    | startLookup | destroying | startRethrow | startFailed => cases hw.symm.trans hc.1
    | startPreparing | startWriter | startReleaseWriter | startSidecar | startReleaseSidecar
    | startPublish | startSpawn => cases hw.symm.trans hc.1.1
    | startRecording | startAdmit =>
      cases hw.symm.trans hc.1
      exact hc.2.1
    | stopBegin | shutdownBegin | shutdownCatch => exact hat hc.1

/-- What a step of the worker leaves alone. -/
structure WorkerMoves (s t : System) (w : Worker) (pc : WorkerPc) : Prop where
  holder : t.holder = s.holder
  worker : t.worker = some { w with pc := pc }
  recordingId : t.impl.recordingId = s.impl.recordingId
  paths : t.impl.artifactPaths = s.impl.artifactPaths
  start : t.impl.start = s.impl.start
  inSession : t.history.inSession = s.history.inSession
  state : t.impl.state = .recording → s.impl.state = .recording

theorem moveWorker_worker (hw : s.worker = some w) (pc : WorkerPc) :
    (s.moveWorker pc).worker = some { w with pc := pc } := by
  simp only [System.moveWorker, hw, Option.map_some]

theorem moves_self (hw : s.worker = some w) (pc : WorkerPc) :
    WorkerMoves s (s.moveWorker pc) w pc :=
  ⟨rfl, moveWorker_worker hw pc, rfl, rfl, rfl, rfl, id⟩

/-- The pending call keeps its facts while the worker writes. -/
private theorem call_beside {m : Machine} {impl : Impl} {paths : Set ManagedPath}
    (hk : s.core.Control) (h : s.Storage setup) (hw : s.worker = some w)
    (hacq : w.pc ≠ .loop .acquire) (hd : Changes paths s.machine.disk m.disk)
    (hpaths : w.pc.inLoop = true → paths ⊆ outputPaths)
    (hid : impl.recordingId = s.impl.recordingId) :
    ∀ call, s.holder = some call → call.Storage setup m impl := by
  intro call hh
  have hc := hk.call hh
  have hs := h.call call hh
  have hshared : s.core.WorkerAt WorkerPc.inLoop → Changes outputPaths s.machine.disk m.disk := by
    rintro ⟨v, hv, hin, -⟩
    cases hw.symm.trans hv
    exact hd.mono (hpaths hin)
  cases call with
  | startEntered | shutdownEntered | shutdownCatch => trivial
  | stopEntered | startJoining => exact hs
  | startLookup | destroying | startRethrow | startFailed => cases hw.symm.trans hc.1
  | startPreparing | startWriter | startReleaseWriter | startSidecar | startReleaseSidecar
  | startPublish | startSpawn => cases hw.symm.trans hc.1.1
  | startRecording | startAdmit =>
    cases hw.symm.trans hc.1
    exact absurd rfl hacq
  | stopLookup request p => exact ⟨hs.1, runs_shared (hd.mono (Set.subset_univ _)) hs.2⟩
  | stopBegin request b =>
    refine ⟨hs.1, ?_⟩
    rw [hid]
    exact hs.2.shared (hshared hc.1)
  | shutdownBegin b =>
    change b.Storage m impl.recordingId .applicationShutdown
    rw [hid]
    exact BeginPc.Storage.shared (hshared hc.1) hs

private theorem storage_moved (h : s.Storage setup) (hm : WorkerMoves s t w pc)
    (hw : s.worker = some w) (hlive : w.pc.isLive = true)
    (hl : s.machine.disk.Lawful t.machine.disk)
    (hun : t.impl.state = .recording → NoStop t.machine.disk s.impl.recordingId)
    (hwriter : ∀ v, t.impl.writer = some v → ∃ id, v.config.outputPath = videoPath id)
    (hsidecar : ∀ v, t.impl.sidecar = some v → ∃ id, v.outputPath = sidecarPath id)
    (hcall : ∀ call, s.holder = some call → call.Storage setup t.machine t.impl)
    (hpc : pc.Storage t.machine w.recordingId) : t.Storage setup where
  wellFormed := (hl h.wellFormed).1
  unstopped hr := hm.recordingId.symm ▸ hun hr
  displaced v hv hlive' hin := by
    obtain ⟨id, hpaths, hfin⟩ := h.displaced w hw hlive (hm.inSession ▸ hin)
    exact ⟨id, hm.paths.trans hpaths, hfin.lawful h.wellFormed hl⟩
  writer := hwriter
  sidecar := hsidecar
  call call hh := hcall call (hm.holder ▸ hh)
  worker v hv := by
    cases hm.worker.symm.trans hv
    exact hpc

/-- A step of the worker that leaves the disk as it is. -/
private theorem storage_moved_quiet (h : s.Storage setup) (hm : WorkerMoves s t w pc)
    (hw : s.worker = some w) (hlive : w.pc.isLive = true)
    (hd : t.machine.disk = s.machine.disk)
    (hwriter : ∀ v, t.impl.writer = some v → ∃ id, v.config.outputPath = videoPath id)
    (hsidecar : ∀ v, t.impl.sidecar = some v → ∃ id, v.outputPath = sidecarPath id)
    (hpc : pc.Storage s.machine w.recordingId) : t.Storage setup :=
  storage_moved h hm hw hlive (hd ▸ .refl _) (fun hr => by rw [hd]; exact h.unstopped (hm.state hr))
    hwriter hsidecar (fun call hh => (h.call call hh).quiet hd hm.recordingId hm.start)
    (hpc.quiet hd)

/-- A plain move of the worker. -/
private theorem storage_moveWorker (h : s.Storage setup) (hw : s.worker = some w)
    (hlive : w.pc.isLive = true) (hpc : pc.Storage s.machine w.recordingId) :
    (s.moveWorker pc).Storage setup :=
  storage_moved_quiet h (moves_self hw pc) hw hlive rfl h.writer h.sidecar hpc

/-- The worker writes to names that are not requests. -/
private theorem storage_written {m : Machine} {paths : Set ManagedPath} (hk : s.core.Control)
    (h : s.Storage setup) (hw : s.worker = some w) (hlive : w.pc.isLive = true)
    (hacq : w.pc ≠ .loop .acquire) (hd : Changes paths s.machine.disk m.disk)
    (hpaths : w.pc.inLoop = true → paths ⊆ outputPaths)
    (hstop : ∀ id, ManagedPath.entry .staging id (.file .stopRequest) ∉ paths)
    (hpc : pc.Storage m w.recordingId) :
    ({ s with machine := m }.moveWorker pc).Storage setup := by
  refine storage_moved h ⟨rfl, moveWorker_worker (s := { s with machine := m }) hw pc, rfl, rfl,
    rfl, rfl, id⟩ hw hlive hd.1 (fun hr => ?_) h.writer h.sidecar
    (call_beside hk h hw hacq hd hpaths rfl) hpc
  exact (hd.2 _ (hstop _)).trans (h.unstopped hr)

private theorem stop_not_output (id : ByteString) :
    ManagedPath.entry .staging id (.file .stopRequest) ∉ outputPaths := by
  rintro ⟨i, he | he⟩ <;> cases he

private theorem staged_output {m m' : Machine} {id : ByteString}
    (hd : Changes outputPaths m.disk m'.disk) (h : Staged m.disk id) : Staged m'.disk id := by
  refine (hd.2 _ ?_).trans h
  rintro ⟨i, he | he⟩ <;> cases he

private theorem requireDeadline_storage {next : WorkerPc} (h : s.Storage setup)
    (hw : s.worker = some w) (hlive : w.pc.isLive = true)
    (hnext : next.Storage s.machine w.recordingId) : (s.requireDeadline next).Storage setup := by
  unfold System.requireDeadline
  split
  · exact storage_moveWorker h hw hlive trivial
  · exact storage_moveWorker h hw hlive hnext

private theorem dispatch_storage (h : s.Storage setup) (hw : s.worker = some w)
    (hlive : w.pc.isLive = true) (hst : Staged s.machine.disk w.recordingId) :
    s.dispatch.Storage setup := by
  unfold System.dispatch
  split
  · exact storage_moveWorker h hw hlive hst
  · split
    · rename_i frame hfront
      exact storage_moved_quiet h ⟨rfl, moveWorker_worker (s := { s with impl := { s.impl with
        queue := s.impl.queue.pop } }) hw _, rfl, rfl, rfl, rfl, id⟩ hw hlive rfl h.writer
        h.sidecar hst
    · exact storage_moveWorker h hw hlive trivial

private theorem afterWait_storage (hk : s.core.Settled) (h : s.Storage setup)
    (hw : s.worker = some w) (hlive : w.pc.isLive = true)
    (hst : Staged s.machine.disk w.recordingId) : s.afterWait.Storage setup := by
  unfold System.afterWait
  split
  · rename_i hrun
    refine storage_moveWorker h hw hlive ⟨hst, ?_⟩
    rcases hk.cases with ⟨-, hn, -⟩ | ⟨ho, v, hv, -, hsess⟩ | ⟨hc, -⟩ | ⟨-, he⟩
    · cases hw.symm.trans hn
    · cases hw.symm.trans hv
      exact hsess.1 ▸ h.unstopped ho.1
    · exact absurd (hc.2.2.symm.trans hrun.1) (by simp)
    · exact absurd ((he.2 w hw hlive).1.symm.trans hrun.1) (by simp)
  · exact dispatch_storage h hw hlive hst

theorem loopStep_storage {id : ByteString} {pc : LoopPc} (hk : s.core.Control)
    (h : s.Storage setup) (hw : s.worker = some ⟨id, .loop pc⟩)
    (he : s.loopStep setup c pc = some t) : t.Storage setup := by
  have hpc := h.worker _ hw
  have hsettled : s.holder.isSome ≠ true → (WorkerPc.loop pc).holdsMutex = false →
      s.core.Settled := by
    intro hn hm
    refine hk.settled (by simpa [System.core] using hn) fun v hv => ?_
    cases hw.symm.trans hv
    exact hm
  cases pc with
  | acquire =>
    change (if s.holder.isSome = true then none else _) = some t at he
    split at he
    · cases he
    · rename_i hn
      split at he <;> cases he
      · exact storage_moveWorker h hw rfl hpc
      · exact afterWait_storage (hsettled hn rfl) h hw rfl hpc
  | waiting =>
    change (if s.holder.isSome = true then none else _) = some t at he
    split at he
    · cases he
    · rename_i hn
      split at he <;> cases he
      · exact afterWait_storage (hsettled hn rfl) h hw rfl hpc
      · exact h
  | begin b =>
    cases he
    obtain ⟨hst, hb⟩ := hpc
    obtain ⟨hsess, hf⟩ : s.core.Session _ ∧ b.Flags s.core := by
      refine hk.worker ?_ hw rfl
      by_contra hne
      obtain ⟨call, hh⟩ := Option.ne_none_iff_exists'.mp hne
      cases hk.released hh _ hw
    have hid : s.impl.recordingId = id := hsess.1
    have hpaths : s.impl.artifactPaths = artifactPaths s.impl.recordingId := hid ▸ hsess.2.1
    have hmoves : ∀ (u : System) (pc : WorkerPc), BeginKeeps s u →
        WorkerMoves s (u.moveWorker pc) ⟨id, .loop (.begin b)⟩ pc := fun u pc hu =>
      ⟨hu.holder, moveWorker_worker (hu.worker.trans hw) pc, hu.recordingId, hu.paths, hu.start,
        hu.inSession, fun hr => absurd hr hu.closing⟩
    have hnone : ∀ call, s.holder = some call → False := by
      intro call hh
      cases hk.released hh _ hw
    rcases begin_storage setup c hf hpaths h.wellFormed (hid ▸ hb) with
      ⟨u, b', he, hu, hd, hb'⟩ | ⟨u, he, hu, hm, -⟩ | ⟨u, e, he, hu, hm⟩
    · rw [he]
      have hst' : Staged u.machine.disk id := by
        refine (hd.2 _ ?_).trans hst
        rintro (he | he) <;> cases he
      exact storage_moved h (hmoves u _ hu) hw rfl hd.1 (fun hr => absurd hr hu.closing)
        (hu.writer ▸ h.writer) (hu.sidecar ▸ h.sidecar) (fun call hh => (hnone call hh).elim)
        ⟨hst', hid ▸ hb'⟩
    · rw [he]
      exact storage_moved_quiet h (hmoves u _ hu) hw rfl (congrArg Machine.disk hm)
        (hu.writer ▸ h.writer) (hu.sidecar ▸ h.sidecar) hst
    · rw [he]
      exact storage_moved_quiet h (hmoves u _ hu) hw rfl (congrArg Machine.disk hm)
        (hu.writer ▸ h.writer) (hu.sidecar ▸ h.sidecar) trivial
  | dispatch =>
    cases he
    exact dispatch_storage h hw rfl hpc
  | frameDeadline frame =>
    change (if s.holder.isSome = true then none else _) = some t at he
    split at he
    · cases he
    · cases he
      exact requireDeadline_storage h hw rfl hpc
  | checkFrame frame =>
    simp only [System.loopStep] at he
    split at he <;> cases he
    · rename_i color w _ hwriter
      obtain ⟨i, hi⟩ := h.writer w hwriter
      refine storage_moveWorker h hw rfl ⟨hpc, i, ?_⟩
      refine (hi ▸ w.writeFrame_uses color).mono (fun _ h => h) ?_ fun _ h => h
      rintro _ rfl
      exact hi
    · exact storage_moveWorker h hw rfl trivial
  | writeFrame frame p =>
    cases he
    obtain ⟨hst, i, hu⟩ := hpc
    cases p with
    | pure r =>
      have hr : r.2.config.outputPath = videoPath i := hu
      have hmoved : ∀ pc : WorkerPc, pc.Storage s.machine id →
          ({ s with impl := { s.impl with writer := some r.2 } }.moveWorker pc).Storage setup := by
        intro pc hpc
        refine storage_moved_quiet h ⟨rfl, moveWorker_worker (s := { s with impl := { s.impl with
          writer := some r.2 } }) hw _, rfl, rfl, rfl, rfl, fun hr => hr⟩ hw rfl rfl ?_ h.sidecar hpc
        rintro _ ⟨⟩
        exact ⟨i, hr⟩
      refine hmoved _ ?_
      split
      · rename_i sidecar hsc
        obtain ⟨j, hj⟩ := h.sidecar sidecar hsc
        refine ⟨hst, j, ?_⟩
        exact (hj ▸ sidecar.append_uses _).mono (fun _ h => h) (fun _ h => h) fun _ h => h
      · trivial
    | throw e => exact storage_moveWorker h hw rfl trivial
    | op o k =>
      have hd := output_changes (.inl rfl) hu.1 c s.machine
      exact storage_written hk h hw rfl (fun hl => by cases hl) hd (fun _ => video_subset i)
        (fun j hj => stop_not_output j (video_subset i hj))
        ⟨staged_output (hd.mono (video_subset i)) hst, i, hu.2 _⟩
  | appendFrame frame p =>
    cases he
    obtain ⟨hst, i, hu⟩ := hpc
    cases p with
    | pure r =>
      refine storage_moved_quiet h ⟨rfl, moveWorker_worker (s := { s with impl := { s.impl with
        sidecar := some r } }) hw _, rfl, rfl, rfl, rfl, fun hr => hr⟩ hw rfl rfl h.writer ?_ hst
      rintro _ ⟨⟩
      exact ⟨i, hu⟩
    | throw e => exact storage_moveWorker h hw rfl trivial
    | op o k =>
      have hd := output_changes (.inr rfl) hu.1 c s.machine
      exact storage_written hk h hw rfl (fun hl => by cases hl) hd (fun _ => sidecar_subset i)
        (fun j hj => stop_not_output j (sidecar_subset i hj))
        ⟨staged_output (hd.mono (sidecar_subset i)) hst, i, hu.2 _⟩
  | countFrame frame =>
    change (if s.holder.isSome = true then none else _) = some t at he
    split at he
    · cases he
    · cases he
      exact storage_moved_quiet h ⟨rfl, moveWorker_worker (s := s.countFrame frame) hw _, rfl, rfl,
        rfl, rfl, fun hr => hr⟩ hw rfl rfl h.writer h.sidecar hpc

/-- A program of the worker that only asks. -/
private theorem reads_storage {α : Type} {p : StoreProg α} {point : StoreProg α → WorkerPc}
    {onReturn : α → System} (h : s.Storage setup) (hw : s.worker = some w)
    (hlive : w.pc.isLive = true) (hu : p.Uses Reads (fun _ => True) fun _ => True)
    (hpoint : ∀ p', p'.Uses Reads (fun _ => True) (fun _ => True) →
      (point p').Storage s.machine w.recordingId)
    (hret : ∀ a, (onReturn a).Storage setup) :
    (s.advanceWorker c point onReturn (fun _ => s.moveWorker .fault) p).Storage setup := by
  cases p with
  | pure a => exact hret a
  | throw e => exact storage_moveWorker h hw hlive trivial
  | op o k =>
    have hm : (exec o c s.machine).2 = s.machine := hu.1 c s.machine
    simp only [System.advanceWorker, hm]
    exact storage_moveWorker h hw hlive (hpoint _ (hu.2 _))

/-- No recording takes frames while the worker closes. -/
theorem not_recording_of_closing {pc : ClosingPc} (hk : s.core.Control) (hw : s.worker = some w)
    (hpc : w.pc = .closing pc) : s.impl.state ≠ .recording := by
  intro hs
  rcases inLoop_of_recording hk hs hw with hin | hm
  · cases (hpc ▸ hin : (WorkerPc.closing pc).inLoop = true)
  · cases (hpc ▸ hm : (WorkerPc.closing pc).holdsMutex = true)

private theorem closing_disk {m : Machine} {id : ByteString} {closing : ClosingPc}
    {paths : Set ManagedPath} (hk : s.core.Control) (h : s.Storage setup)
    (hw : s.worker = some ⟨id, .closing closing⟩) (hd : Changes paths s.machine.disk m.disk)
    (hpc : pc.Storage m id) : ({ s with machine := m }.moveWorker pc).Storage setup :=
  storage_moved h ⟨rfl, moveWorker_worker (s := { s with machine := m }) hw pc, rfl, rfl, rfl, rfl,
    fun hr => hr⟩ hw rfl hd.1 (fun hr => absurd hr (not_recording_of_closing (s := s) hk hw rfl)) h.writer
    h.sidecar (call_beside hk h hw nofun hd nofun rfl) hpc

/-- Where the session paths point while the worker closes. -/
private theorem closing_paths {id : ByteString} {pc : ClosingPc} (hk : s.core.Control)
    (h : s.Storage setup) (hw : s.worker = some ⟨id, .closing pc⟩) :
    s.impl.artifactPaths = artifactPaths id ∨
      ∃ y, s.impl.artifactPaths = artifactPaths y ∧
        s.machine.disk (.artifact .staging y) = none := by
  cases hin : s.history.inSession with
  | true => exact .inl (session_of_live hk hw rfl hin).2.1
  | false =>
    obtain ⟨y, hpaths, hfin⟩ := h.displaced _ hw rfl hin
    exact .inr ⟨y, hpaths, hfin.not_staged h.wellFormed⟩

/-- The outputs are finished and measured. -/
private theorem finishStep_storage {id : ByteString} {pc : ClosingPc}
    (hpc : (∃ p, pc = .writer p) ∨ ∃ p, pc = .sidecar p) (hk : s.core.Control)
    (h : s.Storage setup) (hw : s.worker = some ⟨id, .closing pc⟩)
    (he : s.closingStep setup c pc = some t) : t.Storage setup := by
  have hs := h.worker _ hw
  rcases hpc with ⟨p, rfl⟩ | ⟨p, rfl⟩
  · cases he
    obtain ⟨hst, i, hu⟩ := hs
    cases p with
    | pure r =>
      refine storage_moved_quiet h ⟨rfl, moveWorker_worker (s := { s with impl := { s.impl with
        writer := some r } }) hw _, rfl, rfl, rfl, rfl, fun hr => hr⟩ hw rfl rfl ?_ h.sidecar hst
      rintro _ ⟨⟩
      exact ⟨i, hu⟩
    | throw e => exact storage_moveWorker h hw rfl trivial
    | op o k =>
      have hd := output_changes (.inl rfl) hu.1 c s.machine
      exact closing_disk hk h hw hd ⟨staged_output (hd.mono (video_subset i)) hst, i, hu.2 _⟩
  · cases he
    obtain ⟨hst, i, hu⟩ := hs
    cases p with
    | pure r =>
      refine storage_moved_quiet h ⟨rfl, moveWorker_worker (s := { s with impl := { s.impl with
        sidecar := some r } }) hw _, rfl, rfl, rfl, rfl, fun hr => hr⟩ hw rfl rfl h.writer ?_ hst
      rintro _ ⟨⟩
      exact ⟨i, hu⟩
    | throw e => exact storage_moveWorker h hw rfl trivial
    | op o k =>
      have hd := output_changes (.inr rfl) hu.1 c s.machine
      exact closing_disk hk h hw hd ⟨staged_output (hd.mono (sidecar_subset i)) hst, i, hu.2 _⟩

/-- The manifest is written and the artifact moved. -/
private theorem activateStep_storage {id : ByteString} {pc : ClosingPc}
    (hpc : (∃ p, pc = .manifest p) ∨ ∃ p, pc = .activate p) (hk : s.core.Control)
    (h : s.Storage setup) (hw : s.worker = some ⟨id, .closing pc⟩)
    (he : s.closingStep setup c pc = some t) : t.Storage setup := by
  have hs := h.worker _ hw
  rcases hpc with ⟨p, rfl⟩ | ⟨p, rfl⟩
  · cases he
    obtain ⟨hst, hr⟩ := hs
    cases p with
    | pure a => exact storage_moveWorker h hw rfl hst
    | throw e => exact storage_moveWorker h hw rfl trivial
    | op o k =>
      obtain ⟨hd, hk'⟩ := hr.op_step c trivial
      refine closing_disk hk h hw hd ⟨(hd.2 _ ?_).trans hst, hk'⟩
      rintro (he | he) <;> cases he
  · cases he
    obtain ⟨hst, hr⟩ := hs
    cases p with
    | pure a => exact storage_moveWorker h hw rfl hr.of_pure
    | throw e => exact storage_moveWorker h hw rfl trivial
    | op o k =>
      obtain ⟨hd, hk'⟩ := hr.op_step c trivial
      refine closing_disk hk h hw hd.changes ⟨?_, hk'⟩
      rcases hd with hd | ⟨hs, -, hm, hd⟩
      · exact (show _ = _ from hd) ▸ hst
      · right
        change (exec o c s.machine).2.disk _ = _
        rw [hd]
        simpa [moveArtifact] using hs

theorem closingStep_storage {id : ByteString} {pc : ClosingPc} (hk : s.core.Control)
    (h : s.Storage setup) (hw : s.worker = some ⟨id, .closing pc⟩)
    (he : s.closingStep setup c pc = some t) : t.Storage setup := by
  have hs := h.worker _ hw
  cases pc with
  | writer p => exact finishStep_storage (.inl ⟨p, rfl⟩) hk h hw he
  | sidecar p => exact finishStep_storage (.inr ⟨p, rfl⟩) hk h hw he
  | manifest p => exact activateStep_storage (.inl ⟨p, rfl⟩) hk h hw he
  | activate p => exact activateStep_storage (.inr ⟨p, rfl⟩) hk h hw he
  | deadline1 =>
    change (if s.holder.isSome = true then none else _) = some t at he
    split at he
    · cases he
    · split at he <;> cases he
      · rename_i v hv
        obtain ⟨i, hi⟩ := h.writer v hv
        refine requireDeadline_storage h hw rfl ⟨hs, i, ?_⟩
        refine (hi ▸ v.finalize_uses).mono (fun _ h => h) ?_ fun _ h => h
        rintro _ rfl
        exact hi
      · exact storage_moveWorker h hw rfl trivial
  | deadline2 =>
    change (if s.holder.isSome = true then none else _) = some t at he
    split at he
    · cases he
    · split at he <;> cases he
      · rename_i v hv
        obtain ⟨i, hi⟩ := h.sidecar v hv
        refine requireDeadline_storage h hw rfl ⟨hs, i, ?_⟩
        exact (hi ▸ v.finalize_uses).mono (fun _ h => h) (fun _ hr => hr) fun _ h => h
      · exact storage_moveWorker h hw rfl trivial
  | deadline3 | deadline4 =>
    change (if s.holder.isSome = true then none else _) = some t at he
    split at he
    · cases he
    · cases he
      exact requireDeadline_storage h hw rfl hs
  | readDeadline =>
    change (if s.holder.isSome = true then none else _) = some t at he
    split at he
    · cases he
    · cases he
      exact storage_moveWorker h hw rfl ⟨hs, calculateRecordingArtifactDigest_uses _⟩
  | digestVideo deadline p =>
    cases he
    exact reads_storage h hw rfl hs.2 (fun _ hu => ⟨hs.1, hu⟩) fun _ =>
      storage_moveWorker h hw rfl ⟨hs.1, calculateRecordingArtifactDigest_uses _⟩
  | digestSidecar video p =>
    cases he
    exact reads_storage h hw rfl hs.2 (fun _ hu => ⟨hs.1, hu⟩) fun _ =>
      storage_moveWorker h hw rfl hs.1
  | snapshot video sidecar =>
    change (if s.holder.isSome = true then none else _) = some t at he
    split at he
    · cases he
    · cases he
      exact storage_moved_quiet h ⟨rfl, moveWorker_worker hw _, rfl, rfl, rfl, rfl, fun hr => hr⟩ hw
        rfl rfl h.writer h.sidecar hs
  | writeManifest manifest video sidecar =>
    rw [closingStep_writeManifest] at he
    split at he <;> cases he
    · rename_i contents _
      refine storage_moveWorker h hw rfl ⟨hs, ?_⟩
      rcases closing_paths hk h hw with hp | ⟨y, hp, hy⟩
      · rw [hp]
        refine (writeFinalizedManifest_spec (stable_wellFormed _) (fun _ h => h)
          (fun _ _ h => h) ⟨by simp, by simp⟩ s.machine h.wellFormed).mono (fun _ _ _ => trivial)
          fun _ _ _ => trivial
      · rw [hp]
        have hspec : Spec anyChoice ∅ Unchanged (fun d => d (.artifact .staging y) = none)
            (writeFinalizedManifest (artifactPaths y) contents) (fun _ _ => False) fun _ _ => True :=
          writeFinalizedManifest_absent fun _ _ _ => trivial
        refine Prog.Safe.weaken (I := sharing ∅ Unchanged) (fun _ _ h => h) (fun m m' hu => ?_)
          ((hspec s.machine hy).mono (fun _ _ h => h.elim) fun _ _ h => h)
        have hu : m'.disk = m.disk := hu
        change Changes _ m.disk m'.disk
        rw [hu]
        exact .refl _ _
    · exact storage_moveWorker h hw rfl trivial
  | deadline5 =>
    change (if s.holder.isSome = true then none else _) = some t at he
    split at he
    · cases he
    · cases he
      refine requireDeadline_storage h hw rfl ⟨.inl hs, ?_⟩
      rcases closing_paths hk h hw with hp | ⟨y, hp, hy⟩
      · rw [hp]
        exact activateFinalized_spec s.machine h.wellFormed
      · rw [hp]
        refine Prog.Safe.weaken (I := sharing ∅ Unchanged) (fun _ _ h => h) (fun m m' hu => ?_)
          ((activateFinalized_absent s.machine hy).mono (fun _ _ h => h.elim) fun _ _ h => h)
        have hu : m'.disk = m.disk := hu
        exact .inl hu
  | publish =>
    change (if s.holder.isSome = true then none else _) = some t at he
    split at he
    · cases he
    · cases he
      exact storage_moved_quiet h ⟨rfl, moveWorker_worker hw _, rfl, rfl, rfl, rfl, nofun⟩ hw
        rfl rfl h.writer h.sidecar trivial

theorem workerStep_storage (hk : s.core.Control) (h : s.Storage setup) (hw : s.worker = some w)
    (he : s.workerStep setup c w.pc = some t) : t.Storage setup := by
  obtain ⟨id, pc⟩ := w
  cases pc with
  | loop pc => exact loopStep_storage hk h hw he
  | closing pc => exact closingStep_storage hk h hw he
  | fault =>
    simp only [System.workerStep] at he
    split at he
    · cases he
    · cases he
      exact storage_moved_quiet h ⟨rfl, moveWorker_worker hw _, rfl, rfl, rfl, rfl, fun hr => by cases hr⟩ hw rfl
        rfl h.writer h.sidecar trivial
  | finished => cases he

end Workers

section Step
variable {setup : Setup} {s t : System}

theorem enter_storage {call : ApiCall} (h : s.Storage setup)
    (he : s.enter call = some t) : t.Storage setup := by
  cases call with
  | start request =>
    simp only [System.enter] at he
    split at he <;> cases he
    refine storage_quiet h ⟨rfl, rfl, rfl, rfl, rfl, rfl, rfl⟩ rfl id ?_
    rintro _ ⟨⟩
    trivial
  | stop request =>
    simp only [System.enter] at he
    split at he
    · cases he
      exact storage_aside h ⟨rfl, rfl, rfl, rfl, rfl, rfl, rfl⟩ rfl id rfl
    · rename_i hv
      split at he <;> cases he
      exact storage_hold h (eq_true_of_ne_false hv)
  | shutdown =>
    simp only [System.enter] at he
    split at he <;> cases he
    exact storage_hold h trivial
  | destroy =>
    simp only [System.enter] at he
    split at he <;> cases he
    refine storage_hold h ?_
    exact (releaseSidecar_output h).bind _ fun _ _ => releaseWriter_output h

theorem step_storage {e : Event} (hk : s.core.Control) (h : s.Storage setup)
    (he : s.step setup e = some t) : t.Storage setup := by
  cases e with
  | tick | setUnix =>
    cases he
    exact storage_aside h ⟨rfl, rfl, rfl, rfl, rfl, rfl, rfl⟩ rfl id rfl
  | call c => exact enter_storage h he
  | callStep c =>
    obtain ⟨call, hh, he⟩ := Option.bind_eq_some_iff.mp he
    exact callStep_storage hk h hh he
  | workerStep c =>
    obtain ⟨w, hw, he⟩ := Option.bind_eq_some_iff.mp he
    exact workerStep_storage hk h hw he
  | join =>
    simp only [System.step] at he
    split at he <;> cases he
    exact ⟨h.wellFormed, h.unstopped, fun w hw => (by cases hw), h.writer, h.sidecar, h.call,
      fun w hw => (by cases hw)⟩
  | submit frame =>
    simp only [System.step] at he
    split at he <;> cases he
    unfold System.submit
    split
    · exact storage_aside h ⟨rfl, rfl, rfl, rfl, rfl, rfl, rfl⟩ rfl id rfl
    · split
      · exact storage_aside h ⟨rfl, rfl, rfl, rfl, rfl, rfl, rfl⟩ rfl id rfl
      · exact storage_aside h ⟨rfl, rfl, rfl, rfl, rfl, rfl, rfl⟩ rfl id rfl
  | submitContended frame =>
    simp only [System.step] at he
    split at he <;> cases he
    exact storage_aside h ⟨rfl, rfl, rfl, rfl, rfl, rfl, rfl⟩ rfl id rfl
  | captureStep =>
    obtain ⟨call, -, rfl⟩ := Option.map_eq_some_iff.mp he
    unfold System.captureStep
    split
    · exact storage_aside h ⟨rfl, rfl, rfl, rfl, rfl, rfl, rfl⟩ rfl id rfl
    · split
      · exact storage_aside h ⟨rfl, rfl, rfl, rfl, rfl, rfl, rfl⟩ rfl id rfl
      · exact storage_aside h ⟨rfl, rfl, rfl, rfl, rfl, rfl, rfl⟩ rfl id rfl
  | crash =>
    cases he
    exact exitProcess_storage h.wellFormed

/-- A fresh disk has the layout. -/
theorem FreshDisk.wellFormed {d : Disk} (h : FreshDisk d) : d.WellFormed := by
  obtain ⟨ha, he, hr, hm⟩ := h
  refine ⟨fun h => hr.resolve_left h, fun m h => ?_, fun m id h => absurd (ha m id) h,
    fun m id n h => absurd (he m id n) h, fun id => .inl (ha _ id)⟩
  exact ((hm m).resolve_left h).symm

theorem storage_reachable {ok : System → Event → System → Prop}
    (h : Reach (IsInitial setup) (System.step setup) ok s) : s.Storage setup := by
  refine h.invariant _ ?_ fun s e t hs hi he _ => step_storage (control_reachable hs) hi he
  rintro s ⟨machine, hf, rfl⟩
  exact storage_alone rfl nofun hf.wellFormed (fun w hw => by cases hw) (fun w hw => by cases hw)
    fun call hh => by cases hh

end Step

end NodusVision.Manager
