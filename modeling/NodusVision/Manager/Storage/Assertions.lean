import NodusVision.Manager.Control
import NodusVision.Recording.Staging
import NodusVision.Recording.Encoding

/-! What is on the disk at every program point: where the artifact of the running recording is,
which requests it holds, and that every step is lawful. -/
namespace NodusVision.Manager
open Text Storage Disk Program Recording RecordingStore Transition

/-- Names that the video and sidecar writers use. -/
def outputPaths : Set ManagedPath := {p | ∃ id, IsOutput id p}

/-- The recording has no stop evidence in staging. -/
def NoStop (d : Disk) (recordingId : ByteString) : Prop :=
  d (.entry .staging recordingId (.file .stopRequest)) = none

def StopIs (d : Disk) (recordingId evidence : ByteString) : Prop :=
  d (.entry .staging recordingId (.file .stopRequest)) = some (.regular evidence)

def Staged (d : Disk) (recordingId : ByteString) : Prop :=
  d (.artifact .staging recordingId) = some .directory

def Finalized (d : Disk) (recordingId : ByteString) : Prop :=
  d (.artifact .finalized recordingId) = some .directory

/-- A staging artifact that holds its start request and no stop evidence. -/
structure Started (recordingId canonical : ByteString) (d : Disk) : Prop where
  staging : Staged d recordingId
  start : d (.entry .staging recordingId (.file .startRequest)) = some (.regular canonical)
  noStop : NoStop d recordingId

/-- What the lookup of a start finds. -/
def LookupFound (recordingId : ByteString) (d : Disk) : Option PersistedRecordingArtifact → Prop
  | none => ∀ m, d (.artifact m recordingId) = none
  | some a => a.paths = artifactPaths recordingId ∧
      Holds d (place a.finalized) recordingId (some a.startRequest) a.stopRequest

/-- What the lookup of a stop finds while the worker runs. -/
def LookupShared (recordingId : ByteString) (d : Disk) (r : Option PersistedRecordingArtifact) :
    Prop :=
  ∀ a, r = some a → a.paths = artifactPaths recordingId ∧ (a.finalized = true →
    Holds d .finalized recordingId (some a.startRequest) a.stopRequest)

/-- A program under the interference of others, with assertions on the disk. -/
abbrev Runs {α : Type} (others : Set ManagedPath) (does : Disk → Disk → Prop) (p : StoreProg α)
    (Q : α → Disk → Prop) (m : Machine) : Prop :=
  p.Safe exec (sharing others does) anyChoice (fun a m => Q a m.disk) (fun _ _ => True) m

/-- Disk facts inside `beginFinalizationLocked`. -/
def BeginPc.Storage (m : Machine) (recordingId : ByteString) (closer : Closer) : BeginPc → Prop
  | .enter | .closeAdmission => NoStop m.disk recordingId
  | .evidence p => Runs outputPaths (Changes (writtenPaths recordingId .stopRequest)) p
      (fun _ d => StopIs d recordingId (closer.evidence recordingId)) m
  | .checkDeadline => StopIs m.disk recordingId (closer.evidence recordingId)
  | .fail _ => True

/-- The start knows its request text. -/
def Canonical (request : RecordingStartRequest) (canonical : ByteString) : Prop :=
  serializeRecordingStartRequest request = .ok canonical

/-- A published start, up to its return. -/
structure Published (request : RecordingStartRequest) (m : Machine) (impl : Impl) : Prop where
  canonical : Canonical request impl.start.canonical
  requestId : impl.start.requestId = request.requestId
  started : Started request.recordingId impl.start.canonical m.disk

/-- Operations on output files only. -/
def OutputProgram {α : Type} (p : StoreProg α) (returns : α → Prop) : Prop :=
  p.Uses (fun o => ∃ id path, IsOutput id path ∧ WritesTo path o) returns fun _ => True

/-- Disk facts at each program point of the mutex holder. -/
def Call.Storage (setup : Setup) (m : Machine) (impl : Impl) : Call → Prop
  | .startJoining request canonical => Canonical request canonical
  | .startLookup request canonical p => Canonical request canonical ∧
      Runs ∅ Unchanged p (fun r d => LookupFound request.recordingId d r) m
  | .startPreparing request canonical p => Canonical request canonical ∧
      Runs ∅ (Changes (startPaths request.recordingId)) p
        (fun _ d => Prepared request.recordingId canonical d) m
  | .startWriter request canonical p => Canonical request canonical ∧
      Started request.recordingId canonical m.disk ∧
      p.Uses (WritesTo (videoPath request.recordingId))
        (fun w => w = { config := writerConfig setup (artifactPaths request.recordingId)
                        headerWritten := true }) fun _ => True
  | .startReleaseWriter request canonical p | .startReleaseSidecar request canonical p =>
      Canonical request canonical ∧ Started request.recordingId canonical m.disk ∧
      OutputProgram p fun _ => True
  | .startSidecar request canonical p => Canonical request canonical ∧
      Started request.recordingId canonical m.disk ∧
      p.Uses (WritesTo (sidecarPath request.recordingId))
        (fun w => w.outputPath = sidecarPath request.recordingId) fun _ => True
  | .startPublish request canonical => Canonical request canonical ∧
      Started request.recordingId canonical m.disk
  | .startSpawn request | .startRecording request | .startAdmit request =>
      Published request m impl
  | .stopLookup request p => isStopValid request = true ∧
      Runs Set.univ Unchanged p (fun r d => LookupShared request.recordingId d r) m
  | .stopEntered request => isStopValid request = true
  | .stopBegin request b => isStopValid request = true ∧
      b.Storage m impl.recordingId (.requested request)
  | .shutdownBegin b => b.Storage m impl.recordingId .applicationShutdown
  | .destroying p => OutputProgram p fun _ => True
  | _ => True

/-- Disk facts at each program point of the worker. -/
def WorkerPc.Storage (m : Machine) (recordingId : ByteString) : WorkerPc → Prop
  | .loop (.begin b) => Staged m.disk recordingId ∧ b.Storage m recordingId .maxDuration
  | .loop (.writeFrame _ p) => Staged m.disk recordingId ∧
      ∃ id, p.Uses (WritesTo (videoPath id))
        (fun r => r.2.config.outputPath = videoPath id) fun _ => True
  | .loop (.appendFrame _ p) | .closing (.sidecar p) => Staged m.disk recordingId ∧
      ∃ id, p.Uses (WritesTo (sidecarPath id)) (fun w => w.outputPath = sidecarPath id)
        fun _ => True
  | .closing (.writer p) => Staged m.disk recordingId ∧
      ∃ id, p.Uses (WritesTo (videoPath id)) (fun w => w.config.outputPath = videoPath id)
        fun _ => True
  | .closing (.digestVideo _ p) | .closing (.digestSidecar _ p) => Staged m.disk recordingId ∧
      p.Uses Reads (fun _ => True) fun _ => True
  | .closing (.manifest p) => Staged m.disk recordingId ∧
      Runs ∅ (Changes (writtenPaths recordingId .manifest)) p (fun _ _ => True) m
  | .closing (.activate p) =>
      (Staged m.disk recordingId ∨ Finalized m.disk recordingId) ∧
      Runs ∅ (Activates recordingId) p (fun _ d => Finalized d recordingId) m
  | .closing .publish => Finalized m.disk recordingId
  | .loop _ | .closing _ => Staged m.disk recordingId
  | .fault | .finished => True

/-- The storage invariant. -/
structure System.Storage (setup : Setup) (s : System) : Prop where
  wellFormed : s.machine.disk.WellFormed
  unstopped : s.impl.state = .recording → NoStop s.machine.disk s.impl.recordingId
  displaced : ∀ w, s.worker = some w → w.pc.isLive = true → s.history.inSession = false →
    ∃ id, s.impl.artifactPaths = artifactPaths id ∧ Finalized s.machine.disk id
  writer : ∀ w, s.impl.writer = some w → ∃ id, w.config.outputPath = videoPath id
  sidecar : ∀ w, s.impl.sidecar = some w → ∃ id, w.outputPath = sidecarPath id
  call : ∀ call, s.holder = some call → call.Storage setup s.machine s.impl
  worker : ∀ w, s.worker = some w → w.pc.Storage s.machine w.recordingId

section Rules
variable {setup : Setup} {s t : System} {m m' : Machine} {c : Choice}

theorem finalized_of_ne {d : Disk} {id : ByteString} (hw : d.WellFormed)
    (h : d (.artifact .finalized id) ≠ none) : Finalized d id := (hw.artifact_dir _ _ h).1

/-- Lawful steps keep finalized artifacts. -/
theorem Finalized.lawful {d d' : Disk} {id : ByteString} (h : Finalized d id) (hw : d.WellFormed)
    (hl : d.Lawful d') : Finalized d' id := by
  have hf : d (.artifact .finalized id) = some .directory := h
  exact ((hl hw).2.finalized id (by simp [hf])).1.trans hf

/-- A staging artifact is not finalized. -/
theorem Staged.not_finalized {d : Disk} {id : ByteString} (hw : d.WellFormed) (h : Staged d id) :
    d (.artifact .finalized id) = none := by
  have hs : d (.artifact .staging id) = some .directory := h
  exact (hw.one_place id).resolve_left (by simp [hs])

theorem Finalized.not_staged {d : Disk} {id : ByteString} (hw : d.WellFormed)
    (h : Finalized d id) : d (.artifact .staging id) = none := by
  have hf : d (.artifact .finalized id) = some .directory := h
  exact (hw.one_place id).resolve_right (by simp [hf])

theorem runs_quiet {α : Type} {others : Set ManagedPath} {does : Disk → Disk → Prop}
    {p : StoreProg α} {Q : α → Disk → Prop} (hd : m'.disk = m.disk)
    (h : Runs others does p Q m) : Runs others does p Q m' :=
  Prog.Safe.rely h (show Changes others m.disk m'.disk from hd ▸ .refl _ _)

theorem runs_shared {α : Type} {others : Set ManagedPath} {does : Disk → Disk → Prop}
    {p : StoreProg α} {Q : α → Disk → Prop} (hd : Changes others m.disk m'.disk)
    (h : Runs others does p Q m) : Runs others does p Q m' := Prog.Safe.rely h hd

theorem BeginPc.Storage.quiet {b : BeginPc} {id : ByteString} {closer : Closer}
    (hd : m'.disk = m.disk) (h : b.Storage m id closer) : b.Storage m' id closer := by
  cases b with
  | evidence p => exact runs_quiet (Q := fun _ d => StopIs d id (closer.evidence id)) hd h
  | fail e => trivial
  | _ =>
    simp only [BeginPc.Storage, hd] at h ⊢
    exact h

/-- Output to video and sidecar files does not concern the evidence. -/
theorem BeginPc.Storage.shared {b : BeginPc} {id : ByteString} {closer : Closer}
    (hd : Changes outputPaths m.disk m'.disk) (h : b.Storage m id closer) :
    b.Storage m' id closer := by
  have hstop : m'.disk (.entry .staging id (.file .stopRequest)) =
      m.disk (.entry .staging id (.file .stopRequest)) := by
    refine hd.2 _ ?_
    rintro ⟨i, he | he⟩ <;> cases he
  cases b with
  | evidence p => exact runs_shared (Q := fun _ d => StopIs d id (closer.evidence id)) hd h
  | fail e => trivial
  | _ =>
    simp only [BeginPc.Storage, NoStop, StopIs, hstop] at h ⊢
    exact h

theorem Published.quiet {request : RecordingStartRequest} {impl impl' : Impl}
    (h : Published request m impl) (hd : m'.disk = m.disk) (hi : impl'.start = impl.start) :
    Published request m' impl' := by
  obtain ⟨hc, hr, hs⟩ := h
  exact ⟨hi ▸ hc, hi ▸ hr, hi ▸ hd ▸ hs⟩

theorem Call.Storage.quiet {call : Call} {impl impl' : Impl} (hd : m'.disk = m.disk)
    (hid : impl'.recordingId = impl.recordingId) (hi : impl'.start = impl.start)
    (h : call.Storage setup m impl) : call.Storage setup m' impl' := by
  cases call with
  | startJoining => exact h
  | startLookup => exact ⟨h.1, runs_quiet hd h.2⟩
  | startPreparing => exact ⟨h.1, runs_quiet hd h.2⟩
  | startWriter | startReleaseWriter | startSidecar | startReleaseSidecar =>
    exact ⟨h.1, hd ▸ h.2.1, h.2.2⟩
  | startPublish => exact ⟨h.1, hd ▸ h.2⟩
  | startSpawn | startRecording | startAdmit => exact Published.quiet h hd hi
  | stopEntered => exact h
  | stopLookup => exact ⟨h.1, runs_quiet hd h.2⟩
  | stopBegin => exact ⟨h.1, hid ▸ BeginPc.Storage.quiet hd h.2⟩
  | shutdownBegin b =>
    have hb := BeginPc.Storage.quiet hd h
    simpa only [Call.Storage, hid] using hb
  | destroying => exact h
  | startEntered | startFailed | startRethrow | shutdownEntered | shutdownCatch => trivial

theorem WorkerPc.Storage.quiet {pc : WorkerPc} {id : ByteString} (hd : m'.disk = m.disk)
    (h : pc.Storage m id) : pc.Storage m' id := by
  cases pc with
  | loop pc =>
    cases pc with
    | begin b => exact ⟨hd ▸ h.1, h.2.quiet hd⟩
    | writeFrame | appendFrame => exact ⟨hd ▸ h.1, h.2⟩
    | _ =>
      simp only [WorkerPc.Storage, hd] at h ⊢
      exact h
  | closing pc =>
    cases pc with
    | writer | sidecar | digestVideo | digestSidecar => exact ⟨hd ▸ h.1, h.2⟩
    | manifest => exact ⟨hd ▸ h.1, runs_quiet hd h.2⟩
    | activate => exact ⟨hd ▸ h.1, runs_quiet hd h.2⟩
    | _ =>
      simp only [WorkerPc.Storage, hd] at h ⊢
      exact h
  | fault | finished => trivial

/-- A worker in its loop does not see the evidence of another closer appear. -/
theorem WorkerPc.Storage.beside {pc : WorkerPc} {id id' : ByteString} (hin : pc.inLoop = true)
    (hd : Changes (writtenPaths id' .stopRequest) m.disk m'.disk) (h : pc.Storage m id) :
    pc.Storage m' id := by
  have hstaged : Staged m.disk id → Staged m'.disk id := by
    intro hs
    refine (hd.2 _ ?_).trans hs
    rintro (he | he) <;> cases he
  cases pc with
  | loop pc =>
    cases pc with
    | begin b => cases hin
    | writeFrame | appendFrame => exact ⟨hstaged h.1, h.2⟩
    | _ => exact hstaged h
  | closing pc => cases hin
  | fault | finished => trivial

/-- The recording fields that most steps leave alone. -/
structure SameRecording (s t : System) : Prop where
  recordingId : t.impl.recordingId = s.impl.recordingId
  paths : t.impl.artifactPaths = s.impl.artifactPaths
  start : t.impl.start = s.impl.start
  writer : t.impl.writer = s.impl.writer
  sidecar : t.impl.sidecar = s.impl.sidecar
  worker : t.worker = s.worker
  inSession : t.history.inSession = s.history.inSession

theorem SameRecording.hold {s t : System} (h : SameRecording s t) (c : Call) :
    SameRecording s (t.hold c) :=
  ⟨h.recordingId, h.paths, h.start, h.writer, h.sidecar, h.worker, h.inSession⟩

theorem SameRecording.release {s t : System} (h : SameRecording s t) (r : Return) :
    SameRecording s (t.release r) :=
  ⟨h.recordingId, h.paths, h.start, h.writer, h.sidecar, h.worker, h.inSession⟩

/-- What `beginFinalizationLocked` leaves alone. -/
structure BeginKeeps (s t : System) : Prop extends SameRecording s t where
  holder : t.holder = s.holder
  closing : t.impl.state ≠ .recording

theorem video_subset (id : ByteString) : ({videoPath id} : Set ManagedPath) ⊆ outputPaths := by
  rintro p rfl
  exact ⟨id, .inl rfl⟩

theorem sidecar_subset (id : ByteString) :
    ({sidecarPath id} : Set ManagedPath) ⊆ outputPaths := by
  rintro p rfl
  exact ⟨id, .inr rfl⟩

theorem separate_outputs (recordingId : ByteString) :
    Separate outputPaths recordingId .stopRequest := by
  refine ⟨?_, ?_⟩
  · rintro ⟨id, he | he⟩ <;> cases he
  · rintro p (rfl | rfl) ⟨id, he | he⟩ <;> cases he

/-- One step of `beginFinalizationLocked` on the disk. -/
theorem begin_storage (setup : Setup) {s : System} (c : Choice) {closer : Closer}
    {point : System → BeginPc → System} {finish : System → System}
    {rethrow : System → Exception → System} {b : BeginPc} (hf : b.Flags s.core)
    (hpaths : s.impl.artifactPaths = artifactPaths s.impl.recordingId)
    (hw : s.machine.disk.WellFormed) (hb : b.Storage s.machine s.impl.recordingId closer) :
    (∃ t b', b.step setup s c closer point finish rethrow = point t b' ∧ BeginKeeps s t ∧
        Changes (writtenPaths s.impl.recordingId .stopRequest) s.machine.disk t.machine.disk ∧
        b'.Storage t.machine s.impl.recordingId closer) ∨
      (∃ t, b.step setup s c closer point finish rethrow = finish t ∧ BeginKeeps s t ∧
        t.machine = s.machine ∧
        StopIs s.machine.disk s.impl.recordingId (closer.evidence s.impl.recordingId)) ∨
      ∃ t e, b.step setup s c closer point finish rethrow = rethrow t e ∧ BeginKeeps s t ∧
        t.machine = s.machine := by
  have hclosed : ∀ {t : System}, t.impl.state = .finalizing → t.impl.state ≠ .recording := by
    intro t ht hr
    rw [ht] at hr
    cases hr
  cases b with
  | enter =>
    exact .inl ⟨_, _, rfl, ⟨⟨rfl, rfl, rfl, rfl, rfl, rfl, rfl⟩, rfl, fun hr => by cases hr⟩, .refl _ _, hb⟩
  | closeAdmission =>
    refine .inl ⟨_, _, rfl, ⟨⟨rfl, rfl, rfl, rfl, rfl, rfl, rfl⟩, rfl, hclosed hf.1⟩, .refl _ _, ?_⟩
    rw [hpaths]
    have hspec : Spec anyChoice outputPaths (Changes (writtenPaths s.impl.recordingId .stopRequest))
        _ (writeStopRequest (artifactPaths s.impl.recordingId)
          (closer.evidence s.impl.recordingId)) _ _ :=
      writeStopRequest_spec (stable_wellFormed _) (fun _ h => h) (fun _ _ h => h)
        (separate_outputs _)
    exact (hspec s.machine ⟨hw, hb⟩).mono (fun _ _ h => h.2) fun _ _ _ => trivial
  | evidence p =>
    have hr : Runs outputPaths (Changes (writtenPaths s.impl.recordingId .stopRequest)) p
      (fun _ d => StopIs d s.impl.recordingId (closer.evidence s.impl.recordingId)) s.machine := hb
    cases p with
    | pure a =>
      exact .inl ⟨_, _, rfl, ⟨⟨rfl, rfl, rfl, rfl, rfl, rfl, rfl⟩, rfl, hclosed hf.1⟩, .refl _ _,
        hr.of_pure⟩
    | throw e =>
      exact .inl ⟨_, _, rfl, ⟨⟨rfl, rfl, rfl, rfl, rfl, rfl, rfl⟩, rfl, hclosed hf.1⟩, .refl _ _, trivial⟩
    | op o k =>
      obtain ⟨hg, hk⟩ := hr.op_step c trivial
      exact .inl ⟨_, _, rfl, ⟨⟨rfl, rfl, rfl, rfl, rfl, rfl, rfl⟩, rfl, hclosed hf.1⟩, hg, hk⟩
  | checkDeadline =>
    simp only [BeginPc.step]
    split
    · exact .inl ⟨_, _, rfl, ⟨⟨rfl, rfl, rfl, rfl, rfl, rfl, rfl⟩, rfl, hclosed hf.1⟩, .refl _ _, trivial⟩
    · exact .inr (.inl ⟨_, rfl, ⟨⟨rfl, rfl, rfl, rfl, rfl, rfl, rfl⟩, rfl, hclosed hf.1⟩, rfl, hb⟩)
  | fail e =>
    exact .inr (.inr ⟨_, _, rfl, ⟨⟨rfl, rfl, rfl, rfl, rfl, rfl, rfl⟩, rfl, fun hr => by cases hr⟩, rfl⟩)

/-- A start may write its preparation while it has no worker beside it. -/
theorem prepareStaging_spec (setup : Setup) (request : RecordingStartRequest) :
    Spec anyChoice ∅ (Changes (startPaths request.recordingId)) (Absent request.recordingId)
      (prepareStaging setup request)
      (fun _ d => (∃ canonical, Canonical request canonical ∧
        Prepared request.recordingId canonical d) ∧
        d (.entry .staging request.recordingId (.temporary .manifest)) = none) fun _ _ => True := by
  refine Spec.bind _ ((initializeStore_spec (stable_absent _) (fun _ h => h.wellFormed)
    fun _ _ hc => hc.mono Set.subset_union_left).post (fun _ _ h => h)
      fun _ _ _ => trivial) fun _ => ?_
  refine query_spec (stable_empty _) (fun _ => .refl _ _) (fun _ => Absent request.recordingId)
    (fun m c hm _ => ⟨rfl, hm⟩) fun (available : Option ℕ) => ?_
  refine Spec.bind _ (check_spec (stable_empty _) fun _ _ _ => trivial) fun _ => ?_
  exact (createStaging_spec request).post (fun _ _ h => h.2) fun _ _ _ => trivial

/-- The lookup of a start tells where the identity is. -/
theorem startLookup_runs {recordingId : ByteString} (hid : isRecordingIdValid recordingId = true)
    (hw : m.disk.WellFormed) :
    Runs ∅ Unchanged (findPersistedArtifact recordingId)
      (fun r d => LookupFound recordingId d r) m := by
  have hpresent : ∀ finalized, m.disk (.artifact (place finalized) recordingId) ≠ none →
      Runs ∅ Unchanged (findPersistedArtifact recordingId)
        (fun r d => LookupFound recordingId d r) m := by
    intro finalized hne
    obtain ⟨start, hstart⟩ := hw.entry (place finalized) recordingId (.file .startRequest)
    obtain ⟨stop, hstop⟩ := hw.entry (place finalized) recordingId (.file .stopRequest)
    have hspec : Spec anyChoice ∅ Unchanged (fun d => d.WellFormed ∧
        Holds d (place finalized) recordingId start stop) (findPersistedArtifact recordingId) _
        fun _ _ => True :=
      findPersistedArtifact_present hid (stable_empty _) Unchanged.refl (fun _ h => h.1)
        (fun _ h => h.2) fun _ _ _ _ => trivial
    refine (hspec m ⟨hw, (hw.artifact_dir _ _ hne).1, hstart, hstop⟩).mono ?_ fun _ _ h => h
    rintro r m' ⟨⟨c, rfl, -, -, rfl⟩, -, hh⟩
    exact ⟨rfl, hh⟩
  by_cases hf : m.disk (.artifact .finalized recordingId) = none
  · by_cases hs : m.disk (.artifact .staging recordingId) = none
    · have hspec : Spec anyChoice ∅ Unchanged (Absent recordingId)
          (findPersistedArtifact recordingId) _ fun _ _ => True :=
        findPersistedArtifact_absent hid (stable_empty _) Unchanged.refl
          (fun _ h => h.wellFormed) (fun _ h => h.absent) fun _ _ _ _ => trivial
      refine (hspec m ⟨hw, fun k => ?_⟩).mono ?_ fun _ _ h => h
      · cases k with
        | staging => exact hs
        | finalized => exact hf
      · rintro r m' ⟨rfl, ha⟩
        exact ha.absent
    · exact hpresent false hs
  · exact hpresent true hf

theorem stopLookup_runs {recordingId : ByteString} (hid : isRecordingIdValid recordingId = true)
    (hw : m.disk.WellFormed) :
    Runs Set.univ Unchanged (findPersistedArtifact recordingId)
      (fun r d => LookupShared recordingId d r) m := by
  have hspec : Spec anyChoice Set.univ Unchanged WellFormed (findPersistedArtifact recordingId) _
      fun _ _ => True := findPersistedArtifact_shared hid Unchanged.refl
  exact (hspec m hw).mono (fun _ _ h => h.1) fun _ _ h => h

end Rules

end NodusVision.Manager
