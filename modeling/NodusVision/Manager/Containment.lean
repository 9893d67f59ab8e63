import NodusVision.Manager.StartOnce
import NodusVision.Program.Ending
import NodusVision.Recording.OutputPaths

/-! Every file operation of the recorder is confined to the artifact of one valid id. -/
namespace NodusVision.Manager
open Text Storage Disk Program Recording RecordingStore Transition

/-- Confined to the artifact of some valid id. -/
def Kept (o : FsOp) : Prop := ∃ id, isRecordingIdValid id = true ∧ FsOp.Confined id o

/-- A program on the artifact of one valid id, in a session on that of the worker. -/
def Placed {α : Type} (inSession : Bool) (recordingId : ByteString) (p : StoreProg α) : Prop :=
  ∃ id, isRecordingIdValid id = true ∧ Stays id p ∧ (inSession = true → id = recordingId)

/-- The writers are those of the recording. -/
structure Impl.OutputsOf (impl : Impl) (recordingId : ByteString) : Prop where
  video : ∀ v, impl.writer = some v → v.config.outputPath = videoPath recordingId
  lines : ∀ v, impl.sidecar = some v → v.outputPath = sidecarPath recordingId

def BeginPc.Stays (recordingId : ByteString) : BeginPc → Prop
  | .evidence p => RecordingStore.Stays recordingId p
  | _ => True

/-- Where the file work of a call stays. -/
def Call.Contained (impl : Impl) : Call → Prop
  | .startLookup request _ p | .stopLookup request p =>
    isRecordingIdValid request.recordingId = true ∧ Stays request.recordingId p
  | .startPreparing request _ p =>
    isRecordingIdValid request.recordingId = true ∧ Stays request.recordingId p
  | .startWriter request _ p => isRecordingIdValid request.recordingId = true ∧
    p.Uses (FsOp.Confined request.recordingId)
      (fun w => w.config.outputPath = videoPath request.recordingId) fun _ => True
  | .startReleaseWriter request _ p => isRecordingIdValid request.recordingId = true ∧
    Only Kept p ∧ ∀ v, impl.writer = some v → v.config.outputPath = videoPath request.recordingId
  | .startSidecar request _ p => isRecordingIdValid request.recordingId = true ∧
    (p.Uses (FsOp.Confined request.recordingId)
      (fun w => w.outputPath = sidecarPath request.recordingId) fun _ => True) ∧
    ∀ v, impl.writer = some v → v.config.outputPath = videoPath request.recordingId
  | .startReleaseSidecar request _ p => isRecordingIdValid request.recordingId = true ∧
    Only Kept p ∧ impl.OutputsOf request.recordingId
  | .startPublish request _ | .startSpawn request =>
    isRecordingIdValid request.recordingId = true ∧ impl.OutputsOf request.recordingId
  | .stopBegin request b =>
    isRecordingIdValid request.recordingId = true ∧ b.Stays request.recordingId
  | .shutdownBegin b =>
    isRecordingIdValid impl.recordingId = true ∧ b.Stays impl.recordingId
  | .destroying p => Only Kept p
  | _ => True

/-- Where the file work of the worker stays. -/
def WorkerPc.Contained (inSession : Bool) (recordingId : ByteString) : WorkerPc → Prop
  | .loop (.begin b) => b.Stays recordingId
  | .loop (.writeFrame _ p) => p.Uses (FsOp.Confined recordingId)
      (fun r => r.2.config.outputPath = videoPath recordingId) fun _ => True
  | .loop (.appendFrame _ p) | .closing (.sidecar p) => p.Uses (FsOp.Confined recordingId)
      (fun w => w.outputPath = sidecarPath recordingId) fun _ => True
  | .closing (.writer p) => p.Uses (FsOp.Confined recordingId)
      (fun w => w.config.outputPath = videoPath recordingId) fun _ => True
  | .closing (.digestVideo _ p) | .closing (.digestSidecar _ p) => Placed inSession recordingId p
  | .closing (.manifest p) | .closing (.activate p) => Placed inSession recordingId p
  | _ => True

structure Worker.Contained (s : System) (w : Worker) : Prop where
  valid : isRecordingIdValid w.recordingId = true
  outputs : w.pc.isLive = true → s.impl.OutputsOf w.recordingId
  program : w.pc.Contained s.history.inSession w.recordingId

structure System.Contained (s : System) : Prop where
  paths : ∀ id, s.impl.artifactPaths = artifactPaths id → isRecordingIdValid id = true
  writer : ∀ v, s.impl.writer = some v →
    ∃ id, isRecordingIdValid id = true ∧ v.config.outputPath = videoPath id
  sidecar : ∀ v, s.impl.sidecar = some v →
    ∃ id, isRecordingIdValid id = true ∧ v.outputPath = sidecarPath id
  call : ∀ call, s.holder = some call → call.Contained s.impl
  worker : ∀ w, s.worker = some w → w.Contained s

section Programs
variable {α : Type} {p : StoreProg α} {id : ByteString}

theorem kept_of_stays (hid : isRecordingIdValid id = true) (h : Stays id p) : Only Kept p :=
  h.mono (fun _ ho => ⟨id, hid, ho⟩) (fun _ h => h) fun _ h => h

/-- What a program that stays returns. -/
theorem stays_returns {ops : FsOp → Prop} {returns : α → Prop} {throws : Exception → Prop}
    (h : Stays id p) (hr : p.Uses ops returns throws) :
    p.Uses (FsOp.Confined id) returns fun _ => True :=
  (h.and hr).mono (fun _ h => h.1) (fun _ h => h.2) fun _ _ => trivial

theorem artifactPaths_injective {a b : ByteString} (h : artifactPaths a = artifactPaths b) : a = b := by
  cases h
  rfl

theorem stays_prepareStaging (setup : Setup) (request : RecordingStartRequest) :
    Stays request.recordingId (prepareStaging setup request) := by
  refine only_bind stays_initializeStore fun _ => ?_
  refine only_call within_root fun (available : Option ℕ) => only_bind (only_throwIf _) fun _ => ?_
  exact stays_createStaging request

end Programs

section Calls
variable {setup : Setup} {s t : System} {c : Choice}

/-- A call goes on while the recording, its files and its worker stay as they are. -/
theorem contained_same (h : s.Contained) (hk : SameRecording s t)
    (hcall : ∀ call, t.holder = some call → call.Contained t.impl) : t.Contained where
  paths id hid := h.paths id (hk.paths ▸ hid)
  writer v hv := h.writer v (hk.writer ▸ hv)
  sidecar v hv := h.sidecar v (hk.sidecar ▸ hv)
  call := hcall
  worker w hw := by
    obtain ⟨hvalid, houtputs, hprogram⟩ := h.worker w (hk.worker ▸ hw)
    refine ⟨hvalid, fun hlive => ?_, hk.inSession ▸ hprogram⟩
    obtain ⟨hvideo, hlines⟩ := houtputs hlive
    exact ⟨fun v hv => hvideo v (hk.writer ▸ hv), fun v hv => hlines v (hk.sidecar ▸ hv)⟩

theorem Call.Contained.kept {impl impl' : Impl} {call : Call} (h : call.Contained impl)
    (hid : impl'.recordingId = impl.recordingId) (hwriter : impl'.writer = impl.writer)
    (hsidecar : impl'.sidecar = impl.sidecar) : call.Contained impl' := by
  have houtputs : ∀ {id : ByteString}, impl.OutputsOf id → impl'.OutputsOf id := by
    intro id ho
    exact ⟨fun v hv => ho.video v (hwriter ▸ hv), fun v hv => ho.lines v (hsidecar ▸ hv)⟩
  cases call with
  | startReleaseWriter => exact ⟨h.1, h.2.1, fun v hv => h.2.2 v (hwriter ▸ hv)⟩
  | startSidecar => exact ⟨h.1, h.2.1, fun v hv => h.2.2 v (hwriter ▸ hv)⟩
  | startReleaseSidecar => exact ⟨h.1, h.2.1, houtputs h.2.2⟩
  | startPublish | startSpawn => exact ⟨h.1, houtputs h.2⟩
  | shutdownBegin b =>
    show isRecordingIdValid impl'.recordingId = true ∧ b.Stays impl'.recordingId
    rw [hid]
    exact h
  | _ => exact h

/-- A step beside the call that holds the mutex. -/
theorem contained_aside (h : s.Contained) (hk : SameRecording s t) (hh : t.holder = s.holder) :
    t.Contained :=
  contained_same h hk fun call hc =>
    (h.call call (hh ▸ hc)).kept hk.recordingId hk.writer hk.sidecar

theorem contained_hold (h : s.Contained) {call : Call} (hc : call.Contained s.impl) :
    (s.hold call).Contained := by
  refine contained_same h ⟨rfl, rfl, rfl, rfl, rfl, rfl, rfl⟩ ?_
  rintro _ ⟨⟩
  exact hc

theorem contained_release (h : s.Contained) (r : Return) : (s.release r).Contained :=
  contained_same h ⟨rfl, rfl, rfl, rfl, rfl, rfl, rfl⟩ fun _ hc => by cases hc

/-- A call without a worker beside it. -/
theorem contained_alone (hw : t.worker = none)
    (hpaths : ∀ id, t.impl.artifactPaths = artifactPaths id → isRecordingIdValid id = true)
    (hwriter : ∀ v, t.impl.writer = some v →
      ∃ id, isRecordingIdValid id = true ∧ v.config.outputPath = videoPath id)
    (hsidecar : ∀ v, t.impl.sidecar = some v →
      ∃ id, isRecordingIdValid id = true ∧ v.outputPath = sidecarPath id)
    (hcall : ∀ call, t.holder = some call → call.Contained t.impl) : t.Contained where
  paths := hpaths
  writer := hwriter
  sidecar := hsidecar
  call := hcall
  worker w hw' := by cases hw.symm.trans hw'

theorem exitProcess_contained : (s.exitProcess setup).Contained :=
  contained_alone rfl (fun id hid => by cases hid) (fun v hv => by cases hv)
    (fun v hv => by cases hv) fun call hc => by cases hc

/-- One step of a program of the mutex holder. -/
theorem contained_advance {α : Type} {p : StoreProg α} {point : StoreProg α → Call}
    {onReturn : α → System} {onThrow : Exception → System} (h : s.Contained)
    (hop : ∀ o k, p = .op o k → ∀ r, (point (k r)).Contained s.impl)
    (hret : ∀ a, p = .pure a → (onReturn a).Contained)
    (hthrow : ∀ e, (onThrow e).Contained) : (s.advance c point onReturn onThrow p).Contained := by
  cases p with
  | pure a => exact hret a rfl
  | throw e => exact hthrow e
  | op o k =>
    refine contained_same h ⟨rfl, rfl, rfl, rfl, rfl, rfl, rfl⟩ ?_
    rintro _ ⟨⟩
    exact hop o k rfl _

theorem releaseWriter_kept (h : s.Contained) : Only Kept (releaseWriter s.impl.writer) := by
  cases hw : s.impl.writer with
  | none => exact only_pure ()
  | some v =>
    obtain ⟨id, hid, hpath⟩ := h.writer v hw
    exact kept_of_stays hid (ColorVideoWriter.stays_destroy (.inl hpath))

theorem releaseSidecar_kept (h : s.Contained) : Only Kept (releaseSidecar s.impl.sidecar) := by
  cases hw : s.impl.sidecar with
  | none => exact only_pure ()
  | some v =>
    obtain ⟨id, hid, hpath⟩ := h.sidecar v hw
    exact kept_of_stays hid (RecordingSidecarWriter.stays_destroy (.inr hpath))

/-- One step of `beginFinalizationLocked`. -/
theorem contained_begin {closer : Closer} {point : System → BeginPc → System}
    {finish : System → System} {rethrow : System → Exception → System} {b : BeginPc}
    {id : ByteString} (hpaths : s.impl.artifactPaths = artifactPaths id) (hb : b.Stays id)
    (hpoint : ∀ u b', SameRecording s u → u.holder = s.holder → b'.Stays id → (point u b').Contained)
    (hfinish : ∀ u, SameRecording s u → u.holder = s.holder → (finish u).Contained)
    (hrethrow : ∀ u e, SameRecording s u → u.holder = s.holder → (rethrow u e).Contained) :
    (b.step setup s c closer point finish rethrow).Contained := by
  cases b with
  | enter => exact hpoint _ _ ⟨rfl, rfl, rfl, rfl, rfl, rfl, rfl⟩ rfl trivial
  | closeAdmission =>
    refine hpoint _ _ ⟨rfl, rfl, rfl, rfl, rfl, rfl, rfl⟩ rfl ?_
    rw [hpaths]
    exact stays_writeStopRequest _
  | evidence p =>
    cases p with
    | pure a => exact hpoint _ _ ⟨rfl, rfl, rfl, rfl, rfl, rfl, rfl⟩ rfl trivial
    | throw e => exact hpoint _ _ ⟨rfl, rfl, rfl, rfl, rfl, rfl, rfl⟩ rfl trivial
    | op o k =>
      have hstays : Stays id (.op o k) := hb
      exact hpoint _ _ ⟨rfl, rfl, rfl, rfl, rfl, rfl, rfl⟩ rfl (hstays.2 _)
  | checkDeadline =>
    simp only [BeginPc.step]
    split
    · exact hpoint _ _ ⟨rfl, rfl, rfl, rfl, rfl, rfl, rfl⟩ rfl trivial
    · exact hfinish _ ⟨rfl, rfl, rfl, rfl, rfl, rfl, rfl⟩ rfl
  | fail e => exact hrethrow _ _ ⟨rfl, rfl, rfl, rfl, rfl, rfl, rfl⟩ rfl

private theorem startEntered_contained {request : RecordingStartRequest} (h : s.Contained) :
    (s.startEntered request).Contained := by
  unfold System.startEntered
  cases hser : serializeRecordingStartRequest request with
  | error e => exact contained_release h _
  | ok canonical =>
    dsimp only
    split
    · split
      · exact contained_release h _
      · exact contained_release h _
    · split
      · exact contained_release h _
      · split
        · exact contained_hold h trivial
        · exact contained_hold h ⟨Canonical.valid hser, stays_findPersistedArtifact⟩

/-- What has been started in a session may go on after it. -/
theorem WorkerPc.Contained.displaced {pc : WorkerPc} {inSession : Bool} {id : ByteString}
    (h : pc.Contained inSession id) : pc.Contained false id := by
  have hplaced : ∀ {α : Type} {p : StoreProg α}, Placed inSession id p → Placed false id p := by
    rintro α p ⟨y, hy, hstays, -⟩
    exact ⟨y, hy, hstays, fun hfalse => by cases hfalse⟩
  cases pc with
  | loop k => cases k <;> exact h
  | closing k =>
    cases k with
    | digestVideo | digestSidecar | manifest | activate => exact hplaced h
    | _ => exact h
  | _ => exact h

/-- A restore names the artifact that the lookup has found. -/
private theorem restored_contained {request : RecordingStartRequest} (h : s.Contained)
    (hid : isRecordingIdValid request.recordingId = true) (hh : t.holder = none)
    (hpaths : t.impl.artifactPaths = artifactPaths request.recordingId)
    (hwriter : t.impl.writer = s.impl.writer) (hsidecar : t.impl.sidecar = s.impl.sidecar)
    (hw : t.worker = s.worker) (hin : t.history.inSession = false) : t.Contained where
  paths id he := by
    rw [hpaths] at he
    exact artifactPaths_injective he ▸ hid
  writer v hv := h.writer v (hwriter ▸ hv)
  sidecar v hv := h.sidecar v (hsidecar ▸ hv)
  call call hc := by cases hh.symm.trans hc
  worker w hw' := by
    obtain ⟨hvalid, houtputs, hprogram⟩ := h.worker w (hw ▸ hw')
    refine ⟨hvalid, fun hlive => ?_, ?_⟩
    · obtain ⟨hvideo, hlines⟩ := houtputs hlive
      exact ⟨fun v hv => hvideo v (hwriter ▸ hv), fun v hv => hlines v (hsidecar ▸ hv)⟩
    · rw [hin]
      exact hprogram.displaced

private theorem startLookedUp_contained {request : RecordingStartRequest} {canonical : ByteString}
    {r : Option PersistedRecordingArtifact} (h : s.Contained)
    (hid : isRecordingIdValid request.recordingId = true)
    (hr : LookupFound request.recordingId s.machine.disk r) :
    (s.startLookedUp setup request canonical r).Contained := by
  cases r with
  | none =>
    refine contained_same h ⟨rfl, rfl, rfl, rfl, rfl, rfl, rfl⟩ ?_
    rintro _ ⟨⟩
    exact ⟨hid, stays_prepareStaging setup request⟩
  | some artifact =>
    simp only [System.startLookedUp]
    split
    · exact contained_release h _
    · exact restored_contained h hid rfl hr.1 rfl rfl rfl rfl

private theorem stopUnrecorded_contained {request : RecordingStartRequest} (h : s.Contained)
    (hid : isRecordingIdValid request.recordingId = true) :
    (s.stopUnrecorded request).Contained := by
  unfold System.stopUnrecorded
  split
  · exact contained_release h _
  · split
    · exact contained_release h _
    · exact contained_hold h ⟨hid, trivial⟩

private theorem stopLookedUp_contained {request : RecordingStartRequest}
    {r : Option PersistedRecordingArtifact} (h : s.Contained)
    (hid : isRecordingIdValid request.recordingId = true)
    (hr : LookupShared request.recordingId s.machine.disk r) :
    (s.stopLookedUp request r).Contained := by
  unfold System.stopLookedUp
  split
  · exact stopUnrecorded_contained h hid
  · split
    · exact stopUnrecorded_contained h hid
    · split
      · exact contained_release h _
      · split
        · unfold System.stopReplayed
          split
          · exact restored_contained h hid rfl (hr _ rfl).1 rfl rfl rfl rfl
          · exact contained_release h _
        · split
          · exact contained_release h _
          · exact stopUnrecorded_contained h hid

/-- Where `beginFinalizationLocked` runs beside the worker. -/
private theorem closing_call {P : WorkerPc → Bool} (h : s.Contained) (hat : s.core.WorkerAt P) :
    isRecordingIdValid s.impl.recordingId = true := by
  obtain ⟨w, hw, -, hid, -⟩ := hat
  have hid : s.impl.recordingId = w.recordingId := hid
  rw [hid]
  exact (h.worker w hw).valid

theorem contained_callStep {call : Call} (hk : s.core.Control) (hs : s.Storage setup)
    (h : s.Contained) (hh : s.holder = some call) (he : s.callStep setup c call = some t) :
    t.Contained := by
  have hctl := hk.call hh
  have hst := hs.call call hh
  have hcall := h.call call hh
  cases call with
  | startEntered request =>
    cases he
    exact startEntered_contained h
  | startJoining request canonical =>
    change (if s.workerLive = true then none else _) = some t at he
    split at he <;> cases he
    refine contained_alone rfl h.paths h.writer h.sidecar ?_
    rintro _ ⟨⟩
    exact ⟨Canonical.valid hst, stays_findPersistedArtifact⟩
  | startLookup request canonical p =>
    cases he
    obtain ⟨hid, hstays⟩ := hcall
    obtain ⟨-, hr⟩ := hst
    refine contained_advance h ?_ ?_ fun _ => contained_release h _
    · rintro o k rfl r
      exact ⟨hid, hstays.2 r⟩
    · rintro r rfl
      exact startLookedUp_contained h hid hr.of_pure
  | startPreparing request canonical p =>
    cases he
    obtain ⟨hid, hstays⟩ := hcall
    obtain ⟨⟨hw, -⟩, huses⟩ := hctl
    refine contained_advance h ?_ ?_ fun _ => contained_hold h trivial
    · rintro o k rfl r
      exact ⟨hid, hstays.2 r⟩
    · rintro paths rfl
      have hpaths : paths = artifactPaths request.recordingId := huses
      subst hpaths
      refine contained_alone hw (fun y hy => artifactPaths_injective hy ▸ hid) h.writer h.sidecar ?_
      rintro _ ⟨⟩
      have hvideo : IsOutput request.recordingId
          (writerConfig setup (artifactPaths request.recordingId)).outputPath := .inl rfl
      refine ⟨hid, (stays_returns (ColorVideoWriter.stays_construct hvideo)
        (ColorVideoWriter.construct_uses _)).mono (fun _ h => h) ?_ fun _ h => h⟩
      rintro _ rfl
      rfl
  | startWriter request canonical p =>
    cases he
    obtain ⟨hid, huses⟩ := hcall
    obtain ⟨⟨hw, -⟩, -⟩ := hctl
    refine contained_advance h ?_ ?_ fun _ => contained_hold h trivial
    · rintro o k rfl r
      exact ⟨hid, huses.2 r⟩
    · rintro v rfl
      have hpath : v.config.outputPath = videoPath request.recordingId := huses
      refine contained_alone hw h.paths ?_ h.sidecar ?_
      · rintro _ ⟨⟩
        exact ⟨_, hid, hpath⟩
      · rintro _ ⟨⟩
        refine ⟨hid, releaseWriter_kept h, ?_⟩
        rintro _ ⟨⟩
        exact hpath
  | startReleaseWriter request canonical p =>
    cases he
    obtain ⟨hid, hkept, hvideo⟩ := hcall
    obtain ⟨-, hpaths⟩ := hctl
    have hpaths : s.impl.artifactPaths = artifactPaths request.recordingId := hpaths
    refine contained_advance h ?_ ?_ fun _ => contained_hold h trivial
    · rintro o k rfl r
      exact ⟨hid, hkept.2 r, hvideo⟩
    · rintro a rfl
      refine contained_hold h ⟨hid, ?_, hvideo⟩
      rw [hpaths]
      have hlines : IsOutput request.recordingId (sidecarPath request.recordingId) := .inr rfl
      refine (stays_returns (RecordingSidecarWriter.stays_construct hlines _ _ _)
        (RecordingSidecarWriter.construct_uses _ _ _ _)).mono (fun _ h => h) ?_ fun _ h => h
      rintro _ rfl
      rfl
  | startSidecar request canonical p =>
    cases he
    obtain ⟨hid, huses, hvideo⟩ := hcall
    obtain ⟨⟨hw, -⟩, -⟩ := hctl
    refine contained_advance h ?_ ?_ fun _ => contained_hold h trivial
    · rintro o k rfl r
      exact ⟨hid, huses.2 r, hvideo⟩
    · rintro v rfl
      have hpath : v.outputPath = sidecarPath request.recordingId := huses
      refine contained_alone hw h.paths h.writer ?_ ?_
      · rintro _ ⟨⟩
        exact ⟨_, hid, hpath⟩
      · rintro _ ⟨⟩
        refine ⟨hid, releaseSidecar_kept h, hvideo, ?_⟩
        rintro _ ⟨⟩
        exact hpath
  | startReleaseSidecar request canonical p =>
    cases he
    obtain ⟨hid, hkept, houtputs⟩ := hcall
    refine contained_advance h ?_ ?_ fun _ => contained_hold h trivial
    · rintro o k rfl r
      exact ⟨hid, hkept.2 r, houtputs⟩
    · rintro a rfl
      exact contained_hold h ⟨hid, houtputs⟩
  | startPublish request canonical =>
    cases he
    refine contained_alone hctl.1.1 h.paths h.writer h.sidecar ?_
    rintro _ ⟨⟩
    exact ⟨hcall.1, hcall.2.video, hcall.2.lines⟩
  | startSpawn request =>
    change (if c.fails = true then _ else _) = some t at he
    split at he <;> cases he
    · exact contained_hold h trivial
    · refine ⟨h.paths, h.writer, h.sidecar, ?_, ?_⟩
      · rintro _ ⟨⟩
        trivial
      · rintro w ⟨⟩
        exact ⟨hcall.1, fun _ => hcall.2, trivial⟩
  | startRecording request =>
    cases he
    refine contained_same h ⟨rfl, rfl, rfl, rfl, rfl, rfl, rfl⟩ ?_
    rintro _ ⟨⟩
    trivial
  | startAdmit request | startRethrow request e =>
    cases he
    exact contained_same h ⟨rfl, rfl, rfl, rfl, rfl, rfl, rfl⟩ fun _ hc => by cases hc
  | startFailed request e =>
    cases he
    refine contained_same h ⟨rfl, rfl, rfl, rfl, rfl, rfl, rfl⟩ ?_
    rintro _ ⟨⟩
    trivial
  | stopEntered request =>
    cases he
    have hvalid : isStopValid request = true := hst
    have hid := (Bool.and_eq_true_iff.mp hvalid).2
    unfold System.stopEntered
    split
    · split
      · split
        · exact contained_release h _
        · split
          · exact contained_release h _
          · exact contained_release h _
      · exact contained_release h _
    · exact contained_hold h ⟨hid, stays_findPersistedArtifact⟩
  | stopLookup request p =>
    cases he
    obtain ⟨hid, hstays⟩ := hcall
    obtain ⟨-, hr⟩ := hst
    refine contained_advance h ?_ ?_ fun _ => contained_release h _
    · rintro o k rfl r
      exact ⟨hid, hstays.2 r⟩
    · rintro r rfl
      exact stopLookedUp_contained h hid hr.of_pure
  | stopBegin request b =>
    cases he
    obtain ⟨hat, -, hsame⟩ := hctl
    have hsame : request.recordingId = s.impl.recordingId := hsame
    have hpaths := paths_of_workerAt hat
    rw [← hsame] at hpaths
    refine contained_begin hpaths hcall.2 ?_ ?_ ?_
    · intro u b' hu _ hb'
      refine contained_same h (hu.hold _) ?_
      rintro _ ⟨⟩
      exact ⟨hcall.1, hb'⟩
    · intro u hu _
      exact contained_same h (hu.release _) fun _ hc => by cases hc
    · intro u e hu _
      exact contained_same h (hu.release _) fun _ hc => by cases hc
  | shutdownEntered =>
    cases he
    unfold System.shutdownEntered
    split
    · rename_i hstate
      have hsettled : s.core.Settled := hctl
      obtain ⟨-, hat⟩ := hsettled.recording hstate
      exact contained_hold h ⟨closing_call h hat, trivial⟩
    · split
      · exact contained_same h ⟨rfl, rfl, rfl, rfl, rfl, rfl, rfl⟩ fun _ hc => by cases hc
      · exact contained_release h _
  | shutdownBegin b =>
    cases he
    obtain ⟨hat, -⟩ := hctl
    refine contained_begin (paths_of_workerAt hat) hcall.2 ?_ ?_ ?_
    · intro u b' hu _ hb'
      refine contained_same h (hu.hold _) ?_
      rintro _ ⟨⟩
      show isRecordingIdValid u.impl.recordingId = true ∧ b'.Stays u.impl.recordingId
      rw [hu.recordingId]
      exact ⟨hcall.1, hb'⟩
    · intro u hu _
      exact contained_same h ⟨hu.recordingId, hu.paths, hu.start, hu.writer, hu.sidecar, hu.worker,
        hu.inSession⟩ fun _ hc => by cases hc
    · intro u e hu _
      refine contained_same h (hu.hold _) ?_
      rintro _ ⟨⟩
      trivial
  | shutdownCatch =>
    cases he
    exact contained_same h ⟨rfl, rfl, rfl, rfl, rfl, rfl, rfl⟩ fun _ hc => by cases hc
  | destroying p =>
    cases he
    refine contained_advance h ?_ (fun _ _ => exitProcess_contained) fun _ => exitProcess_contained
    rintro o k rfl r
    have hkept : Only Kept (.op o k) := hcall
    exact hkept.2 r

end Calls

section Workers
variable {setup : Setup} {s t u : System} {c : Choice} {w : Worker} {pc : WorkerPc}

/-- The calls that go on beside a worker do not depend on its writers. -/
theorem contained_beside {impl : Impl} {call : Call} (hk : s.core.Control)
    (hw : s.worker = some w) (hh : s.holder = some call)
    (hid : impl.recordingId = s.impl.recordingId) (h : call.Contained s.impl) :
    call.Contained impl := by
  have hctl := hk.call hh
  cases call with
  | startReleaseWriter | startSidecar | startReleaseSidecar | startPublish | startSpawn =>
    cases hw.symm.trans hctl.1.1
  | shutdownBegin b =>
    show isRecordingIdValid impl.recordingId = true ∧ b.Stays impl.recordingId
    rw [hid]
    exact h
  | _ => exact h

theorem contained_moved (hk : s.core.Control) (h : s.Contained) (hw : s.worker = some w)
    (hmoved : t.worker = some { w with pc := pc }) (hh : t.holder = s.holder)
    (hid : t.impl.recordingId = s.impl.recordingId)
    (hpaths : t.impl.artifactPaths = s.impl.artifactPaths)
    (hin : t.history.inSession = s.history.inSession) (houtputs : t.impl.OutputsOf w.recordingId)
    (hpc : pc.Contained s.history.inSession w.recordingId) : t.Contained where
  paths y hy := h.paths y (hpaths ▸ hy)
  writer v hv := ⟨_, (h.worker w hw).valid, houtputs.video v hv⟩
  sidecar v hv := ⟨_, (h.worker w hw).valid, houtputs.lines v hv⟩
  call call hc := contained_beside hk hw (hh ▸ hc) hid (h.call call (hh ▸ hc))
  worker v hv := by
    cases hmoved.symm.trans hv
    exact ⟨(h.worker w hw).valid, fun _ => houtputs, hin ▸ hpc⟩

/-- A plain move of the worker. -/
theorem contained_moveWorker (hk : s.core.Control) (h : s.Contained) (hw : s.worker = some w)
    (hlive : w.pc.isLive = true) (hpc : pc.Contained s.history.inSession w.recordingId) :
    (s.moveWorker pc).Contained :=
  contained_moved hk h hw (moveWorker_worker hw pc) rfl rfl rfl rfl ((h.worker w hw).outputs hlive)
    hpc

theorem contained_deadline (hk : s.core.Control) (h : s.Contained) (hw : s.worker = some w)
    (hlive : w.pc.isLive = true) (hpc : pc.Contained s.history.inSession w.recordingId) :
    (s.requireDeadline pc).Contained := by
  unfold System.requireDeadline
  split
  · exact contained_moveWorker hk h hw hlive trivial
  · exact contained_moveWorker hk h hw hlive hpc

/-- One step of a program of the worker. -/
theorem contained_program {α : Type} {p : StoreProg α} {point : StoreProg α → WorkerPc}
    {onReturn : α → System} (hk : s.core.Control) (h : s.Contained) (hw : s.worker = some w)
    (hlive : w.pc.isLive = true)
    (hop : ∀ o k, p = .op o k → ∀ r, (point (k r)).Contained s.history.inSession w.recordingId)
    (hret : ∀ a, p = .pure a → (onReturn a).Contained) :
    (s.advanceWorker c point onReturn (fun _ => s.moveWorker .fault) p).Contained := by
  cases p with
  | pure a => exact hret a rfl
  | throw e => exact contained_moveWorker hk h hw hlive trivial
  | op o k =>
    exact contained_moved hk h hw (moveWorker_worker (s := { s with machine := (exec o c s.machine).2 })
      hw _) rfl rfl rfl rfl ((h.worker w hw).outputs hlive) (hop o k rfl _)

theorem contained_dispatch (hk : s.core.Control) (h : s.Contained) (hw : s.worker = some w)
    (hlive : w.pc.isLive = true) : s.dispatch.Contained := by
  have hout := (h.worker w hw).outputs hlive
  unfold System.dispatch
  split
  · exact contained_moveWorker hk h hw hlive trivial
  · split
    · exact contained_moved hk h hw (moveWorker_worker (s := { s with impl := { s.impl with
        queue := s.impl.queue.pop } }) hw _) rfl rfl rfl rfl ⟨hout.video, hout.lines⟩ trivial
    · exact contained_moveWorker hk h hw hlive trivial

/-- The session paths of a live worker name a valid id, in a session its own. -/
theorem placed_paths {id : ByteString} (hk : s.core.Control) (hs : s.Storage setup)
    (h : s.Contained) (hw : s.worker = some ⟨id, pc⟩) (hlive : pc.isLive = true) :
    ∃ y, isRecordingIdValid y = true ∧ s.impl.artifactPaths = artifactPaths y ∧
      (s.history.inSession = true → y = id) := by
  cases hin : s.history.inSession with
  | true =>
    have hpaths : s.impl.artifactPaths = artifactPaths id := (session_of_live hk hw hlive hin).2.1
    exact ⟨id, h.paths id hpaths, hpaths, fun _ => rfl⟩
  | false =>
    obtain ⟨y, hpaths, -⟩ := hs.displaced _ hw hlive hin
    exact ⟨y, h.paths y hpaths, hpaths, fun hfalse => by cases hfalse⟩

theorem contained_loopStep {id : ByteString} {k : LoopPc} (hk : s.core.Control) (h : s.Contained)
    (hw : s.worker = some ⟨id, .loop k⟩) (he : s.loopStep setup c k = some t) : t.Contained := by
  have hout := (h.worker _ hw).outputs rfl
  have hpc := (h.worker _ hw).program
  have hafter : s.afterWait.Contained := by
    unfold System.afterWait
    split
    · exact contained_moveWorker hk h hw rfl trivial
    · exact contained_dispatch hk h hw rfl
  cases k with
  | acquire =>
    simp only [System.loopStep] at he
    split at he
    · cases he
    · split at he <;> cases he
      · exact contained_moveWorker hk h hw rfl trivial
      · exact hafter
  | waiting =>
    simp only [System.loopStep] at he
    split at he
    · cases he
    · split at he <;> cases he
      · exact hafter
      · exact h
  | begin b =>
    cases he
    obtain ⟨hsession, -⟩ : s.core.Session _ ∧ b.Flags s.core := by
      refine hk.worker ?_ hw rfl
      by_contra hne
      obtain ⟨call, hh⟩ := Option.ne_none_iff_exists'.mp hne
      cases hk.released hh _ hw
    have hmoves : ∀ (u : System) (pc : WorkerPc), SameRecording s u → u.holder = s.holder →
        pc.Contained s.history.inSession id → (u.moveWorker pc).Contained := by
      intro u pc hu hh hpc'
      refine contained_moved hk h hw (moveWorker_worker (hu.worker.trans hw) pc) hh hu.recordingId
        hu.paths hu.inSession ⟨fun v hv => ?_, fun v hv => ?_⟩ hpc'
      · exact hout.video v (hu.writer ▸ hv)
      · exact hout.lines v (hu.sidecar ▸ hv)
    exact contained_begin hsession.2.1 hpc (fun u b' hu hh hb => hmoves u _ hu hh hb)
      (fun u hu hh => hmoves u _ hu hh trivial) fun u e hu hh => hmoves u _ hu hh trivial
  | dispatch =>
    cases he
    exact contained_dispatch hk h hw rfl
  | frameDeadline frame =>
    simp only [System.loopStep] at he
    split at he <;> cases he
    exact contained_deadline hk h hw rfl trivial
  | checkFrame frame =>
    simp only [System.loopStep] at he
    split at he <;> cases he
    · rename_i color v hview hwriter
      have hpath := hout.video v hwriter
      refine contained_moveWorker hk h hw rfl ((stays_returns
        (ColorVideoWriter.stays_writeFrame (.inl hpath) color)
        (ColorVideoWriter.writeFrame_uses v color)).mono (fun _ h => h) ?_ fun _ h => h)
      rintro _ rfl
      exact hpath
    · exact contained_moveWorker hk h hw rfl trivial
  | writeFrame frame p =>
    cases he
    refine contained_program hk h hw rfl ?_ ?_
    · rintro o k rfl r
      exact hpc.2 r
    · rintro r rfl
      have hpath : r.2.config.outputPath = videoPath id := hpc
      have houtputs : ({ s.impl with writer := some r.2 } : Impl).OutputsOf id := by
        refine ⟨?_, hout.lines⟩
        rintro _ ⟨⟩
        exact hpath
      split
      · rename_i v hsidecar
        have hlines := hout.lines v hsidecar
        refine contained_moved hk h hw (moveWorker_worker (s := { s with impl := { s.impl with
          writer := some r.2 } }) hw _) rfl rfl rfl rfl houtputs ((stays_returns
          (RecordingSidecarWriter.stays_append (.inr hlines) _)
          (RecordingSidecarWriter.append_uses v _)).mono (fun _ h => h) ?_ fun _ h => h)
        rintro _ hsame
        exact hsame.trans hlines
      · exact contained_moved hk h hw (moveWorker_worker (s := { s with impl := { s.impl with
          writer := some r.2 } }) hw _) rfl rfl rfl rfl houtputs trivial
  | appendFrame frame p =>
    cases he
    refine contained_program hk h hw rfl ?_ ?_
    · rintro o k rfl r
      exact hpc.2 r
    · rintro v rfl
      refine contained_moved hk h hw (moveWorker_worker (s := { s with impl := { s.impl with
        sidecar := some v } }) hw _) rfl rfl rfl rfl ⟨hout.video, ?_⟩ trivial
      rintro _ ⟨⟩
      exact hpc
  | countFrame frame =>
    simp only [System.loopStep] at he
    split at he <;> cases he
    exact contained_moved hk h hw (moveWorker_worker (s := s.countFrame frame) hw _) rfl rfl rfl rfl
      ⟨hout.video, hout.lines⟩ trivial

theorem contained_closingStep {id : ByteString} {k : ClosingPc} (hk : s.core.Control)
    (hs : s.Storage setup) (h : s.Contained) (hw : s.worker = some ⟨id, .closing k⟩)
    (he : s.closingStep setup c k = some t) : t.Contained := by
  have hout := (h.worker _ hw).outputs rfl
  have hpc := (h.worker _ hw).program
  obtain ⟨y, hy, hpaths, hplace⟩ := placed_paths hk hs h hw rfl
  have hplaced : ∀ {α : Type} {p : StoreProg α} {o : FsOp} {k : o.Res → StoreProg α} {r : o.Res},
      Placed s.history.inSession id p → p = .op o k → Placed s.history.inSession id (k r) := by
    rintro α _ o k r ⟨y, hy, hstays, hsame⟩ rfl
    exact ⟨y, hy, hstays.2 r, hsame⟩
  cases k with
  | deadline1 =>
    change (if s.holder.isSome = true then none else _) = some t at he
    split at he
    · cases he
    · split at he <;> cases he
      · rename_i v hwriter
        have hpath := hout.video v hwriter
        refine contained_deadline hk h hw rfl ((stays_returns
          (ColorVideoWriter.stays_finalize (.inl hpath))
          (ColorVideoWriter.finalize_uses v)).mono (fun _ h => h) ?_ fun _ h => h)
        rintro _ rfl
        exact hpath
      · exact contained_moveWorker hk h hw rfl trivial
  | writer p =>
    cases he
    refine contained_program hk h hw rfl ?_ ?_
    · rintro o k rfl r
      exact hpc.2 r
    · rintro v rfl
      refine contained_moved hk h hw (moveWorker_worker (s := { s with impl := { s.impl with
        writer := some v } }) hw _) rfl rfl rfl rfl ⟨?_, hout.lines⟩ trivial
      rintro _ ⟨⟩
      exact hpc
  | deadline2 =>
    change (if s.holder.isSome = true then none else _) = some t at he
    split at he
    · cases he
    · split at he <;> cases he
      · rename_i v hsidecar
        have hpath := hout.lines v hsidecar
        refine contained_deadline hk h hw rfl ((stays_returns
          (RecordingSidecarWriter.stays_finalize (.inr hpath))
          (RecordingSidecarWriter.finalize_uses v)).mono (fun _ h => h) ?_ fun _ h => h)
        rintro _ hsame
        exact hsame.trans hpath
      · exact contained_moveWorker hk h hw rfl trivial
  | sidecar p =>
    cases he
    refine contained_program hk h hw rfl ?_ ?_
    · rintro o k rfl r
      exact hpc.2 r
    · rintro v rfl
      refine contained_moved hk h hw (moveWorker_worker (s := { s with impl := { s.impl with
        sidecar := some v } }) hw _) rfl rfl rfl rfl ⟨hout.video, ?_⟩ trivial
      rintro _ ⟨⟩
      exact hpc
  | deadline3 | deadline4 =>
    change (if s.holder.isSome = true then none else _) = some t at he
    split at he <;> cases he
    exact contained_deadline hk h hw rfl trivial
  | readDeadline =>
    change (if s.holder.isSome = true then none else _) = some t at he
    split at he <;> cases he
    refine contained_moveWorker hk h hw rfl ⟨y, hy, ?_, hplace⟩
    rw [hpaths]
    exact stays_calculateDigest _ _ _ _
  | digestVideo deadline p =>
    cases he
    refine contained_program hk h hw rfl (fun o k hp r => hplaced hpc hp) fun video _ => ?_
    refine contained_moveWorker hk h hw rfl ⟨y, hy, ?_, hplace⟩
    rw [hpaths]
    exact stays_calculateDigest _ _ _ _
  | digestSidecar video p =>
    cases he
    exact contained_program hk h hw rfl (fun o k hp r => hplaced hpc hp) fun lines _ =>
      contained_moveWorker hk h hw rfl trivial
  | snapshot video lines =>
    change (if s.holder.isSome = true then none else _) = some t at he
    split at he <;> cases he
    exact contained_moved hk h hw (moveWorker_worker hw _) rfl rfl rfl rfl ⟨hout.video, hout.lines⟩
      trivial
  | writeManifest manifest video lines =>
    rw [closingStep_writeManifest] at he
    split at he <;> cases he
    · refine contained_moveWorker hk h hw rfl ⟨y, hy, ?_, hplace⟩
      rw [hpaths]
      exact stays_writeFinalizedManifest _
    · exact contained_moveWorker hk h hw rfl trivial
  | manifest p =>
    cases he
    exact contained_program hk h hw rfl (fun o k hp r => hplaced hpc hp) fun _ _ =>
      contained_moveWorker hk h hw rfl trivial
  | deadline5 =>
    change (if s.holder.isSome = true then none else _) = some t at he
    split at he <;> cases he
    refine contained_deadline hk h hw rfl ⟨y, hy, ?_, hplace⟩
    rw [hpaths]
    exact stays_activateFinalized
  | activate p =>
    cases he
    exact contained_program hk h hw rfl (fun o k hp r => hplaced hpc hp) fun _ _ =>
      contained_moveWorker hk h hw rfl trivial
  | publish =>
    change (if s.holder.isSome = true then none else _) = some t at he
    split at he <;> cases he
    exact contained_moved hk h hw (moveWorker_worker (s := s.setState .finalized) hw _) rfl rfl rfl
      rfl ⟨hout.video, hout.lines⟩ trivial

theorem contained_workerStep (hk : s.core.Control) (hs : s.Storage setup) (h : s.Contained)
    (hw : s.worker = some w) (he : s.workerStep setup c w.pc = some t) : t.Contained := by
  obtain ⟨id, pc⟩ := w
  cases pc with
  | loop k => exact contained_loopStep hk h hw he
  | closing k => exact contained_closingStep hk hs h hw he
  | fault =>
    have hout := (h.worker _ hw).outputs rfl
    simp only [System.workerStep] at he
    split at he <;> cases he
    exact contained_moved hk h hw (moveWorker_worker hw _) rfl rfl rfl rfl ⟨hout.video, hout.lines⟩
      trivial
  | finished => cases he

end Workers

section Step
variable {setup : Setup} {s t : System}

theorem contained_enter {call : ApiCall} (h : s.Contained) (he : s.enter call = some t) :
    t.Contained := by
  cases call with
  | start request =>
    simp only [System.enter] at he
    split at he <;> cases he
    refine contained_same h ⟨rfl, rfl, rfl, rfl, rfl, rfl, rfl⟩ ?_
    rintro _ ⟨⟩
    trivial
  | stop request =>
    simp only [System.enter] at he
    split at he
    · cases he
      exact contained_aside h ⟨rfl, rfl, rfl, rfl, rfl, rfl, rfl⟩ rfl
    · split at he <;> cases he
      exact contained_hold h trivial
  | shutdown =>
    simp only [System.enter] at he
    split at he <;> cases he
    exact contained_hold h trivial
  | destroy =>
    simp only [System.enter] at he
    split at he <;> cases he
    exact contained_hold h (only_bind (releaseSidecar_kept h) fun _ => releaseWriter_kept h)

theorem contained_step {e : Event} (hk : s.core.Control) (hs : s.Storage setup) (h : s.Contained)
    (he : s.step setup e = some t) : t.Contained := by
  cases e with
  | tick | setUnix =>
    cases he
    exact contained_aside h ⟨rfl, rfl, rfl, rfl, rfl, rfl, rfl⟩ rfl
  | call api => exact contained_enter h he
  | callStep c =>
    obtain ⟨call, hh, he⟩ := Option.bind_eq_some_iff.mp he
    exact contained_callStep hk hs h hh he
  | workerStep c =>
    obtain ⟨w, hw, he⟩ := Option.bind_eq_some_iff.mp he
    exact contained_workerStep hk hs h hw he
  | join =>
    simp only [System.step] at he
    split at he <;> cases he
    exact ⟨h.paths, h.writer, h.sidecar, h.call, fun w hw => by cases hw⟩
  | submit frame =>
    simp only [System.step] at he
    split at he <;> cases he
    unfold System.submit
    split
    · exact contained_aside h ⟨rfl, rfl, rfl, rfl, rfl, rfl, rfl⟩ rfl
    · split
      · exact contained_aside h ⟨rfl, rfl, rfl, rfl, rfl, rfl, rfl⟩ rfl
      · exact contained_aside h ⟨rfl, rfl, rfl, rfl, rfl, rfl, rfl⟩ rfl
  | submitContended frame =>
    simp only [System.step] at he
    split at he <;> cases he
    exact contained_aside h ⟨rfl, rfl, rfl, rfl, rfl, rfl, rfl⟩ rfl
  | captureStep =>
    obtain ⟨call, -, rfl⟩ := Option.map_eq_some_iff.mp he
    unfold System.captureStep
    split
    · exact contained_aside h ⟨rfl, rfl, rfl, rfl, rfl, rfl, rfl⟩ rfl
    · split
      · exact contained_aside h ⟨rfl, rfl, rfl, rfl, rfl, rfl, rfl⟩ rfl
      · exact contained_aside h ⟨rfl, rfl, rfl, rfl, rfl, rfl, rfl⟩ rfl
  | crash =>
    cases he
    exact exitProcess_contained

theorem contained_reachable {ok : System → Event → System → Prop}
    (h : Reach (IsInitial setup) (System.step setup) ok s) : s.Contained := by
  refine h.invariant _ ?_ fun s e t hs hi he _ =>
    contained_step (control_reachable hs) (storage_reachable hs) hi he
  rintro s ⟨machine, -, rfl⟩
  exact contained_alone rfl (fun id hid => by cases hid) (fun v hv => by cases hv)
    (fun v hv => by cases hv) fun call hc => by cases hc

end Step

end NodusVision.Manager
