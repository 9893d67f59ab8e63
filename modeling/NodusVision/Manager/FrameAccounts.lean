import NodusVision.Manager.Histories
import NodusVision.Manager.Ring
import NodusVision.Recording.FrameLog

/-! Where every admitted frame is: counted, with the worker, or in the queue; and what the two
writers, the disk and the manifest say of the counted ones. -/
namespace NodusVision.Manager
open Text Storage Disk Program Recording RecordingStore Transition

def identities (frames : List CapturedFrame) : List FrameIdentity :=
  frames.map CapturedFrame.identity

theorem length_identities (frames : List CapturedFrame) :
    (identities frames).length = frames.length := List.length_map _

theorem identities_snoc (frames : List CapturedFrame) (frame : CapturedFrame) :
    identities (frames ++ [frame]) = identities frames ++ [frame.identity] := List.map_append

/-- What the lines of a recording repeat. -/
def Setup.header (setup : Setup) (recordingId : ByteString) : LogHeader where
  recordingId := recordingId
  sensorFrame := setup.config.sensorFrame
  calibrationId := setup.config.calibrationId

/-- Names that stop evidence uses. -/
def evidencePaths : Set ManagedPath := {p | ∃ id, p ∈ writtenPaths id .stopRequest}

theorem sidecar_not_evidence (id : ByteString) : sidecarPath id ∉ evidencePaths := by
  rintro ⟨i, he | he⟩ <;> cases he

theorem final_not_evidence (id : ByteString) :
    ManagedPath.artifact .finalized id ∉ evidencePaths := by
  rintro ⟨i, he | he⟩ <;> cases he

/-- The admitted frames in order: the counted ones, the one that the worker holds, the queue. The
counters, the identity span and the order agree with the counted ones. -/
structure Tally (s : System) (counted held : List CapturedFrame) : Prop where
  frames : counted ++ held ++ s.impl.queue.frames = s.history.admitted
  admitted : s.impl.counters.admitted = s.history.admitted.length
  submitted : s.impl.counters.submitted = counted.length
  first : (identities counted).head? =
    if s.impl.span.hasIdentity then some s.impl.span.first else none
  last : (identities counted).getLast? =
    if s.impl.span.hasIdentity then some s.impl.span.last else none
  ordered : Ordered (identities counted)

/-- Every admitted frame is counted. -/
def Drained (s : System) : Prop := Tally s s.history.admitted []

theorem Drained.empty {s : System} (h : Drained s) : s.impl.queue.frames = [] := by
  have hframes := h.frames
  rw [List.append_nil] at hframes
  exact List.append_right_eq_self.mp hframes

/-- The video writer has taken this many frames. -/
def System.Encoded (s : System) (n : ℕ) : Prop :=
  ∃ w, s.impl.writer = some w ∧ w.submittedFrameCount = n

/-- The sidecar has taken these frames. -/
def System.Logged (setup : Setup) (s : System) (id : ByteString) (frames : List CapturedFrame) :
    Prop :=
  ∃ w, s.impl.sidecar = some w ∧
    Listing (setup.header id) (identities frames) w s.machine.disk

/-- The frame that the worker has dequeued and not counted. -/
def LoopPc.held : LoopPc → List CapturedFrame
  | .frameDeadline frame | .checkFrame frame | .writeFrame frame _ | .appendFrame frame _
  | .countFrame frame => [frame]
  | _ => []

/-- What the writers have taken at each point of the loop. -/
def LoopPc.Records (setup : Setup) (s : System) (id : ByteString)
    (counted : List CapturedFrame) : LoopPc → Prop
  | .writeFrame frame p => Ordered (identities (counted ++ [frame])) ∧
      s.Logged setup id counted ∧ p.Uses (fun _ => True)
        (fun r => r.1 = counted.length ∧ r.2.submittedFrameCount = counted.length + 1)
        fun _ => True
  | .appendFrame frame p => Ordered (identities (counted ++ [frame])) ∧
      s.Encoded (counted.length + 1) ∧
      Runs evidencePaths (Changes {sidecarPath id}) p
        (Listing (setup.header id) (identities (counted ++ [frame]))) s.machine
  | .countFrame frame => Ordered (identities (counted ++ [frame])) ∧
      s.Encoded (counted.length + 1) ∧ s.Logged setup id (counted ++ [frame])
  | _ => s.Encoded counted.length ∧ s.Logged setup id counted

/-- What is known of the artifact of the admitted frames while it is closed. -/
def ClosingPc.Records (setup : Setup) (s : System) (id : ByteString)
    (frames : List CapturedFrame) : ClosingPc → Prop
  | .deadline1 | .deadline2 => s.Encoded frames.length ∧ s.Logged setup id frames
  | .writer p => s.Logged setup id frames ∧
      p.Uses (fun _ => True) (fun w => w.submittedFrameCount = frames.length) fun _ => True
  | .sidecar p => s.Encoded frames.length ∧
      Runs ∅ (Changes {sidecarPath id}) p
        (fun _ => Listed (setup.header id) (identities frames)) s.machine
  | .deadline3 | .readDeadline => s.Encoded frames.length ∧
      Listed (setup.header id) (identities frames) s.machine.disk
  | .digestVideo _ p => s.Encoded frames.length ∧
      Runs ∅ Unchanged p (fun video d => Describes setup.sha256 .staging id .video video d ∧
        Listed (setup.header id) (identities frames) d) s.machine
  | .digestSidecar video p => s.Encoded frames.length ∧
      Runs ∅ Unchanged p (fun lines d => Describes setup.sha256 .staging id .sidecar lines d ∧
        Describes setup.sha256 .staging id .video video d ∧
        Listed (setup.header id) (identities frames) d) s.machine
  | .deadline4 video lines | .snapshot video lines => s.Encoded frames.length ∧
      Describes setup.sha256 .staging id .sidecar lines s.machine.disk ∧
      Describes setup.sha256 .staging id .video video s.machine.disk ∧
      Listed (setup.header id) (identities frames) s.machine.disk
  | .writeManifest report video lines => s.Encoded frames.length ∧
      (report.recordingId = id ∧ Reports report (identities frames)) ∧
      Describes setup.sha256 .staging id .sidecar lines s.machine.disk ∧
      Describes setup.sha256 .staging id .video video s.machine.disk ∧
      Listed (setup.header id) (identities frames) s.machine.disk
  | .manifest _ | .deadline5 | .activate _ | .publish => s.Encoded frames.length

def WorkerPc.Records (setup : Setup) (s : System) (id : ByteString) : WorkerPc → Prop
  | .loop k => ∃ counted, Tally s counted k.held ∧ k.Records setup s id counted
  | .closing k => Drained s ∧ k.Records setup s id s.history.admitted
  | _ => True

/-- From its manifest on the artifact is complete, whatever session the recorder shows. -/
def WorkerPc.Seals (setup : Setup) (m : Machine) (id : ByteString)
    (frames : List FrameIdentity) : WorkerPc → Prop
  | .closing (.manifest p) => Runs ∅ (Changes (writtenPaths id .manifest)) p
      (fun _ => Complete setup.sha256 .staging (setup.header id) frames) m
  | .closing .deadline5 => Complete setup.sha256 .staging (setup.header id) frames m.disk
  | .closing (.activate _) | .closing .publish =>
      ∃ k, Complete setup.sha256 k (setup.header id) frames m.disk
  | _ => True

/-- The artifact that a sidecar writer writes to is there. -/
def OnDisk (d : Disk) (w : RecordingSidecarWriter) : Prop :=
  ∃ id, w.outputPath = sidecarPath id ∧ ∃ m, d (.artifact m id) ≠ none

/-- The sidecar writer that the worker will put back. -/
def WorkerPc.Pending (d : Disk) : WorkerPc → Prop
  | .loop (.appendFrame _ p) | .closing (.sidecar p) =>
      p.Uses (fun _ => True) (OnDisk d) fun _ => True
  | _ => True

/-- The old sidecar is that of another recording. -/
def System.Apart (s : System) (id : ByteString) : Prop :=
  ∀ w, s.impl.sidecar = some w → w.outputPath ≠ sidecarPath id

/-- What a start has made of the writers of its recording. -/
def Call.Records (setup : Setup) (s : System) : Call → Prop
  | .startPreparing request _ _ | .startWriter request _ _ => s.Apart request.recordingId
  | .startReleaseWriter request _ _ => s.Apart request.recordingId ∧ s.Encoded 0
  | .startSidecar request _ p => s.Apart request.recordingId ∧ s.Encoded 0 ∧
      Runs ∅ (Changes {sidecarPath request.recordingId}) p
        (Listing (setup.header request.recordingId) []) s.machine
  | .startReleaseSidecar request _ p => s.Encoded 0 ∧ s.Logged setup request.recordingId [] ∧
      p.Uses (fun o => ∃ id q, IsOutput id q ∧ q ≠ sidecarPath request.recordingId ∧ WritesTo q o)
        (fun _ => True) fun _ => True
  | .startPublish request _ => s.Encoded 0 ∧ s.Logged setup request.recordingId []
  | .startSpawn request => s.Encoded 0 ∧ s.Logged setup request.recordingId [] ∧ Tally s [] []
  | _ => True

/-- The artifact that the recorder reports as finalized. -/
structure Delivered (setup : Setup) (s : System) : Prop where
  drained : Drained s
  encoded : s.Encoded s.history.admitted.length
  complete : Complete setup.sha256 .finalized (setup.header s.impl.recordingId)
    (identities s.history.admitted) s.machine.disk

/-- The invariant of the frames. -/
structure System.Frames (setup : Setup) (s : System) : Prop where
  ring : s.impl.queue.WellFormed setup.config.queueCapacityFrames
  sidecar : ∀ w, s.impl.sidecar = some w → OnDisk s.machine.disk w
  pending : ∀ w, s.worker = some w → w.pc.Pending s.machine.disk
  working : ∀ w, s.worker = some w → w.pc.isLive = true → s.history.inSession = true →
    s.impl.state ≠ .finalized
  call : ∀ call, s.holder = some call → call.Records setup s
  worker : ∀ w, s.worker = some w → s.history.inSession = true →
    w.pc.Records setup s w.recordingId
  seals : ∀ w, s.worker = some w → ∃ frames,
    (s.history.inSession = true → frames = identities s.history.admitted) ∧
      w.pc.Seals setup s.machine w.recordingId frames
  idle : s.history.inSession = true → s.history.workerFaulted = false →
    s.workerLive = false → Drained s
  delivered : s.history.inSession = true → s.impl.state = .finalized → Delivered setup s
  stored : ∀ id, Finalized s.machine.disk id → ∃ frames,
    Complete setup.sha256 .finalized (setup.header id) frames s.machine.disk

section Rules
variable {setup : Setup} {s t : System}

/-- What the tally speaks of. -/
structure KeepsTally (s t : System) : Prop where
  queue : t.impl.queue = s.impl.queue
  frames : t.history.admitted = s.history.admitted
  admitted : t.impl.counters.admitted = s.impl.counters.admitted
  submitted : t.impl.counters.submitted = s.impl.counters.submitted
  span : t.impl.span = s.impl.span

theorem KeepsTally.refl (s : System) : KeepsTally s s := ⟨rfl, rfl, rfl, rfl, rfl⟩

theorem Tally.keep {counted held : List CapturedFrame} (h : Tally s counted held)
    (hk : KeepsTally s t) : Tally t counted held := by
  obtain ⟨hqueue, hframes, hadmitted, hsubmitted, hspan⟩ := hk
  constructor
  · rw [hqueue, hframes]
    exact h.frames
  · rw [hadmitted, hframes]
    exact h.admitted
  · rw [hsubmitted]
    exact h.submitted
  · rw [hspan]
    exact h.first
  · rw [hspan]
    exact h.last
  · exact h.ordered

theorem Drained.keep (h : Drained s) (hk : KeepsTally s t) : Drained t := by
  unfold Drained
  rw [hk.frames]
  exact Tally.keep h hk

theorem Encoded.keep {n : ℕ} (h : s.Encoded n) (hw : t.impl.writer = s.impl.writer) :
    t.Encoded n := by
  unfold System.Encoded
  rw [hw]
  exact h

theorem Logged.keep {id : ByteString} {frames : List CapturedFrame} {paths : Set ManagedPath}
    (h : s.Logged setup id frames) (hw : t.impl.sidecar = s.impl.sidecar)
    (hd : Changes paths s.machine.disk t.machine.disk) (hp : sidecarPath id ∉ paths) :
    t.Logged setup id frames := by
  obtain ⟨w, hsome, hlisting⟩ := h
  exact ⟨w, hw.trans hsome, stable_listing (h := setup.header id) hp _ _ hd hlisting⟩

/-- What other threads and a restore leave to a worker. -/
structure Beneath (s t : System) : Prop where
  writer : t.impl.writer = s.impl.writer
  sidecar : t.impl.sidecar = s.impl.sidecar
  disk : Changes evidencePaths s.machine.disk t.machine.disk

theorem LoopPc.Records.keep {id : ByteString} {counted : List CapturedFrame} {k : LoopPc}
    (h : k.Records setup s id counted) (hb : Beneath s t) : k.Records setup t id counted := by
  have hlogged : ∀ {frames}, s.Logged setup id frames → t.Logged setup id frames :=
    fun hl => Logged.keep hl hb.sidecar hb.disk (sidecar_not_evidence id)
  cases k with
  | writeFrame frame p => exact ⟨h.1, hlogged h.2.1, h.2.2⟩
  | appendFrame frame p =>
    exact ⟨h.1, Encoded.keep h.2.1 hb.writer, runs_shared hb.disk h.2.2⟩
  | countFrame frame => exact ⟨h.1, Encoded.keep h.2.1 hb.writer, hlogged h.2.2⟩
  | _ => exact ⟨Encoded.keep h.1 hb.writer, hlogged h.2⟩

theorem ClosingPc.Records.keep {id : ByteString} {frames : List CapturedFrame} {k : ClosingPc}
    (h : k.Records setup s id frames) (hb : Beneath s t)
    (hd : t.machine.disk = s.machine.disk) : k.Records setup t id frames := by
  have hencoded : ∀ {n}, s.Encoded n → t.Encoded n := fun he => Encoded.keep he hb.writer
  have hlogged : ∀ {frames}, s.Logged setup id frames → t.Logged setup id frames :=
    fun hl => Logged.keep hl hb.sidecar hb.disk (sidecar_not_evidence id)
  cases k with
  | deadline1 | deadline2 => exact ⟨hencoded h.1, hlogged h.2⟩
  | writer p => exact ⟨hlogged h.1, h.2⟩
  | sidecar p | digestVideo deadline p | digestSidecar video p =>
    exact ⟨hencoded h.1, runs_quiet hd h.2⟩
  | deadline3 | readDeadline | deadline4 | snapshot | writeManifest =>
    refine ⟨hencoded h.1, ?_⟩
    rw [hd]
    exact h.2
  | manifest | deadline5 | activate | publish => exact hencoded h

theorem WorkerPc.Seals.quiet {m m' : Machine} {id : ByteString} {frames : List FrameIdentity}
    {pc : WorkerPc} (h : pc.Seals setup m id frames) (hd : m'.disk = m.disk) :
    pc.Seals setup m' id frames := by
  cases pc with
  | loop k | fault | finished => trivial
  | closing k =>
    cases k with
    | manifest p => exact runs_quiet hd h
    | deadline5 | activate p | publish =>
      simp only [WorkerPc.Seals, hd] at h ⊢
      exact h
    | _ => trivial

/-- Before its manifest nothing is said of the artifact. -/
theorem WorkerPc.Seals.of_inLoop {m : Machine} {id : ByteString} {frames : List FrameIdentity}
    {pc : WorkerPc} (h : pc.inLoop = true) : pc.Seals setup m id frames := by
  cases pc with
  | loop | fault => trivial
  | closing | finished => cases h

theorem OnDisk.lawful {d d' : Disk} {w : RecordingSidecarWriter} (h : OnDisk d w)
    (hw : d.WellFormed) (hl : d.Lawful d') : OnDisk d' w := by
  obtain ⟨id, hpath, hdir⟩ := h
  exact ⟨id, hpath, Lifecycle.exists_artifact_lawful hw hl hdir⟩

theorem WorkerPc.Pending.lawful {d d' : Disk} {pc : WorkerPc} (h : pc.Pending d)
    (hw : d.WellFormed) (hl : d.Lawful d') : pc.Pending d' := by
  cases pc with
  | loop k =>
    cases k with
    | appendFrame frame p =>
      have h : p.Uses (fun _ => True) (OnDisk d) fun _ => True := h
      exact h.mono (fun _ _ => trivial) (fun _ hd => hd.lawful hw hl) fun _ _ => trivial
    | _ => trivial
  | closing k =>
    cases k with
    | sidecar p =>
      have h : p.Uses (fun _ => True) (OnDisk d) fun _ => True := h
      exact h.mono (fun _ _ => trivial) (fun _ hd => hd.lawful hw hl) fun _ _ => trivial
    | _ => trivial
  | fault | finished => trivial

theorem stored_lawful {d d' : Disk} (hw : d.WellFormed) (hl : d.Lawful d') (hf : KeepsFinal d d')
    (h : ∀ id, Finalized d id → ∃ frames,
      Complete setup.sha256 .finalized (setup.header id) frames d) (id : ByteString)
    (hid : Finalized d' id) :
    ∃ frames, Complete setup.sha256 .finalized (setup.header id) frames d' := by
  obtain ⟨frames, hc⟩ := h id ((hf id).symm.trans hid)
  exact ⟨frames, hc.lawful hw hl⟩

end Rules

end NodusVision.Manager
