import NodusVision.Manager.Draining
import NodusVision.Manager.Equipment

/-! A draining recording that nothing hinders comes to its publication. -/
namespace NodusVision.Manager
open Text Storage Disk Program Recording RecordingStore Transition

/-- The colour view of a frame has the identity of the frame and the profile of the recording. -/
structure FitsProfile (setup : Setup) (frame : CapturedFrame) (color : VideoFrameView) : Prop where
  view : frame.colorFrameView = .ok (some color)
  generation : color.identity.captureGeneration = frame.identity.captureGeneration
  number : color.identity.frameNumber = frame.identity.frameNumber
  format : color.format = .rgb8
  width : color.width = setup.config.width
  height : color.height = setup.config.height
  stride : setup.config.width * 3 ≤ color.strideBytes
  data : color.hasData = true
  owner : color.hasOwner = true

/-- The finalize deadline is ahead, the clocks are not behind the start, and the admitted frames
are good ones, in order. -/
structure Calm (setup : Setup) (s : System) : Prop where
  early : s.machine.steady < s.impl.finalizeDeadline
  monotonic : s.impl.times.startedMonotonicNs ≤ s.machine.steady
  unix : s.impl.times.startedUnixEpochNs ≤ s.machine.unix
  fits : ∀ frame ∈ s.history.admitted, ∃ color, FitsProfile setup frame color
  ordered : Ordered (identities s.history.admitted)

/-- Nothing outside of the recorder goes wrong in this step: the process goes on, and the call that
the worker makes succeeds. -/
structure Unhindered (setup : Setup) (s : System) (e : Event) : Prop extends Calm setup s where
  stays : e ≠ .crash
  succeeds : ∀ c, e = .workerStep c → faultless c

/-- The program returns if its calls succeed before the deadline. -/
def System.Finishes {α : Type} (s : System) (p : StoreProg α) : Prop :=
  p.Safe exec (punctual s.impl.finalizeDeadline) faultless (fun _ _ => True) (fun _ _ => False)
    s.machine

/-- What the rest of the closing needs. -/
def ClosingPc.Sound (s : System) (id : ByteString) : ClosingPc → Prop
  | .writer p => Stocked id s.machine.disk ∧ s.Finishes p
  | .sidecar p => Stocked id s.machine.disk ∧ s.Finishes p
  | .digestVideo deadline p => Stocked id s.machine.disk ∧
      deadline = s.impl.finalizeDeadline ∧ s.Finishes p
  | .digestSidecar _ p => Stocked id s.machine.disk ∧ s.Finishes p
  | .writeManifest report video lines => Stocked id s.machine.disk ∧
      isManifestValid report video lines = true
  | .manifest p => s.machine.disk (.managed .finalized) = some .directory ∧ s.Finishes p
  | .deadline5 => s.machine.disk (.managed .finalized) = some .directory
  | .activate p => s.Finishes p
  | .publish => True
  | _ => Stocked id s.machine.disk

/-- A point from which only the outside can keep the worker from its publication. -/
def WorkerPc.Sound (s : System) (id : ByteString) : WorkerPc → Prop
  | .loop k => ¬(WorkerPc.loop k).program.Throws
  | .closing k => k.Sound s id
  | _ => False

section Checks
variable {setup : Setup} {s t : System} {c : Choice} {id : ByteString}

theorem strictlyAfter_of_follows {previous next : FrameIdentity} (h : Follows previous next) :
    isStrictlyAfter next previous = true := by
  obtain ⟨hgeneration, hnumber⟩ := h
  simp only [isStrictlyAfter, Bool.or_eq_true, Bool.and_eq_true, decide_eq_true_eq, beq_iff_eq,
    gt_iff_lt]
  exact .inr ⟨hgeneration.symm, hnumber⟩

/-- The frames that are counted and the next one are in order with all admitted frames. -/
theorem ordered_next {counted queued : List CapturedFrame} {frame : CapturedFrame}
    (h : Ordered (identities (counted ++ [frame] ++ queued))) :
    Ordered (identities (counted ++ [frame])) := by
  unfold identities at h
  rw [List.map_append] at h
  exact (List.isChain_append.mp h).1

theorem follows_last {counted : List CapturedFrame} {frame : CapturedFrame}
    (h : Ordered (identities (counted ++ [frame]))) :
    ∀ last ∈ (identities counted).getLast?, Follows last frame.identity := by
  rw [identities_snoc] at h
  intro last hlast
  exact (List.isChain_append.mp h).2.2 last hlast _ rfl

/-- A good frame in order passes the checks of the worker. -/
theorem frameView_of_ordered {counted : List CapturedFrame} {frame : CapturedFrame}
    {color : VideoFrameView} (ht : Tally s counted [frame]) (hfits : FitsProfile setup frame color)
    (ho : Ordered (identities s.history.admitted)) : s.frameView frame = some color := by
  rw [← ht.frames] at ho
  have hlast := follows_last (ordered_next ho)
  have hafter : s.impl.span.hasIdentity = true → Follows s.impl.span.last frame.identity := by
    intro hspan
    have hcounted := ht.last
    rw [if_pos hspan] at hcounted
    exact hlast _ hcounted
  unfold System.frameView
  rw [hfits.view]
  show (if _ then none else some color) = some color
  rw [if_neg]
  rintro (hne | hne | ⟨hspan, hnot⟩ | ⟨hspan, hne⟩)
  · exact hne hfits.generation
  · exact hne hfits.number
  · cases (strictlyAfter_of_follows (hafter hspan)).symm.trans hnot
  · exact hne (hafter hspan).1.symm

/-- The video writer of the recording takes a good frame. -/
theorem matchesProfile_of_fits {frame : CapturedFrame} {color : VideoFrameView}
    {w : ColorVideoWriter} {paths : RecordingArtifactPaths} (hfits : FitsProfile setup frame color)
    (hconfig : w.config = writerConfig setup paths) (hopen : w.finalized = false) :
    w.matchesProfile color = true := by
  simp only [ColorVideoWriter.matchesProfile, hopen, hconfig, writerConfig, hfits.format,
    hfits.width, hfits.height, hfits.data, hfits.owner, decide_eq_true hfits.stride,
    beq_self_eq_true, Bool.not_false, Bool.and_self]

/-- The sidecar takes the frame that the video has taken. -/
theorem acceptsEntry_of_ordered {counted : List CapturedFrame} {frame : CapturedFrame}
    {w : RecordingSidecarWriter} {d : Disk}
    (hl : Listing (setup.header id) (identities counted) w d)
    (ho : Ordered (identities (counted ++ [frame]))) :
    w.acceptsEntry ⟨counted.length, counted.length, frame.identity⟩ = true := by
  have hlast := follows_last ho
  simp only [RecordingSidecarWriter.acceptsEntry, hl.writing, Bool.not_false, Bool.true_and,
    Bool.and_eq_true, beq_iff_eq, decide_eq_true_eq, Bool.or_eq_true, Bool.not_eq_true']
  refine ⟨⟨?_, Int.natCast_nonneg _⟩, ?_⟩
  · rw [hl.count, length_identities]
  · cases hhas : w.hasIdentity with
    | false => exact .inl rfl
    | true =>
      have hwritten := hl.last
      rw [if_pos hhas] at hwritten
      exact .inr (strictlyAfter_of_follows (hlast _ hwritten))

theorem manifest_valid {video lines : RecordingArtifactDigest}
    (hid : isRecordingIdValid s.impl.recordingId = true) (hsize : setup.HasSize)
    (hdrained : Drained s)
    (hvideo : Describes setup.sha256 .staging id .video video s.machine.disk)
    (hlines : Describes setup.sha256 .staging id .sidecar lines s.machine.disk)
    (hmonotonic : s.impl.times.startedMonotonicNs ≤ s.machine.steady)
    (hunix : s.impl.times.startedUnixEpochNs ≤ s.machine.unix) :
    isManifestValid (s.manifestSnapshot setup) video lines = true := by
  have hvalid := setup.valid
  simp only [RecordingManagerConfig.isValid, Bool.and_eq_true, bne_iff_ne, Bool.not_eq_true',
    List.isEmpty_eq_false_iff, ne_eq] at hvalid
  obtain ⟨⟨⟨⟨⟨⟨⟨⟨⟨⟨-, hsensor⟩, hcalibration⟩, hcomponent⟩, hdevice⟩, hinstance⟩, -⟩, -⟩, -⟩, -⟩, -⟩ :=
    hvalid
  obtain ⟨v, -, rfl⟩ := hvideo
  obtain ⟨l, -, rfl⟩ := hlines
  simp only [isManifestValid, System.manifestSnapshot, Bool.and_eq_true, Bool.not_eq_true',
    List.isEmpty_eq_false_iff, beq_iff_eq, ne_eq]
  have hcounts : s.impl.counters.submitted ≤ s.impl.counters.admitted := by
    rw [hdrained.submitted, hdrained.admitted]
  exact ⟨⟨⟨⟨⟨⟨⟨⟨⟨⟨⟨⟨⟨hid, hcomponent⟩, hinstance⟩, hdevice⟩, hsensor⟩, hcalibration⟩,
    decide_eq_true hsize.width⟩, decide_eq_true hsize.height⟩, decide_eq_true hsize.fps⟩,
    decide_eq_true hmonotonic⟩, decide_eq_true hunix⟩, decide_eq_true hcounts⟩, rfl⟩, rfl⟩

end Checks

section Points
variable {setup : Setup} {s t u : System} {c : Choice} {w : Worker} {pc : WorkerPc}
  {id : ByteString}

theorem Finishes.keep {α : Type} {p : StoreProg α} (h : s.Finishes p)
    (hd : t.machine.disk = s.machine.disk)
    (hdeadline : t.impl.finalizeDeadline = s.impl.finalizeDeadline)
    (hearly : t.machine.steady < t.impl.finalizeDeadline) : t.Finishes p := by
  unfold System.Finishes
  rw [hdeadline] at hearly ⊢
  exact Prog.Safe.rely h ⟨hd, fun _ => hearly⟩

/-- Other threads leave a sound worker sound while the deadline is ahead. -/
theorem WorkerPc.Sound.keep (h : pc.Sound s id) (hd : t.machine.disk = s.machine.disk)
    (hdeadline : t.impl.finalizeDeadline = s.impl.finalizeDeadline)
    (hearly : t.machine.steady < t.impl.finalizeDeadline) : pc.Sound t id := by
  have hfinishes : ∀ {α : Type} {p : StoreProg α}, s.Finishes p → t.Finishes p :=
    fun hp => Finishes.keep hp hd hdeadline hearly
  have hstocked : Stocked id s.machine.disk → Stocked id t.machine.disk := by
    rw [hd]
    exact fun hs => hs
  cases pc with
  | loop k => exact h
  | closing k =>
    cases k with
    | writer p | sidecar p | digestSidecar video p => exact ⟨hstocked h.1, hfinishes h.2⟩
    | digestVideo deadline p => exact ⟨hstocked h.1, h.2.1.trans hdeadline.symm, hfinishes h.2.2⟩
    | writeManifest manifest video lines => exact ⟨hstocked h.1, h.2⟩
    | manifest p => exact ⟨(congrFun hd _).trans h.1, hfinishes h.2⟩
    | deadline5 => exact (congrFun hd _).trans h
    | activate p => exact hfinishes h
    | publish => trivial
    | _ => exact hstocked h
  | fault | finished => exact h.elim

/-- The step leads the worker to a sound point. -/
def Soundly (id : ByteString) (t : System) : Prop :=
  ∃ pc, t.worker = some ⟨id, pc⟩ ∧ pc.Sound t id

theorem soundly_moved (hw : s.worker = some w) (hu : u.worker = s.worker)
    (hpc : pc.Sound (u.moveWorker pc) w.recordingId) : Soundly w.recordingId (u.moveWorker pc) :=
  ⟨pc, moveWorker_worker (hu.trans hw) pc, hpc⟩

theorem soundly_deadline (hw : s.worker = some w)
    (hearly : s.machine.steady < s.impl.finalizeDeadline) (hpc : pc.Sound s w.recordingId) :
    Soundly w.recordingId (s.requireDeadline pc) := by
  unfold System.requireDeadline
  rw [if_neg fun h => absurd h.2 (not_le.mpr hearly)]
  exact ⟨pc, moveWorker_worker hw pc, hpc.keep rfl rfl hearly⟩

/-- One operation of a program of the closing. -/
theorem soundly_program {α : Type} {p : StoreProg α} {point : StoreProg α → ClosingPc}
    {onReturn : α → System} (hw : s.worker = some w) (hp : s.Finishes p) (hc : faultless c)
    (hnext : ∀ o k, p = .op o k →
      System.Finishes { s with machine := (exec o c s.machine).2 } (k (exec o c s.machine).1) →
      (point (k (exec o c s.machine).1)).Sound
        { s with machine := (exec o c s.machine).2 } w.recordingId)
    (hret : ∀ a, p = .pure a → Soundly w.recordingId (onReturn a)) :
    Soundly w.recordingId (s.advanceWorker c (fun p => .closing (point p)) onReturn
      (fun _ => s.moveWorker .fault) p) := by
  cases p with
  | pure a => exact hret a rfl
  | throw e =>
    have hfalse : False := Prog.Safe.of_throw hp
    exact hfalse.elim
  | op o k =>
    refine ⟨_, moveWorker_worker (s := { s with machine := (exec o c s.machine).2 }) hw _, ?_⟩
    exact hnext o k rfl (Prog.Safe.op_step hp c hc).2

end Points

section Loop
variable {setup : Setup} {s t : System} {c : Choice} {id : ByteString} {k : LoopPc}

theorem not_throws_forget {α : Type} {p : StoreProg α} (h : ¬p.Throws) : ¬p.forget.Throws :=
  fun hthrows => h (Prog.throws_forget hthrows)

theorem soundly_dispatch (hf : s.Frames setup) (hw : s.worker = some ⟨id, .loop k⟩)
    (hstop : s.impl.stopRequested = true) (h : Stocked id s.machine.disk) :
    Soundly id s.dispatch := by
  unfold System.dispatch
  split
  · exact soundly_moved hw rfl h
  · rename_i hstay
    obtain ⟨frame, hfront, -⟩ := hf.ring.pop fun hzero => hstay ⟨hzero, hstop⟩
    rw [hfront]
    exact soundly_moved (u := { s with impl := { s.impl with queue := s.impl.queue.pop } }) hw rfl
      (Prog.not_throws_pure ())

/-- A step of the loop goes on, for frames as they should be. -/
theorem soundly_loop (hf : s.Frames setup) (hd : s.Draining) (hin : s.history.inSession = true)
    (hstop : s.impl.stopRequested = true) (hw : s.worker = some ⟨id, .loop k⟩)
    (h : s.Equips setup id) (hsteady : k.Steady setup id) (hcalm : Calm setup s) (hc : faultless c)
    (hsound : ¬(WorkerPc.loop k).program.Throws) (he : s.loopStep setup c k = some t) :
    Soundly id t := by
  have hopen := hd.worker _ hw
  have hrec := hf.worker _ hw hin
  have hafter : Soundly id s.afterWait := by
    unfold System.afterWait
    rw [if_neg fun hrun => by cases hstop.symm.trans hrun.1]
    exact soundly_dispatch hf hw hstop h.stocked
  cases k with
  | acquire =>
    simp only [System.loopStep] at he
    split at he
    · cases he
    · rw [if_neg fun hrun => by cases hstop.symm.trans hrun.1] at he
      cases he
      exact hafter
  | waiting =>
    simp only [System.loopStep] at he
    split at he
    · cases he
    · rw [if_pos (.inr (.inl hstop))] at he
      cases he
      exact hafter
  | begin b => cases hopen
  | dispatch =>
    cases he
    exact soundly_dispatch hf hw hstop h.stocked
  | frameDeadline frame =>
    simp only [System.loopStep] at he
    split at he <;> cases he
    exact soundly_deadline hw hcalm.early (Prog.not_throws_pure ())
  | checkFrame frame =>
    obtain ⟨counted, htally, -⟩ := hrec
    have hmem : frame ∈ s.history.admitted := by
      rw [← htally.frames]
      exact List.mem_append_left _ (List.mem_append_right _ List.mem_cons_self)
    obtain ⟨color, hfits⟩ := hcalm.fits frame hmem
    obtain ⟨w, hwriter, hconfig, hnot⟩ := h.filming
    simp only [System.loopStep, frameView_of_ordered htally hfits hcalm.ordered, hwriter] at he
    cases he
    exact soundly_moved hw rfl (not_throws_forget (ColorVideoWriter.writeFrame_starts
      (matchesProfile_of_fits hfits hconfig hnot)))
  | writeFrame frame p =>
    cases he
    obtain ⟨counted, -, hordered, ⟨v, hv, hlisting⟩, hreturns⟩ := hrec
    cases p with
    | throw e => exact absurd ⟨e, rfl⟩ hsound
    | op o f =>
      refine ⟨_, moveWorker_worker (s := { s with machine := (exec o c s.machine).2 }) hw _, ?_⟩
      exact not_throws_forget (hsteady.1.1 c s.machine hc)
    | pure r =>
      obtain ⟨hindex, -⟩ : r.1 = counted.length ∧ r.2.submittedFrameCount = counted.length + 1 :=
        hreturns
      simp only [System.advanceWorker, hv, hindex]
      refine soundly_moved (u := { s with impl := { s.impl with writer := some r.2 } }) hw rfl ?_
      exact not_throws_forget (RecordingSidecarWriter.append_starts
        (acceptsEntry_of_ordered hlisting hordered))
  | appendFrame frame p =>
    cases he
    cases p with
    | throw e => exact absurd ⟨e, rfl⟩ hsound
    | op o f =>
      refine ⟨_, moveWorker_worker (s := { s with machine := (exec o c s.machine).2 }) hw _, ?_⟩
      exact not_throws_forget (hsteady.1 c s.machine hc)
    | pure r =>
      exact soundly_moved (u := { s with impl := { s.impl with sidecar := some r } }) hw rfl
        (Prog.not_throws_pure ())
  | countFrame frame =>
    simp only [System.loopStep] at he
    split at he <;> cases he
    exact soundly_moved (u := s.countFrame frame) hw rfl (Prog.not_throws_pure ())

end Loop

section Closing
variable {setup : Setup} {s t : System} {c : Choice} {id : ByteString} {k : ClosingPc}

/-- A program that goes on from every state finishes from this one. -/
theorem finishes_of_robust {α : Type} {p : StoreProg α} (h : p.Robust exec faultless)
    (hstarts : ¬p.Throws) : s.Finishes p := h.safe hstarts (fun _ _ => trivial) s.machine

/-- The files of the artifact can be digested. -/
theorem finishes_digest {f : ArtifactFile} (hw : s.machine.disk.WellFormed)
    (hearly : s.machine.steady < s.impl.finalizeDeadline)
    (h : s.machine.disk (.entry .staging id (.file f)) ≠ none) :
    s.Finishes (calculateRecordingArtifactDigest setup.sha256 (artifactPaths id).stagingDirectory f
      (some s.impl.finalizeDeadline)) := by
  obtain ⟨⟨contents, hcontents⟩, -⟩ := hw.entry_regular .staging id (.file f) h
  exact (digest_succeeds (P := fun d => d (.entry .staging id (.file f)) = some (.regular contents))
    fun _ hd => hd).safe hearly hcontents

/-- The output files are closed and measured, and the manifest is filled in. -/
theorem soundly_finishing (hk : s.core.Control) (hs : s.Storage setup) (hf : s.Frames setup)
    (hsized : s.Sized setup) (hid : isRecordingIdValid s.impl.recordingId = true)
    (hin : s.history.inSession = true) (hw : s.worker = some ⟨id, .closing k⟩)
    (hcalm : Calm setup s) (hc : faultless c) (hsound : k.Sound s id)
    (hopen : WorkerPc.unsealed (.closing k) = true) (he : s.closingStep setup c k = some t) :
    Soundly id t := by
  have hwf := hs.wellFormed
  have hstorage := hs.worker _ hw
  obtain ⟨hdrained, hrec⟩ : Drained s ∧ k.Records setup s id s.history.admitted :=
    hf.worker _ hw hin
  have hpaths := (session_paths hk hw rfl hin).2
  cases k with
  | deadline1 =>
    obtain ⟨⟨v, hv, -⟩, -⟩ := hrec
    change (if s.holder.isSome = true then none else _) = some t at he
    rw [hv] at he
    split at he <;> cases he
    exact soundly_deadline hw hcalm.early
      ⟨hsound, finishes_of_robust v.finalize_robust v.finalize_starts⟩
  | writer p =>
    cases he
    obtain ⟨-, i, huses⟩ := hstorage
    refine soundly_program hw hsound.2 hc ?_ ?_
    · rintro o f rfl hnext
      exact ⟨hsound.1.output ⟨i, _, .inl rfl, huses.1⟩ c, hnext⟩
    · rintro r rfl
      exact soundly_moved (u := { s with impl := { s.impl with writer := some r } }) hw rfl hsound.1
  | deadline2 =>
    obtain ⟨-, v, hv, -⟩ := hrec
    change (if s.holder.isSome = true then none else _) = some t at he
    rw [hv] at he
    split at he <;> cases he
    exact soundly_deadline hw hcalm.early
      ⟨hsound, finishes_of_robust v.finalize_robust v.finalize_starts⟩
  | sidecar p =>
    cases he
    obtain ⟨-, i, huses⟩ := hstorage
    refine soundly_program hw hsound.2 hc ?_ ?_
    · rintro o f rfl hnext
      exact ⟨hsound.1.output ⟨i, _, .inr rfl, huses.1⟩ c, hnext⟩
    · rintro r rfl
      exact soundly_moved (u := { s with impl := { s.impl with sidecar := some r } }) hw rfl
        hsound.1
  | deadline3 | deadline4 =>
    change (if s.holder.isSome = true then none else _) = some t at he
    split at he <;> cases he
    exact soundly_deadline hw hcalm.early hsound
  | readDeadline =>
    change (if s.holder.isSome = true then none else _) = some t at he
    split at he <;> cases he
    refine soundly_moved hw rfl ⟨hsound, rfl, ?_⟩
    rw [hpaths]
    exact finishes_digest hwf hcalm.early hsound.video
  | digestVideo deadline p =>
    cases he
    obtain ⟨hstocked, rfl, hfinishes⟩ := hsound
    refine soundly_program hw hfinishes hc ?_ ?_
    · rintro o f rfl hnext
      have hsame : (exec o c s.machine).2 = s.machine := hstorage.2.1 c s.machine
      rw [hsame] at hnext ⊢
      exact ⟨hstocked, rfl, hnext⟩
    · rintro video rfl
      obtain ⟨-, hlisted⟩ : Describes setup.sha256 .staging id .video video s.machine.disk ∧
        Listed (setup.header id) (identities s.history.admitted) s.machine.disk := hrec.2.of_pure
      have hthere : s.machine.disk (.entry .staging id (.file .sidecar)) ≠ none := by
        rw [show s.machine.disk (.entry .staging id (.file .sidecar)) = _ from hlisted]
        exact Option.some_ne_none _
      refine soundly_moved hw rfl ⟨hstocked, ?_⟩
      rw [hpaths]
      exact finishes_digest hwf hcalm.early hthere
  | digestSidecar video p =>
    cases he
    refine soundly_program hw hsound.2 hc ?_ ?_
    · rintro o f rfl hnext
      have hsame : (exec o c s.machine).2 = s.machine := hstorage.2.1 c s.machine
      rw [hsame] at hnext ⊢
      exact ⟨hsound.1, hnext⟩
    · rintro lines rfl
      exact soundly_moved hw rfl hsound.1
  | snapshot video lines =>
    obtain ⟨-, hlines, hvideo, -⟩ := hrec
    change (if s.holder.isSome = true then none else _) = some t at he
    split at he <;> cases he
    refine ⟨_, moveWorker_worker hw _, hsound, ?_⟩
    exact manifest_valid hid (hsized.session hin) hdrained hvideo hlines hcalm.monotonic hcalm.unix
  | writeManifest manifest video lines =>
    rw [closingStep_writeManifest, serializeFinalizedRecordingManifest, hsound.2] at he
    cases he
    refine soundly_moved hw rfl ⟨hsound.1.managed, ?_⟩
    rw [hpaths]
    exact writeFinalizedManifest_succeeds.safe hcalm.early ⟨hstorage, hsound.1.free⟩
  | manifest | deadline5 | activate | publish => cases hopen

/-- The manifest is written and the artifact is moved. -/
theorem soundly_sealing (hk : s.core.Control) (hs : s.Storage setup)
    (hin : s.history.inSession = true) (hw : s.worker = some ⟨id, .closing k⟩)
    (hcalm : Calm setup s) (hc : faultless c) (hsound : k.Sound s id)
    (hopen : WorkerPc.unsealed (.closing k) = false) (he : s.closingStep setup c k = some t) :
    Soundly id t ∨ k = .publish := by
  have hstorage := hs.worker _ hw
  have hpaths := (session_paths hk hw rfl hin).2
  cases k with
  | manifest p =>
    cases he
    refine .inl (soundly_program hw hsound.2 hc ?_ ?_)
    · rintro o f rfl hnext
      exact ⟨exec_managed c hsound.1, hnext⟩
    · rintro _ rfl
      exact soundly_moved hw rfl hsound.1
  | deadline5 =>
    change (if s.holder.isSome = true then none else _) = some t at he
    split at he <;> cases he
    refine .inl (soundly_deadline hw hcalm.early ?_)
    rw [hpaths]
    exact activateFinalized_succeeds.safe hcalm.early ⟨hs.wellFormed, hstorage, hsound⟩
  | activate p =>
    cases he
    refine .inl (soundly_program hw hsound hc ?_ ?_)
    · rintro o f rfl hnext
      exact hnext
    · rintro _ rfl
      exact soundly_moved hw rfl trivial
  | publish => exact .inr rfl
  | _ => cases hopen

end Closing

section Work
variable {setup : Setup} {s t : System} {c : Choice} {w : Worker}

/-- An unhindered step of a sound worker leads to a sound point or is its publication. -/
theorem soundly_work (hk : s.core.Control) (hs : s.Storage setup) (hf : s.Frames setup)
    (hsized : s.Sized setup) (hequipped : s.Equipped setup) (hd : s.Draining)
    (hid : isRecordingIdValid s.impl.recordingId = true) (hin : s.history.inSession = true)
    (hstop : s.impl.stopRequested = true) (hw : s.worker = some w)
    (hsound : w.pc.Sound s w.recordingId) (hu : Unhindered setup s (.workerStep c))
    (he : s.workerStep setup c w.pc = some t) :
    Soundly w.recordingId t ∨ w.pc = .closing .publish := by
  have hc := hu.succeeds c rfl
  have hcalm := hu.toCalm
  obtain ⟨id, pc⟩ := w
  cases pc with
  | loop k =>
    obtain ⟨hequips, hsteady⟩ : s.Equips setup id ∧ k.Steady setup id := hequipped.worker _ hw
    exact .inl (soundly_loop hf hd hin hstop hw hequips hsteady hcalm hc hsound he)
  | closing k =>
    cases hopen : WorkerPc.unsealed (.closing k) with
    | true =>
      exact .inl (soundly_finishing hk hs hf hsized hid hin hw hcalm hc hsound hopen he)
    | false =>
      rcases soundly_sealing hk hs hin hw hcalm hc hsound hopen he with h | rfl
      · exact .inl h
      · exact .inr rfl
  | fault | finished => exact hsound.elim

end Work

end NodusVision.Manager
