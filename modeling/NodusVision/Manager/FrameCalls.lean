import NodusVision.Manager.FrameAccounts

/-! Every step of the capture thread, of the clocks and of an API call keeps the frames. -/
namespace NodusVision.Manager
open Text Storage Disk Program Recording RecordingStore Transition

section Kinds
variable {setup : Setup} {s t : System}

/-- A step that leaves the frames, the writers and the session alone. -/
structure Aside (s t : System) : Prop extends Beneath s t, KeepsTally s t where
  worker : t.worker = s.worker
  inSession : t.history.inSession = s.history.inSession
  faulted : t.history.workerFaulted = s.history.workerFaulted
  recordingId : t.impl.recordingId = s.impl.recordingId
  finalized : t.impl.state = .finalized → s.impl.state = .finalized

theorem Aside.of_same (hm : t.machine.disk = s.machine.disk) (hi : t.impl = s.impl)
    (hw : t.worker = s.worker) (ha : t.history.admitted = s.history.admitted)
    (hin : t.history.inSession = s.history.inSession)
    (hf : t.history.workerFaulted = s.history.workerFaulted) : Aside s t := by
  have hd : Changes evidencePaths s.machine.disk t.machine.disk := by
    rw [hm]
    exact .refl _ _
  constructor
  · exact ⟨congrArg Impl.writer hi, congrArg Impl.sidecar hi, hd⟩
  · exact ⟨congrArg Impl.queue hi, ha, congrArg (fun i => i.counters.admitted) hi,
      congrArg (fun i => i.counters.submitted) hi, congrArg Impl.span hi⟩
  · exact hw
  · exact hin
  · exact hf
  · exact congrArg Impl.recordingId hi
  · rw [hi]
    exact id

theorem Delivered.keep (h : Delivered setup s) (hwf : s.machine.disk.WellFormed)
    (hk : KeepsTally s t) (hw : t.impl.writer = s.impl.writer)
    (hid : t.impl.recordingId = s.impl.recordingId)
    (hl : s.machine.disk.Lawful t.machine.disk) : Delivered setup t := by
  constructor
  · exact h.drained.keep hk
  · rw [hk.frames]
    exact Encoded.keep h.encoded hw
  · rw [hk.frames, hid]
    exact h.complete.lawful hwf hl

theorem workerLive_of {w : Worker} (hw : s.worker = some w) (hlive : w.pc.isLive = true) :
    s.workerLive = true := by
  unfold System.workerLive
  rw [hw]
  exact hlive

theorem workerLive_of_none (hw : s.worker = none) : s.workerLive = false := by
  unfold System.workerLive
  rw [hw]
  rfl

/-- A step of another thread while the worker is where it is. -/
theorem frames_aside (hwf : s.machine.disk.WellFormed) (h : s.Frames setup) (ha : Aside s t)
    (hstill : (∀ w, s.worker = some w → w.pc.inLoop = false) →
      t.machine.disk = s.machine.disk)
    (hcall : ∀ call, t.holder = some call → call.Records setup t) : t.Frames setup := by
  have hl := ha.disk.1
  constructor
  · rw [ha.queue]
    exact h.ring
  · rw [ha.sidecar]
    exact fun w hw => (h.sidecar w hw).lawful hwf hl
  · rw [ha.worker]
    exact fun w hw => (h.pending w hw).lawful hwf hl
  · intro w hw hlive hin hst
    rw [ha.worker] at hw
    rw [ha.inSession] at hin
    exact h.working w hw hlive hin (ha.finalized hst)
  · exact hcall
  · intro w hw hin
    rw [ha.worker] at hw
    rw [ha.inSession] at hin
    have hrec := h.worker w hw hin
    obtain ⟨id, pc⟩ := w
    cases pc with
    | loop k =>
      obtain ⟨counted, htally, hk⟩ := hrec
      exact ⟨counted, htally.keep ha.toKeepsTally, hk.keep ha.toBeneath⟩
    | closing k =>
      obtain ⟨hdrained, hk⟩ := hrec
      refine ⟨hdrained.keep ha.toKeepsTally, ?_⟩
      rw [ha.frames]
      refine hk.keep ha.toBeneath (hstill fun v hv => ?_)
      cases hw.symm.trans hv
      rfl
    | fault | finished => trivial
  · intro w hw
    rw [ha.worker] at hw
    obtain ⟨frames, hframes, hseals⟩ := h.seals w hw
    rw [ha.inSession, ha.frames]
    refine ⟨frames, hframes, ?_⟩
    by_cases hin : w.pc.inLoop = true
    · exact .of_inLoop hin
    · refine hseals.quiet (hstill fun v hv => ?_)
      cases hw.symm.trans hv
      exact eq_false_of_ne_true hin
  · intro hin hf hdead
    rw [ha.inSession] at hin
    rw [ha.faulted] at hf
    have hdead : s.workerLive = false := by
      unfold System.workerLive at hdead ⊢
      rw [← ha.worker]
      exact hdead
    exact (h.idle hin hf hdead).keep ha.toKeepsTally
  · intro hin hst
    rw [ha.inSession] at hin
    exact (h.delivered hin (ha.finalized hst)).keep hwf ha.toKeepsTally ha.writer ha.recordingId hl
  · exact stored_lawful hwf hl (.of_changes ha.disk final_not_evidence) h.stored

/-- A step beside a worker that is not there or has returned. -/
theorem frames_dead (hwf : s.machine.disk.WellFormed) (h : s.Frames setup)
    (hdead : s.workerLive = false) (hdead' : ∀ w, t.worker = some w → w.pc = .finished)
    (hk : KeepsTally s t) (hin : t.history.inSession = s.history.inSession)
    (hf : t.history.workerFaulted = s.history.workerFaulted)
    (hst : t.history.inSession = true → t.impl.state = .finalized → Delivered setup t)
    (hl : s.machine.disk.Lawful t.machine.disk) (hfinal : KeepsFinal s.machine.disk t.machine.disk)
    (hsidecar : ∀ w, t.impl.sidecar = some w → OnDisk t.machine.disk w)
    (hcall : ∀ call, t.holder = some call → call.Records setup t) : t.Frames setup := by
  constructor
  · rw [hk.queue]
    exact h.ring
  · exact hsidecar
  · intro w hw
    rw [hdead' w hw]
    trivial
  · intro w hw hlive
    rw [hdead' w hw] at hlive
    cases hlive
  · exact hcall
  · intro w hw _
    rw [hdead' w hw]
    trivial
  · intro w hw
    refine ⟨identities t.history.admitted, fun _ => rfl, ?_⟩
    rw [hdead' w hw]
    trivial
  · intro hin' hf' _
    rw [hin] at hin'
    rw [hf] at hf'
    exact (h.idle hin' hf' hdead).keep hk
  · exact hst
  · exact stored_lawful hwf hl hfinal h.stored

/-- A restore, which takes the session from a worker that may still run. -/
theorem frames_restored (h : s.Frames setup) (hq : t.impl.queue = s.impl.queue.reset)
    (hw : t.worker = s.worker) (hin : t.history.inSession = false)
    (hsidecar : t.impl.sidecar = s.impl.sidecar) (hd : t.machine.disk = s.machine.disk)
    (hh : t.holder = none) : t.Frames setup := by
  have hcapacity : 0 < setup.config.queueCapacityFrames := Nat.zero_lt_of_lt h.ring.head
  constructor
  · rw [hq, h.ring.reset]
    exact FrameRing.wellFormed_empty hcapacity
  · rw [hsidecar, hd]
    exact h.sidecar
  · rw [hw, hd]
    exact h.pending
  · intro w _ _ hin'
    cases hin.symm.trans hin'
  · intro call hc
    cases hh.symm.trans hc
  · intro w _ hin'
    cases hin.symm.trans hin'
  · intro w hw'
    obtain ⟨frames, -, hseals⟩ := h.seals w (hw ▸ hw')
    refine ⟨frames, fun hin' => ?_, hseals.quiet hd⟩
    cases hin.symm.trans hin'
  · intro hin'
    cases hin.symm.trans hin'
  · intro hin'
    cases hin.symm.trans hin'
  · rw [hd]
    exact h.stored

/-- A frame that the recorder admits is the last one of the queue. -/
theorem Tally.admit {counted held : List CapturedFrame} {frame : CapturedFrame}
    (h : Tally s counted held) (hr : s.impl.queue.WellFormed setup.config.queueCapacityFrames)
    (hroom : s.impl.queue.count ≠ s.impl.queue.slots.length)
    (hq : t.impl.queue = s.impl.queue.push frame)
    (ha : t.history.admitted = s.history.admitted ++ [frame])
    (hc : t.impl.counters.admitted = s.impl.counters.admitted + 1)
    (hs : t.impl.counters.submitted = s.impl.counters.submitted)
    (hspan : t.impl.span = s.impl.span) : Tally t counted held := by
  have hroom : s.impl.queue.count < setup.config.queueCapacityFrames := by
    refine lt_of_le_of_ne hr.count_le ?_
    rw [← hr.size]
    exact hroom
  constructor
  · rw [hq, (hr.push hroom frame).2, ha, ← h.frames, List.append_assoc _ _ [frame]]
  · rw [hc, h.admitted, ha, List.length_append]
    rfl
  · rw [hs]
    exact h.submitted
  · rw [hspan]
    exact h.first
  · rw [hspan]
    exact h.last
  · exact h.ordered

/-- A new process keeps the finalized artifacts. -/
theorem frames_exit (h : s.Frames setup) : (s.exitProcess setup).Frames setup := by
  have hcapacity : 0 < setup.config.queueCapacityFrames := Nat.zero_lt_of_lt h.ring.head
  constructor
  · exact FrameRing.wellFormed_empty hcapacity
  · intro w hw
    cases hw
  · intro w hw
    cases hw
  · intro w hw
    cases hw
  · intro call hc
    cases hc
  · intro w hw
    cases hw
  · intro w hw
    cases hw
  · intro hin
    cases hin
  · intro hin
    cases hin
  · exact h.stored

end Kinds

section Calls
variable {setup : Setup} {s t u : System} {c : Choice}

theorem Aside.hold (h : Aside s u) (call : Call) : Aside s (u.hold call) :=
  ⟨⟨h.writer, h.sidecar, h.disk⟩, ⟨h.queue, h.frames, h.admitted, h.submitted, h.span⟩, h.worker,
    h.inSession, h.faulted, h.recordingId, h.finalized⟩

/-- A step that leaves the memory of the recorder and the disk alone. -/
theorem frames_same (hwf : s.machine.disk.WellFormed) (h : s.Frames setup)
    (hm : t.machine.disk = s.machine.disk) (hi : t.impl = s.impl) (hw : t.worker = s.worker)
    (ha : t.history.admitted = s.history.admitted)
    (hin : t.history.inSession = s.history.inSession)
    (hf : t.history.workerFaulted = s.history.workerFaulted)
    (hcall : ∀ call, t.holder = some call → call.Records setup t) : t.Frames setup :=
  frames_aside hwf h (.of_same hm hi hw ha hin hf) (fun _ => hm) hcall

theorem frames_hold (hwf : s.machine.disk.WellFormed) (h : s.Frames setup) {call : Call}
    (hc : call.Records setup (s.hold call)) : (s.hold call).Frames setup := by
  refine frames_same hwf h rfl rfl rfl rfl rfl rfl ?_
  rintro _ ⟨⟩
  exact hc

theorem frames_release (hwf : s.machine.disk.WellFormed) (h : s.Frames setup) (r : Return) :
    (s.release r).Frames setup := by
  refine frames_same hwf h rfl rfl rfl rfl rfl rfl ?_
  rintro _ ⟨⟩

theorem frames_submit (hk : s.core.Control) (hwf : s.machine.disk.WellFormed)
    (h : s.Frames setup) (hfree : s.mutexFree = true) (frame : CapturedFrame) :
    (s.submit frame).Frames setup := by
  simp only [System.mutexFree, Bool.and_eq_true, Option.isNone_iff_eq_none] at hfree
  have hnone : ∀ {u : System}, u.holder = s.holder →
      ∀ call, u.holder = some call → call.Records setup u := by
    intro u hu call hc
    rw [hu, hfree.1] at hc
    cases hc
  unfold System.submit
  by_cases hst : s.impl.state = .recording
  · rw [if_neg (not_not.mpr hst)]
    by_cases hfull : s.impl.queue.count = s.impl.queue.slots.length
    · rw [if_pos hfull]
      exact frames_aside hwf h ⟨⟨rfl, rfl, .refl _ _⟩, ⟨rfl, rfl, rfl, rfl, rfl⟩, rfl, rfl, rfl,
        rfl, fun hf => hf⟩ (fun _ => rfl) (hnone rfl)
    · rw [if_neg hfull]
      have hreleased : s.core.Released := by
        intro w hw
        have hall := hfree.2
        rw [show s.worker = some w from hw] at hall
        simpa using hall
      obtain ⟨-, v, hv, hloop, -⟩ := (hk.settled hfree.1 hreleased).recording hst
      have hv : s.worker = some v := hv
      have hroom : s.impl.queue.count < setup.config.queueCapacityFrames := by
        refine lt_of_le_of_ne h.ring.count_le ?_
        rw [← h.ring.size]
        exact hfull
      constructor
      · exact (h.ring.push hroom frame).1
      · exact h.sidecar
      · exact h.pending
      · intro w _ _ _ hfinal
        cases hst.symm.trans hfinal
      · exact hnone rfl
      · intro w hw hin
        cases hv.symm.trans hw
        have hrec := h.worker v hv hin
        obtain ⟨id, pc⟩ := v
        cases pc with
        | loop k =>
          obtain ⟨counted, htally, hrec⟩ := hrec
          exact ⟨counted, htally.admit h.ring hfull rfl rfl rfl rfl rfl,
            hrec.keep ⟨rfl, rfl, .refl _ _⟩⟩
        | fault => trivial
        | closing | finished => cases hloop
      · intro w hw
        cases hv.symm.trans hw
        exact ⟨_, fun _ => rfl, .of_inLoop hloop⟩
      · intro _ _ hdead
        cases hdead.symm.trans (workerLive_of (s := s) hv (isLive_of_inLoop hloop))
      · intro _ hfinal
        cases hst.symm.trans hfinal
      · exact h.stored
  · rw [if_pos hst]
    exact frames_same hwf h rfl rfl rfl rfl rfl rfl (hnone rfl)

/-- A step of a program that only asks. -/
theorem frames_asked {α : Type} {p : StoreProg α} {point : StoreProg α → Call}
    {onReturn : α → System} {onThrow : Exception → System} (hwf : s.machine.disk.WellFormed)
    (h : s.Frames setup)
    (hsame : ∀ o k, p = .op o k → (exec o c s.machine).2.disk = s.machine.disk)
    (hpoint : ∀ q u, (point q).Records setup u)
    (hret : ∀ a, p = .pure a → (onReturn a).Frames setup)
    (hthrow : ∀ e, (onThrow e).Frames setup) :
    (s.advance c point onReturn onThrow p).Frames setup := by
  cases p with
  | pure a => exact hret a rfl
  | throw e => exact hthrow e
  | op o k =>
    refine frames_same hwf h (hsame o k rfl) rfl rfl rfl rfl rfl ?_
    rintro _ ⟨⟩
    exact hpoint _ _

theorem begin_aside {R : System → Prop} {closer : Closer} {point : System → BeginPc → System}
    {finish : System → System} {rethrow : System → Exception → System} {b : BeginPc}
    (hb : b.Storage s.machine s.impl.recordingId closer)
    (hpoint : ∀ u b', Aside s u → u.holder = s.holder → R (point u b'))
    (hfinish : ∀ u, Aside s u → u.holder = s.holder → R (finish u))
    (hrethrow : ∀ u e, Aside s u → u.holder = s.holder → R (rethrow u e)) :
    R (b.step setup s c closer point finish rethrow) := by
  cases b with
  | enter =>
    exact hpoint _ _ ⟨⟨rfl, rfl, .refl _ _⟩, ⟨rfl, rfl, rfl, rfl, rfl⟩, rfl, rfl, rfl, rfl,
      fun hf => by cases hf⟩ rfl
  | closeAdmission =>
    exact hpoint _ _ ⟨⟨rfl, rfl, .refl _ _⟩, ⟨rfl, rfl, rfl, rfl, rfl⟩, rfl, rfl, rfl, rfl,
      fun hf => hf⟩ rfl
  | evidence p =>
    cases p with
    | pure a => exact hpoint _ _ (.of_same rfl rfl rfl rfl rfl rfl) rfl
    | throw e => exact hpoint _ _ (.of_same rfl rfl rfl rfl rfl rfl) rfl
    | op o k =>
      have hr : Runs outputPaths (Changes (writtenPaths s.impl.recordingId .stopRequest))
        (.op o k) (fun _ d => StopIs d s.impl.recordingId (closer.evidence s.impl.recordingId))
        s.machine := hb
      have hd : Changes (writtenPaths s.impl.recordingId .stopRequest) s.machine.disk
        (exec o c s.machine).2.disk := (hr.op_step c trivial).1
      exact hpoint _ _ ⟨⟨rfl, rfl, hd.mono fun p hp => ⟨_, hp⟩⟩, ⟨rfl, rfl, rfl, rfl, rfl⟩, rfl,
        rfl, rfl, rfl, fun hf => hf⟩ rfl
  | checkDeadline =>
    simp only [BeginPc.step]
    split
    · exact hpoint _ _ (.of_same rfl rfl rfl rfl rfl rfl) rfl
    · exact hfinish _ ⟨⟨rfl, rfl, .refl _ _⟩, ⟨rfl, rfl, rfl, rfl, rfl⟩, rfl, rfl, rfl, rfl,
        fun hf => hf⟩ rfl
  | fail e =>
    exact hrethrow _ _ ⟨⟨rfl, rfl, .refl _ _⟩, ⟨rfl, rfl, rfl, rfl, rfl⟩, rfl, rfl, rfl, rfl,
      fun hf => by cases hf⟩ rfl

theorem frames_startEntered (hwf : s.machine.disk.WellFormed) (h : s.Frames setup)
    (request : RecordingStartRequest) : (s.startEntered request).Frames setup := by
  unfold System.startEntered
  split
  · exact frames_release hwf h _
  · split
    · split
      · exact frames_release hwf h _
      · exact frames_release hwf h _
    · split
      · exact frames_release hwf h _
      · split
        · exact frames_hold hwf h trivial
        · exact frames_hold hwf h trivial

theorem frames_stopEntered (hwf : s.machine.disk.WellFormed) (h : s.Frames setup)
    (request : RecordingStartRequest) : (s.stopEntered request).Frames setup := by
  unfold System.stopEntered
  split
  · split
    · split
      · exact frames_release hwf h _
      · split
        · exact frames_release hwf h _
        · exact frames_release hwf h _
    · exact frames_release hwf h _
  · exact frames_hold hwf h trivial

theorem frames_stopUnrecorded (hwf : s.machine.disk.WellFormed) (h : s.Frames setup)
    (request : RecordingStartRequest) : (s.stopUnrecorded request).Frames setup := by
  unfold System.stopUnrecorded
  split
  · exact frames_release hwf h _
  · split
    · exact frames_release hwf h _
    · exact frames_hold hwf h trivial

theorem frames_stopLookedUp (hwf : s.machine.disk.WellFormed) (h : s.Frames setup)
    (request : RecordingStartRequest) (r : Option PersistedRecordingArtifact) :
    (s.stopLookedUp request r).Frames setup := by
  unfold System.stopLookedUp
  split
  · exact frames_stopUnrecorded hwf h request
  · split
    · exact frames_stopUnrecorded hwf h request
    · split
      · exact frames_release hwf h _
      · split
        · unfold System.stopReplayed
          split
          · exact frames_restored h rfl rfl rfl rfl rfl rfl
          · exact frames_release hwf h _
        · split
          · exact frames_release hwf h _
          · exact frames_stopUnrecorded hwf h request

theorem frames_shutdownEntered (hwf : s.machine.disk.WellFormed) (h : s.Frames setup) :
    s.shutdownEntered.Frames setup := by
  unfold System.shutdownEntered
  split
  · exact frames_hold hwf h trivial
  · split
    · refine frames_same hwf h rfl rfl rfl rfl rfl rfl ?_
      rintro _ ⟨⟩
    · exact frames_release hwf h _

/-- A step of a start that has no worker yet. -/
theorem frames_building (hwf : s.machine.disk.WellFormed) (h : s.Frames setup)
    (hw : s.worker = none) (hw' : t.worker = none) (hst : t.impl.state = .preparing)
    (hk : KeepsTally s t) (hin : t.history.inSession = s.history.inSession)
    (hf : t.history.workerFaulted = s.history.workerFaulted)
    (hl : s.machine.disk.Lawful t.machine.disk) (hfinal : KeepsFinal s.machine.disk t.machine.disk)
    (hsidecar : ∀ w, t.impl.sidecar = some w → s.impl.sidecar = some w ∨
      OnDisk t.machine.disk w)
    (hcall : ∀ call, t.holder = some call → call.Records setup t) : t.Frames setup := by
  refine frames_dead hwf h (workerLive_of_none hw) (fun w hw'' => ?_) hk hin hf
    (fun _ hfinalized => ?_) hl hfinal (fun w hsome => ?_) hcall
  · cases hw'.symm.trans hw''
  · cases hst.symm.trans hfinalized
  · rcases hsidecar w hsome with hold | hnew
    · exact (h.sidecar w hold).lawful hwf hl
    · exact hnew

theorem frames_startLookedUp (hwf : s.machine.disk.WellFormed) (h : s.Frames setup)
    (hw : s.worker = none) {request : RecordingStartRequest} {canonical : ByteString}
    {r : Option PersistedRecordingArtifact}
    (hr : LookupFound request.recordingId s.machine.disk r) :
    (s.startLookedUp setup request canonical r).Frames setup := by
  cases r with
  | some artifact =>
    simp only [System.startLookedUp]
    split
    · exact frames_release hwf h _
    · exact frames_restored h rfl rfl rfl rfl rfl rfl
  | none =>
    refine frames_building hwf h hw hw rfl ⟨rfl, rfl, rfl, rfl, rfl⟩ rfl rfl (.refl _)
      (.refl _) (fun w hsome => .inl hsome) ?_
    rintro _ ⟨⟩ w hsome heq
    obtain ⟨id, hpath, m, hdir⟩ := h.sidecar w hsome
    rw [hpath] at heq
    cases heq
    exact hdir (hr m)

/-- The session fields of a new recording. -/
theorem frames_publish (h : s.Frames setup) (hw : s.worker = none)
    (hst : s.impl.state = .preparing) {request : RecordingStartRequest} {canonical : ByteString}
    (hencoded : s.Encoded 0) (hlogged : s.Logged setup request.recordingId []) :
    ((s.publishSession setup request canonical).hold (.startSpawn request)).Frames setup := by
  have hcapacity : 0 < setup.config.queueCapacityFrames := Nat.zero_lt_of_lt h.ring.head
  have htally : Tally ((s.publishSession setup request canonical).hold (.startSpawn request))
      [] [] := by
    constructor
    · show [] ++ [] ++ s.impl.queue.reset.frames = []
      rw [h.ring.reset, FrameRing.frames_empty]
      rfl
    · rfl
    · rfl
    · rfl
    · rfl
    · exact List.isChain_nil
  constructor
  · show s.impl.queue.reset.WellFormed _
    rw [h.ring.reset]
    exact FrameRing.wellFormed_empty hcapacity
  · exact h.sidecar
  · exact h.pending
  · intro w hw'
    cases hw.symm.trans hw'
  · rintro _ ⟨⟩
    exact ⟨hencoded, hlogged, htally⟩
  · intro w hw'
    cases hw.symm.trans hw'
  · intro w hw'
    cases hw.symm.trans hw'
  · exact fun _ _ _ => htally
  · intro _ hfinal
    have hfinal : s.impl.state = .finalized := hfinal
    cases hst.symm.trans hfinal
  · exact h.stored

/-- The new worker has taken no frame. -/
theorem frames_spawn (h : s.Frames setup) {request : RecordingStartRequest}
    (hst : s.impl.state = .preparing) (hencoded : s.Encoded 0)
    (hlogged : s.Logged setup request.recordingId []) (htally : Tally s [] []) :
    System.Frames setup { s with
      worker := some ⟨request.recordingId, .loop .acquire⟩
      holder := some (.startRecording request) } := by
  constructor
  · exact h.ring
  · exact h.sidecar
  · rintro _ ⟨⟩
    trivial
  · intro _ _ _ _ hfinal
    have hfinal : s.impl.state = .finalized := hfinal
    cases hst.symm.trans hfinal
  · rintro _ ⟨⟩
    trivial
  · rintro _ ⟨⟩ _
    exact ⟨[], htally.keep ⟨rfl, rfl, rfl, rfl, rfl⟩, hencoded, hlogged⟩
  · rintro _ ⟨⟩
    exact ⟨_, fun _ => rfl, trivial⟩
  · intro _ _ hdead
    cases hdead
  · intro _ hfinal
    have hfinal : s.impl.state = .finalized := hfinal
    cases hst.symm.trans hfinal
  · exact h.stored

theorem output_subset {id : ByteString} {q : ManagedPath} (hq : IsOutput id q) :
    ({q} : Set ManagedPath) ⊆ outputPaths := by
  rintro _ rfl
  exact ⟨id, hq⟩

/-- A program of a start: its operations write where they may, and its results are known. -/
theorem frames_advance {α : Type} {p : StoreProg α} {point : StoreProg α → Call}
    {onReturn : α → System} {request : RecordingStartRequest} {paths : Set ManagedPath}
    (hwf : s.machine.disk.WellFormed)
    (h : s.Frames setup) (hw : s.worker = none) (hst : s.impl.state = .preparing)
    (hpaths : ∀ id, ManagedPath.artifact .finalized id ∉ paths)
    (hop : ∀ o k, p = .op o k → Changes paths s.machine.disk (exec o c s.machine).2.disk)
    (hpoint : ∀ o k, p = .op o k → (point (k (exec o c s.machine).1)).Records setup
      (s.advance c point onReturn (fun e => s.hold (.startFailed request e)) p))
    (hret : ∀ a, p = .pure a → (onReturn a).Frames setup) :
    (s.advance c point onReturn (fun e => s.hold (.startFailed request e)) p).Frames setup := by
  cases p with
  | pure a => exact hret a rfl
  | throw e => exact frames_hold hwf h trivial
  | op o k =>
    have hd := hop o k rfl
    refine frames_building hwf h hw hw hst ⟨rfl, rfl, rfl, rfl, rfl⟩ rfl rfl hd.1
      (.of_changes hd hpaths) (fun w hsome => .inl hsome) ?_
    rintro _ ⟨⟩
    exact hpoint o k rfl

theorem releaseSidecar_apart (h : s.Frames setup) {id : ByteString} (ha : s.Apart id) :
    (releaseSidecar s.impl.sidecar).Uses
      (fun o => ∃ i q, IsOutput i q ∧ q ≠ sidecarPath id ∧ WritesTo q o) (fun _ => True)
      fun _ => True := by
  cases hs : s.impl.sidecar with
  | none => trivial
  | some w =>
    obtain ⟨i, hpath, -⟩ := h.sidecar w hs
    exact (RecordingSidecarWriter.destroy_uses w).mono
      (fun _ ho => ⟨i, w.outputPath, .inr hpath, ha w hs, ho⟩) (fun _ h => h) fun _ _ => trivial

/-- The start builds its staging artifact and its two writers. -/
theorem frames_starting {call : Call} (hk : s.core.Control) (hs : s.Storage setup)
    (h : s.Frames setup) (hh : s.holder = some call) (hst : s.impl.state = .preparing)
    (hw : s.worker = none) {request : RecordingStartRequest}
    (hstarts : call.Starts request) (he : s.callStep setup c call = some t) :
    t.Frames setup := by
  have hwf := hs.wellFormed
  have hctl := hk.call hh
  have hstorage := hs.call call hh
  have hrec := h.call call hh
  cases call with
  | startPreparing request canonical p =>
    cases he
    obtain ⟨-, hruns⟩ := hstorage
    refine frames_advance hwf h hw hst (start_keeps request.recordingId) ?_ ?_ ?_
    · rintro o k rfl
      exact (hruns.op_step c trivial).1
    · rintro o k rfl
      exact hrec
    · rintro paths rfl
      refine frames_building hwf h hw hw hst ⟨rfl, rfl, rfl, rfl, rfl⟩ rfl rfl (.refl _) (.refl _)
        (fun w hsome => .inl hsome) ?_
      rintro _ ⟨⟩
      exact hrec
  | startWriter request canonical p =>
    cases he
    obtain ⟨-, -, huses⟩ := hstorage
    refine frames_advance hwf h hw hst outputs_keep ?_ ?_ ?_
    · rintro o k rfl
      exact (output_changes (.inl rfl) huses.1 c s.machine).mono (video_subset _)
    · rintro o k rfl
      exact hrec
    · rintro w rfl
      have hwriter : w = { config := writerConfig setup (artifactPaths request.recordingId)
                           headerWritten := true } := huses
      refine frames_building hwf h hw hw hst ⟨rfl, rfl, rfl, rfl, rfl⟩ rfl rfl (.refl _) (.refl _)
        (fun w hsome => .inl hsome) ?_
      rintro _ ⟨⟩
      exact ⟨hrec, w, rfl, by rw [hwriter]⟩
  | startReleaseWriter request canonical p =>
    cases he
    obtain ⟨-, -, huses⟩ := hstorage
    refine frames_advance hwf h hw hst outputs_keep ?_ ?_ ?_
    · rintro o k rfl
      obtain ⟨id, path, hpath, ho⟩ := huses.1
      exact (output_changes hpath ho c s.machine).mono (output_subset hpath)
    · rintro o k rfl
      exact hrec
    · rintro a rfl
      have hpaths : s.impl.artifactPaths = artifactPaths request.recordingId := hctl.2
      have hspec : Spec anyChoice ∅ (Changes {sidecarPath (setup.header request.recordingId).recordingId})
          (fun _ => True) (RecordingSidecarWriter.construct
            (sidecarPath (setup.header request.recordingId).recordingId)
            (setup.header request.recordingId).recordingId
            (setup.header request.recordingId).sensorFrame
            (setup.header request.recordingId).calibrationId) _ _ := construct_listing
      refine frames_hold hwf h ⟨hrec.1, hrec.2, ?_⟩
      rw [hpaths]
      exact hspec s.machine trivial
  | startSidecar request canonical p =>
    cases he
    obtain ⟨-, hstarted, huses⟩ := hstorage
    obtain ⟨hapart, hencoded, hruns⟩ := hrec
    refine frames_advance hwf h hw hst outputs_keep ?_ ?_ ?_
    · rintro o k rfl
      exact Changes.mono (sidecar_subset _) (hruns.op_step c trivial).1
    · rintro o k rfl
      exact ⟨hapart, hencoded, (hruns.op_step c trivial).2⟩
    · rintro w rfl
      have hlisting : Listing (setup.header request.recordingId) [] w s.machine.disk :=
        hruns.of_pure
      refine frames_building hwf h hw hw hst ⟨rfl, rfl, rfl, rfl, rfl⟩ rfl rfl (.refl _) (.refl _)
        ?_ ?_
      · rintro _ ⟨⟩
        refine .inr ⟨request.recordingId, hlisting.path, .staging, ?_⟩
        show s.machine.disk _ ≠ none
        rw [hstarted.staging]
        exact Option.some_ne_none _
      · rintro _ ⟨⟩
        exact ⟨hencoded, ⟨w, rfl, hlisting⟩, releaseSidecar_apart h hapart⟩
  | startReleaseSidecar request canonical p =>
    cases he
    obtain ⟨hencoded, hlogged, huses⟩ := hrec
    refine frames_advance hwf h hw hst outputs_keep ?_ ?_ ?_
    · rintro o k rfl
      obtain ⟨id, q, hq, -, ho⟩ := huses.1
      exact (output_changes hq ho c s.machine).mono (output_subset hq)
    · rintro o k rfl
      obtain ⟨id, q, hq, hne, ho⟩ := huses.1
      exact ⟨hencoded, Logged.keep hlogged rfl (output_changes hq ho c s.machine)
        fun hmem => hne hmem.symm, huses.2 _⟩
    · rintro a rfl
      exact frames_hold hwf h ⟨hencoded, hlogged⟩
  | startPublish request canonical =>
    cases he
    exact frames_publish h hw hst hrec.1 hrec.2
  | startSpawn request =>
    change (if c.fails = true then _ else _) = some t at he
    split at he <;> cases he
    · exact frames_hold hwf h trivial
    · exact frames_spawn h hst hrec.1 hrec.2.1 hrec.2.2
  | startRecording request | startAdmit request =>
    cases hw.symm.trans hctl.1
  | _ => rcases hstarts with hstarts | hstarts <;> cases hstarts

/-- A closer in a call works beside a worker in its loop. -/
theorem frames_closing {closer : Closer} {b : BeginPc} {point : System → BeginPc → System}
    {finish : System → System} {rethrow : System → Exception → System}
    (hwf : s.machine.disk.WellFormed) (h : s.Frames setup)
    (hat : s.core.WorkerAt WorkerPc.inLoop)
    (hb : b.Storage s.machine s.impl.recordingId closer)
    (hpoint : ∀ u b', Aside s u → Aside s (point u b') ∧
      ∀ call, (point u b').holder = some call → ∀ v, call.Records setup v)
    (hfinish : ∀ u, Aside s u → Aside s (finish u) ∧
      ∀ call, (finish u).holder = some call → ∀ v, call.Records setup v)
    (hrethrow : ∀ u e, Aside s u → Aside s (rethrow u e) ∧
      ∀ call, (rethrow u e).holder = some call → ∀ v, call.Records setup v) :
    (b.step setup s c closer point finish rethrow).Frames setup := by
  obtain ⟨w, hw, hin, -⟩ := hat
  have hstill : (∀ v, s.worker = some v → v.pc.inLoop = false) → ∀ {u : System},
      u.machine.disk = s.machine.disk := by
    intro hout
    cases hin.symm.trans (hout w hw)
  have hframes : ∀ {u : System}, Aside s u ∧
      (∀ call, u.holder = some call → ∀ v, call.Records setup v) → u.Frames setup :=
    fun hu => frames_aside hwf h hu.1 (fun hout => hstill hout) fun call hc => hu.2 call hc _
  exact begin_aside hb (fun u b' hu _ => hframes (hpoint u b' hu))
    (fun u hu _ => hframes (hfinish u hu)) fun u e hu _ => hframes (hrethrow u e hu)

theorem Aside.release (h : Aside s u) (r : Return) : Aside s (u.release r) :=
  ⟨⟨h.writer, h.sidecar, h.disk⟩, ⟨h.queue, h.frames, h.admitted, h.submitted, h.span⟩, h.worker,
    h.inSession, h.faulted, h.recordingId, h.finalized⟩

theorem Aside.shutdown (h : Aside s u) : Aside s u.shutdownReleases :=
  ⟨⟨h.writer, h.sidecar, h.disk⟩, ⟨h.queue, h.frames, h.admitted, h.submitted, h.span⟩, h.worker,
    h.inSession, h.faulted, h.recordingId, h.finalized⟩

theorem frames_callStep {call : Call} (hk : s.core.Control) (hs : s.Storage setup)
    (h : s.Frames setup) (hh : s.holder = some call) (he : s.callStep setup c call = some t) :
    t.Frames setup := by
  have hwf := hs.wellFormed
  have hctl := hk.call hh
  have hstorage := hs.call call hh
  cases call with
  | startEntered request =>
    cases he
    exact frames_startEntered hwf h request
  | startJoining request canonical =>
    change (if s.workerLive = true then none else _) = some t at he
    split at he <;> cases he
    rename_i hdead
    refine frames_dead hwf h (eq_false_of_ne_true hdead) (fun w hw => by cases hw)
      ⟨rfl, rfl, rfl, rfl, rfl⟩ rfl rfl (fun hin hst => ?_) (.refl _) (.refl _) h.sidecar ?_
    · exact (h.delivered hin hst).keep hwf ⟨rfl, rfl, rfl, rfl, rfl⟩ rfl rfl (.refl _)
    · rintro _ ⟨⟩
      trivial
  | startLookup request canonical p =>
    cases he
    obtain ⟨-, hruns⟩ := hstorage
    refine frames_asked hwf h ?_ (fun _ _ => trivial) ?_ fun _ => frames_release hwf h _
    · rintro o k rfl
      exact (hruns.op_step c trivial).1
    · rintro r rfl
      exact frames_startLookedUp hwf h hctl.1 hruns.of_pure
  | startPreparing request canonical p =>
    exact frames_starting hk hs h hh hctl.1.2.2 hctl.1.1 (.inl rfl) he
  | startWriter request | startReleaseWriter request | startSidecar request
  | startReleaseSidecar request | startPublish request | startSpawn request =>
    exact frames_starting hk hs h hh hctl.1.2.2 hctl.1.1 (.inr rfl) he
  | startRecording request =>
    cases he
    refine frames_aside hwf h ⟨⟨rfl, rfl, .refl _ _⟩, ⟨rfl, rfl, rfl, rfl, rfl⟩, rfl, rfl, rfl, rfl,
      fun hf => by cases hf⟩ (fun _ => rfl) ?_
    rintro _ ⟨⟩
    trivial
  | startAdmit request =>
    cases he
    refine frames_aside hwf h ⟨⟨rfl, rfl, .refl _ _⟩, ⟨rfl, rfl, rfl, rfl, rfl⟩, rfl, rfl, rfl, rfl,
      fun hf => hf⟩ (fun _ => rfl) ?_
    rintro _ ⟨⟩
  | startFailed request e =>
    cases he
    refine frames_aside hwf h ⟨⟨rfl, rfl, .refl _ _⟩, ⟨rfl, rfl, rfl, rfl, rfl⟩, rfl, rfl, rfl, rfl,
      fun hf => by cases hf⟩ (fun _ => rfl) ?_
    rintro _ ⟨⟩
    trivial
  | startRethrow request e =>
    cases he
    refine frames_aside hwf h ⟨⟨rfl, rfl, .refl _ _⟩, ⟨rfl, rfl, rfl, rfl, rfl⟩, rfl, rfl, rfl, rfl,
      fun hf => hf⟩ (fun _ => rfl) ?_
    rintro _ ⟨⟩
  | stopEntered request =>
    cases he
    exact frames_stopEntered hwf h request
  | stopLookup request p =>
    cases he
    obtain ⟨-, hruns⟩ := hstorage
    refine frames_asked hwf h ?_ (fun _ _ => trivial) ?_ fun _ => frames_release hwf h _
    · rintro o k rfl
      exact (hruns.op_step c trivial).1
    · rintro r rfl
      exact frames_stopLookedUp hwf h request r
  | stopBegin request b =>
    cases he
    refine frames_closing hwf h hctl.1 hstorage.2 (fun u b' hu => ⟨hu.hold _, ?_⟩)
      (fun u hu => ⟨hu.release _, ?_⟩) fun u e hu => ⟨hu.release _, ?_⟩
    · rintro _ ⟨⟩ v
      trivial
    · rintro _ ⟨⟩
    · rintro _ ⟨⟩
  | shutdownEntered =>
    cases he
    exact frames_shutdownEntered hwf h
  | shutdownBegin b =>
    cases he
    refine frames_closing hwf h hctl.1 hstorage (fun u b' hu => ⟨hu.hold _, ?_⟩)
      (fun u hu => ⟨hu.shutdown, ?_⟩) fun u e hu => ⟨hu.hold _, ?_⟩
    · rintro _ ⟨⟩ v
      trivial
    · rintro _ ⟨⟩
    · rintro _ ⟨⟩ v
      trivial
  | shutdownCatch =>
    cases he
    refine frames_aside hwf h ⟨⟨rfl, rfl, .refl _ _⟩, ⟨rfl, rfl, rfl, rfl, rfl⟩, rfl, rfl, rfl, rfl,
      fun hf => by cases hf⟩ (fun _ => rfl) ?_
    rintro _ ⟨⟩
  | destroying p =>
    cases he
    cases p with
    | pure a => exact frames_exit h
    | throw e => exact frames_exit h
    | op o k =>
      obtain ⟨id, path, hpath, ho⟩ := hstorage.1
      have hd := output_changes hpath ho c s.machine
      have hw : s.worker = none := hctl.1
      refine frames_dead hwf h (workerLive_of_none hw) (fun w hw' => ?_) ⟨rfl, rfl, rfl, rfl, rfl⟩
        rfl rfl (fun hin hst => ?_) hd.1 (.of_changes (hd.mono (output_subset hpath)) outputs_keep)
        (fun w hsome => ?_) ?_
      · cases hw.symm.trans hw'
      · exact (h.delivered hin hst).keep hwf ⟨rfl, rfl, rfl, rfl, rfl⟩ rfl rfl hd.1
      · exact (h.sidecar w hsome).lawful hwf hd.1
      · rintro _ ⟨⟩
        trivial

theorem Call.Records.keep {call : Call} (h : call.Records setup s) (hk : KeepsTally s t)
    (hw : t.impl.writer = s.impl.writer) (hsidecar : t.impl.sidecar = s.impl.sidecar)
    (hd : t.machine.disk = s.machine.disk) : call.Records setup t := by
  have hencoded : ∀ {n}, s.Encoded n → t.Encoded n := fun he => Encoded.keep he hw
  have hapart : ∀ {id}, s.Apart id → t.Apart id := by
    intro id ha w hsome
    rw [hsidecar] at hsome
    exact ha w hsome
  have hlogged : ∀ {id}, s.Logged setup id [] → t.Logged setup id [] := by
    intro id hl
    have hc : Changes ∅ s.machine.disk t.machine.disk := by
      rw [hd]
      exact .refl _ _
    exact Logged.keep hl hsidecar hc (Set.notMem_empty _)
  cases call with
  | startPreparing request canonical p => exact hapart h
  | startWriter request canonical p => exact hapart h
  | startReleaseWriter request canonical p => exact ⟨hapart h.1, hencoded h.2⟩
  | startSidecar request canonical p => exact ⟨hapart h.1, hencoded h.2.1, runs_quiet hd h.2.2⟩
  | startReleaseSidecar request canonical p => exact ⟨hencoded h.1, hlogged h.2.1, h.2.2⟩
  | startPublish request canonical => exact ⟨hencoded h.1, hlogged h.2⟩
  | startSpawn request => exact ⟨hencoded h.1, hlogged h.2.1, h.2.2.keep hk⟩
  | _ => trivial

/-- A step that the call which holds the mutex does not see. -/
theorem frames_unseen (hwf : s.machine.disk.WellFormed) (h : s.Frames setup) (ha : Aside s t)
    (hd : t.machine.disk = s.machine.disk) (hh : t.holder = s.holder) : t.Frames setup := by
  refine frames_aside hwf h ha (fun _ => hd) fun call hc => ?_
  rw [hh] at hc
  exact (h.call call hc).keep ha.toKeepsTally ha.writer ha.sidecar hd

/-- Every step of another thread than the worker. -/
theorem frames_other {e : Event} (hk : s.core.Control) (hs : s.Storage setup)
    (h : s.Frames setup) (hworker : ∀ c, e ≠ .workerStep c) (he : s.step setup e = some t) :
    t.Frames setup := by
  have hwf := hs.wellFormed
  cases e with
  | tick ns | setUnix ns =>
    cases he
    exact frames_unseen hwf h (.of_same rfl rfl rfl rfl rfl rfl) rfl rfl
  | call api =>
    cases api with
    | start request =>
      simp only [System.step, System.enter] at he
      split at he <;> cases he
      refine frames_same hwf h rfl rfl rfl rfl rfl rfl ?_
      rintro _ ⟨⟩
      trivial
    | stop request =>
      simp only [System.step, System.enter] at he
      split at he
      · cases he
        exact frames_unseen hwf h (.of_same rfl rfl rfl rfl rfl rfl) rfl rfl
      · split at he <;> cases he
        exact frames_hold hwf h trivial
    | shutdown | destroy =>
      simp only [System.step, System.enter] at he
      split at he <;> cases he
      exact frames_hold hwf h trivial
  | callStep c =>
    obtain ⟨call, hh, hstep⟩ := Option.bind_eq_some_iff.mp he
    exact frames_callStep hk hs h hh hstep
  | workerStep c => exact absurd rfl (hworker c)
  | join =>
    simp only [System.step] at he
    split at he <;> cases he
    rename_i hj
    refine frames_dead hwf h hj.2 (fun w hw => by cases hw) ⟨rfl, rfl, rfl, rfl, rfl⟩ rfl rfl
      (fun hin hst => ?_) (.refl _) (.refl _) h.sidecar fun call hc => ?_
    · exact (h.delivered hin hst).keep hwf ⟨rfl, rfl, rfl, rfl, rfl⟩ rfl rfl (.refl _)
    · exact (h.call call hc).keep ⟨rfl, rfl, rfl, rfl, rfl⟩ rfl rfl rfl
  | submit frame =>
    simp only [System.step] at he
    split at he <;> cases he
    rename_i hfree
    exact frames_submit hk hwf h hfree.1 frame
  | submitContended frame =>
    simp only [System.step] at he
    split at he <;> cases he
    exact frames_unseen hwf h (.of_same rfl rfl rfl rfl rfl rfl) rfl rfl
  | captureStep =>
    obtain ⟨call, -, rfl⟩ := Option.map_eq_some_iff.mp he
    unfold System.captureStep
    split
    · exact frames_unseen hwf h ⟨⟨rfl, rfl, .refl _ _⟩, ⟨rfl, rfl, rfl, rfl, rfl⟩, rfl, rfl, rfl,
        rfl, fun hf => hf⟩ rfl rfl
    · split
      · exact frames_unseen hwf h (.of_same rfl rfl rfl rfl rfl rfl) rfl rfl
      · exact frames_unseen hwf h (.of_same rfl rfl rfl rfl rfl rfl) rfl rfl
  | crash =>
    cases he
    exact frames_exit h

end Calls

end NodusVision.Manager
