import NodusVision.Manager.FrameCalls

/-! Every step of the worker keeps the frames. -/
namespace NodusVision.Manager
open Text Storage Disk Program Recording RecordingStore Transition

section Moves
variable {setup : Setup} {s t u : System} {c : Choice} {w : Worker} {pc : WorkerPc}

/-- A call that works beside a worker builds nothing. -/
theorem records_of_worker {call : Call} (hk : s.core.Control) (hw : s.worker = some w)
    (hh : s.holder = some call) : call.Records setup u := by
  have hctl := hk.call hh
  cases call with
  | startPreparing | startWriter | startReleaseWriter | startSidecar | startReleaseSidecar
  | startPublish | startSpawn => cases hw.symm.trans hctl.1.1
  | _ => trivial

/-- A step of the worker to a point where it still runs. -/
theorem frames_moved (hk : s.core.Control) (h : s.Frames setup)
    (hw : s.worker = some w) (hlive : w.pc.isLive = true) (hpc : pc.isLive = true)
    (hw' : t.worker = some { w with pc := pc }) (hh : t.holder = s.holder)
    (hin : t.history.inSession = s.history.inSession)
    (hst : t.impl.state = .finalized → s.impl.state = .finalized)
    (hring : t.impl.queue.WellFormed setup.config.queueCapacityFrames)
    (hstored : ∀ id, Finalized t.machine.disk id → ∃ frames,
      Complete setup.sha256 .finalized (setup.header id) frames t.machine.disk)
    (hsidecar : ∀ v, t.impl.sidecar = some v → OnDisk t.machine.disk v)
    (hpending : pc.Pending t.machine.disk)
    (hrec : s.history.inSession = true → pc.Records setup t w.recordingId)
    (hseals : ∃ frames,
      (s.history.inSession = true → frames = identities t.history.admitted) ∧
        pc.Seals setup t.machine w.recordingId frames) : t.Frames setup := by
  constructor
  · exact hring
  · exact hsidecar
  · intro v hv
    cases hw'.symm.trans hv
    exact hpending
  · intro v _ _ hin' hfinal
    rw [hin] at hin'
    exact h.working w hw hlive hin' (hst hfinal)
  · intro call hc
    rw [hh] at hc
    exact records_of_worker hk hw hc
  · intro v hv hin'
    cases hw'.symm.trans hv
    rw [hin] at hin'
    exact hrec hin'
  · intro v hv
    cases hw'.symm.trans hv
    rw [hin]
    exact hseals
  · intro _ _ hdead
    cases hdead.symm.trans (workerLive_of (s := t) hw' hpc)
  · intro hin' hfinal
    rw [hin] at hin'
    exact absurd (hst hfinal) (h.working w hw hlive hin')
  · exact hstored

/-- Points before the manifest say nothing of the artifact. -/
def WorkerPc.unsealed : WorkerPc → Bool
  | .closing (.manifest _) | .closing .deadline5 | .closing (.activate _) | .closing .publish =>
    false
  | _ => true

theorem WorkerPc.Seals.of_unsealed {m : Machine} {id : ByteString} {frames : List FrameIdentity}
    (h : pc.unsealed = true) : pc.Seals setup m id frames := by
  cases pc with
  | loop | fault | finished => trivial
  | closing k =>
    cases k with
    | manifest | deadline5 | activate | publish => cases h
    | _ => trivial

/-- A plain move of the worker. -/
theorem frames_move (hk : s.core.Control) (h : s.Frames setup)
    (hw : s.worker = some w) (hlive : w.pc.isLive = true) (hpc : pc.isLive = true)
    (hpending : pc.Pending s.machine.disk)
    (hrec : s.history.inSession = true → pc.Records setup (s.moveWorker pc) w.recordingId)
    (hseals : ∃ frames,
      (s.history.inSession = true → frames = identities s.history.admitted) ∧
        pc.Seals setup s.machine w.recordingId frames) : (s.moveWorker pc).Frames setup :=
  frames_moved hk h hw hlive hpc (moveWorker_worker hw pc) rfl rfl (fun hf => hf) h.ring
    h.stored h.sidecar hpending hrec hseals

theorem seals_unsealed {m : Machine} {id : ByteString} {p : Prop} {frames : List FrameIdentity}
    (h : pc.unsealed = true) :
    ∃ frames', (p → frames' = frames) ∧ pc.Seals setup m id frames' :=
  ⟨frames, fun _ => rfl, .of_unsealed h⟩

theorem frames_fault (hk : s.core.Control) (h : s.Frames setup)
    (hw : s.worker = some w) (hlive : w.pc.isLive = true) : (s.moveWorker .fault).Frames setup :=
  frames_move hk h hw hlive rfl trivial (fun _ => trivial) (seals_unsealed rfl)

theorem frames_deadline (hk : s.core.Control) (h : s.Frames setup)
    (hw : s.worker = some w) (hlive : w.pc.isLive = true)
    (hnext : (s.moveWorker pc).Frames setup) : (s.requireDeadline pc).Frames setup := by
  unfold System.requireDeadline
  split
  · exact frames_fault hk h hw hlive
  · exact hnext

/-- One operation of a program of the worker. -/
theorem frames_program {α : Type} {p : StoreProg α} {point : StoreProg α → WorkerPc}
    {onReturn : α → System} {paths : Set ManagedPath} (hk : s.core.Control)
    (hs : s.Storage setup) (h : s.Frames setup) (hw : s.worker = some w)
    (hlive : w.pc.isLive = true) (hpaths : ∀ id, ManagedPath.artifact .finalized id ∉ paths)
    (hpoint : ∀ q, (point q).isLive = true)
    (hop : ∀ o k, p = .op o k → Changes paths s.machine.disk (exec o c s.machine).2.disk)
    (hpending : ∀ o k, p = .op o k → (point (k (exec o c s.machine).1)).Pending s.machine.disk)
    (hrec : ∀ o k, p = .op o k → s.history.inSession = true →
      (point (k (exec o c s.machine).1)).Records setup
        (s.advanceWorker c point onReturn (fun _ => s.moveWorker .fault) p) w.recordingId)
    (hseals : ∀ o k, p = .op o k → ∃ frames,
      (s.history.inSession = true → frames = identities s.history.admitted) ∧
        (point (k (exec o c s.machine).1)).Seals setup (exec o c s.machine).2 w.recordingId frames)
    (hret : ∀ a, p = .pure a → (onReturn a).Frames setup) :
    (s.advanceWorker c point onReturn (fun _ => s.moveWorker .fault) p).Frames setup := by
  cases p with
  | pure a => exact hret a rfl
  | throw e => exact frames_fault hk h hw hlive
  | op o k =>
    have hwf := hs.wellFormed
    have hd := hop o k rfl
    exact frames_moved hk h hw hlive (hpoint _)
      (moveWorker_worker (s := { s with machine := (exec o c s.machine).2 }) hw _) rfl rfl
      (fun hf => hf) h.ring (stored_lawful hwf hd.1 (.of_changes hd hpaths) h.stored)
      (fun v hv => (h.sidecar v hv).lawful hwf hd.1) ((hpending o k rfl).lawful hwf hd.1)
      (hrec o k rfl) (hseals o k rfl)

end Moves

section Loop
variable {setup : Setup} {s t u : System} {c : Choice} {id : ByteString}

theorem Tally.drained {counted : List CapturedFrame} (h : Tally s counted [])
    (hr : s.impl.queue.WellFormed setup.config.queueCapacityFrames)
    (hempty : s.impl.queue.count = 0) : counted = s.history.admitted := by
  have hnil : s.impl.queue.frames = [] := by
    apply List.length_eq_zero_iff.mp
    rw [hr.length_frames, hempty]
  have hframes := h.frames
  rw [hnil, List.append_nil, List.append_nil] at hframes
  exact hframes

/-- The frame at the head goes from the queue to the worker. -/
theorem Tally.take {counted : List CapturedFrame} {frame : CapturedFrame}
    (h : Tally s counted []) (hframes : s.impl.queue.frames = frame :: s.impl.queue.pop.frames)
    (hq : t.impl.queue = s.impl.queue.pop) (ha : t.history.admitted = s.history.admitted)
    (hc : t.impl.counters = s.impl.counters) (hspan : t.impl.span = s.impl.span) :
    Tally t counted [frame] := by
  constructor
  · rw [hq, ha, ← h.frames, hframes, List.append_nil, List.append_assoc]
    rfl
  · rw [hc, ha]
    exact h.admitted
  · rw [hc]
    exact h.submitted
  · rw [hspan]
    exact h.first
  · rw [hspan]
    exact h.last
  · exact h.ordered

/-- The held frame is counted. -/
theorem Tally.count {counted : List CapturedFrame} {frame : CapturedFrame}
    (h : Tally s counted [frame]) (ho : Ordered (identities (counted ++ [frame]))) :
    Tally (s.countFrame frame) (counted ++ [frame]) [] := by
  constructor
  · rw [List.append_nil]
    exact h.frames
  · exact h.admitted
  · show s.impl.counters.submitted + 1 = _
    rw [h.submitted, List.length_append]
    rfl
  · rw [identities_snoc, List.head?_append, h.first]
    show _ = some (if s.impl.span.hasIdentity then s.impl.span.first else frame.identity)
    cases s.impl.span.hasIdentity <;> rfl
  · rw [identities_snoc, List.getLast?_append]
    rfl
  · exact ho

/-- A frame that passes the checks of the worker comes after the counted ones. -/
theorem ordered_of_frameView {counted held : List CapturedFrame} {frame : CapturedFrame}
    {color : VideoFrameView} (h : Tally s counted held)
    (hview : s.frameView frame = some color) : Ordered (identities (counted ++ [frame])) := by
  rw [identities_snoc]
  refine h.ordered.snoc fun last hlast => ?_
  have hspan := h.last
  rw [hlast] at hspan
  cases hid : s.impl.span.hasIdentity with
  | false =>
    rw [hid] at hspan
    cases hspan
  | true =>
    rw [hid] at hspan
    cases hspan
    unfold System.frameView at hview
    split at hview
    · split at hview
      · cases hview
      · rename_i hcheck
        simp only [not_or, not_and, hid, true_implies, Bool.not_eq_false, ne_eq, not_not] at hcheck
        obtain ⟨-, -, hafter, hsame⟩ := hcheck
        simp only [isStrictlyAfter, Bool.or_eq_true, Bool.and_eq_true, decide_eq_true_eq,
          beq_iff_eq, gt_iff_lt] at hafter
        rcases hafter with hlater | ⟨-, hnumber⟩
        · omega
        · exact ⟨hsame.symm, hnumber⟩
    · cases hview

theorem frames_dispatch (hk : s.core.Control) (h : s.Frames setup) {k : LoopPc}
    (hw : s.worker = some ⟨id, .loop k⟩)
    (hready : s.impl.queue.count ≠ 0 ∨ s.impl.stopRequested = true)
    (hrec : s.history.inSession = true → ∃ counted, Tally s counted [] ∧
      s.Encoded counted.length ∧ s.Logged setup id counted) : s.dispatch.Frames setup := by
  unfold System.dispatch
  split
  · rename_i hend
    refine frames_move hk h hw rfl rfl trivial (fun hin => ?_) (seals_unsealed rfl)
    obtain ⟨counted, htally, hencoded, hlogged⟩ := hrec hin
    have hall := htally.drained h.ring hend.1
    subst hall
    exact ⟨htally.keep ⟨rfl, rfl, rfl, rfl, rfl⟩, hencoded, hlogged⟩
  · split
    · rename_i hstay _ frame hfront
      have hne : s.impl.queue.count ≠ 0 := fun hzero =>
        hstay ⟨hzero, hready.resolve_left fun hne => hne hzero⟩
      obtain ⟨frame', hfront', hframes, hring⟩ := h.ring.pop hne
      cases hfront.symm.trans hfront'
      refine frames_moved hk h hw rfl rfl (moveWorker_worker (s := { s with impl := { s.impl with
        queue := s.impl.queue.pop } }) hw _) rfl rfl (fun hf => hf) hring h.stored h.sidecar
        trivial (fun hin => ?_) (seals_unsealed rfl)
      obtain ⟨counted, htally, hencoded, hlogged⟩ := hrec hin
      exact ⟨counted, htally.take hframes rfl rfl rfl rfl, hencoded, hlogged⟩
    · exact frames_fault hk h hw rfl

theorem frames_afterWait (hk : s.core.Control) (h : s.Frames setup) {k : LoopPc}
    (hw : s.worker = some ⟨id, .loop k⟩)
    (hready : s.impl.queue.count ≠ 0 ∨ s.impl.stopRequested = true ∨
      s.impl.durationDeadline ≤ s.machine.steady)
    (hrec : s.history.inSession = true → ∃ counted, Tally s counted [] ∧
      s.Encoded counted.length ∧ s.Logged setup id counted) : s.afterWait.Frames setup := by
  unfold System.afterWait
  split
  · refine frames_move hk h hw rfl rfl trivial (fun hin => ?_) (seals_unsealed rfl)
    obtain ⟨counted, htally, hwriters⟩ := hrec hin
    exact ⟨counted, htally.keep ⟨rfl, rfl, rfl, rfl, rfl⟩, hwriters⟩
  · rename_i hlate
    refine frames_dispatch hk h hw ?_ hrec
    rcases hready with hne | hstop | hdeadline
    · exact .inl hne
    · exact .inr hstop
    · right
      by_contra hrun
      exact hlate ⟨eq_false_of_ne_true hrun, hdeadline⟩

/-- The worker's own closer writes evidence beside its outputs. -/
theorem frames_begin (hk : s.core.Control) (hs : s.Storage setup) (h : s.Frames setup)
    {b : BeginPc} (hw : s.worker = some ⟨id, .loop (.begin b)⟩)
    (hb : b.Storage s.machine s.impl.recordingId .maxDuration) :
    (b.step setup s c .maxDuration (fun s b => s.moveWorker (.loop (.begin b)))
      (fun s => s.moveWorker (.loop .dispatch)) (fun s _ => s.moveWorker .fault)).Frames setup := by
  have hwf := hs.wellFormed
  have hmoved : ∀ {u : System} {pc : WorkerPc}, Aside s u → u.holder = s.holder →
      pc.isLive = true → pc.Pending u.machine.disk → pc.unsealed = true →
      (s.history.inSession = true → pc.Records setup (u.moveWorker pc) id) →
        (u.moveWorker pc).Frames setup := by
    intro u pc hu hh hlive hpending hopen hrec
    refine frames_moved hk h hw rfl hlive ?_ hh hu.inSession hu.finalized ?_ ?_ ?_ hpending hrec
      (seals_unsealed hopen)
    · exact moveWorker_worker (hu.worker.trans hw) pc
    · show u.impl.queue.WellFormed _
      rw [hu.queue]
      exact h.ring
    · exact stored_lawful hwf hu.disk.1 (.of_changes hu.disk final_not_evidence) h.stored
    · intro v hv
      have hv : u.impl.sidecar = some v := hv
      rw [hu.sidecar] at hv
      exact (h.sidecar v hv).lawful hwf hu.disk.1
  have hkept : ∀ {u : System}, Aside s u → s.history.inSession = true →
      ∃ counted, Tally u counted [] ∧ u.Encoded counted.length ∧ u.Logged setup id counted := by
    intro u hu hin
    obtain ⟨counted, htally, hencoded, hlogged⟩ := h.worker _ hw hin
    exact ⟨counted, htally.keep hu.toKeepsTally, Encoded.keep hencoded hu.writer,
      Logged.keep hlogged hu.sidecar hu.disk (sidecar_not_evidence id)⟩
  apply begin_aside hb
  · intro u b' hu hh
    refine hmoved hu hh rfl trivial rfl fun hin => ?_
    obtain ⟨counted, htally, hwriters⟩ := hkept hu hin
    exact ⟨counted, htally.keep ⟨rfl, rfl, rfl, rfl, rfl⟩, hwriters⟩
  · intro u hu hh
    refine hmoved hu hh rfl trivial rfl fun hin => ?_
    obtain ⟨counted, htally, hwriters⟩ := hkept hu hin
    exact ⟨counted, htally.keep ⟨rfl, rfl, rfl, rfl, rfl⟩, hwriters⟩
  · exact fun u e hu hh => hmoved hu hh rfl trivial rfl fun _ => trivial

/-- The loop writes frames. -/
theorem frames_writing {k : LoopPc} {frame : CapturedFrame} (hk : s.core.Control)
    (hs : s.Storage setup) (h : s.Frames setup) (hw : s.worker = some ⟨id, .loop k⟩)
    (hheld : k.held = [frame]) (he : s.loopStep setup c k = some t) : t.Frames setup := by
  have hrec := h.worker _ hw
  have hpending := h.pending _ hw
  have hpc := hs.worker _ hw
  cases k with
  | frameDeadline frame =>
    simp only [System.loopStep] at he
    split at he <;> cases he
    refine frames_deadline hk h hw rfl (frames_move hk h hw rfl rfl trivial (fun hin => ?_)
      (seals_unsealed rfl))
    obtain ⟨counted, htally, hwriters⟩ := hrec hin
    exact ⟨counted, htally.keep ⟨rfl, rfl, rfl, rfl, rfl⟩, hwriters⟩
  | checkFrame frame =>
    simp only [System.loopStep] at he
    split at he <;> cases he
    · rename_i color w hview hwriter
      refine frames_move hk h hw rfl rfl trivial (fun hin => ?_) (seals_unsealed rfl)
      obtain ⟨counted, htally, ⟨v, hv, hcount⟩, hlogged⟩ := hrec hin
      cases hwriter.symm.trans hv
      refine ⟨counted, htally.keep ⟨rfl, rfl, rfl, rfl, rfl⟩, ordered_of_frameView htally hview,
        hlogged, ?_⟩
      refine (w.writeFrame_uses color).mono (fun _ _ => trivial) ?_ fun _ _ => trivial
      rintro _ rfl
      exact ⟨hcount, congrArg (· + 1) hcount⟩
    · exact frames_fault hk h hw rfl
  | writeFrame frame p =>
    cases he
    obtain ⟨-, i, huses⟩ := hpc
    have hd : ∀ o k, p = .op o k →
        Changes {videoPath i} s.machine.disk (exec o c s.machine).2.disk := by
      rintro o k rfl
      exact output_changes (.inl rfl) huses.1 c s.machine
    refine frames_program hk hs h hw rfl (fun j hmem => outputs_keep j (video_subset i hmem))
      (fun _ => rfl) hd (fun _ _ _ => trivial) ?_ (fun _ _ _ => seals_unsealed rfl) ?_
    · rintro o k rfl hin
      obtain ⟨counted, htally, hordered, hlogged, hreturns⟩ := hrec hin
      refine ⟨counted, htally.keep ⟨rfl, rfl, rfl, rfl, rfl⟩, hordered, ?_, hreturns.2 _⟩
      exact Logged.keep hlogged rfl (hd o k rfl) fun hmem => by cases hmem
    · rintro r rfl
      split
      · rename_i v hsidecar
        refine frames_moved hk h hw rfl rfl (moveWorker_worker (s := { s with impl := { s.impl with
          writer := some r.2 } }) hw _) rfl rfl (fun hf => hf) h.ring h.stored h.sidecar ?_
          (fun hin => ?_) (seals_unsealed rfl)
        · refine (v.append_uses _).mono (fun _ _ => trivial) ?_ fun _ _ => trivial
          intro v' hpath
          obtain ⟨j, hj, hdir⟩ := h.sidecar v hsidecar
          exact ⟨j, hpath.trans hj, hdir⟩
        · obtain ⟨counted, htally, hordered, ⟨v', hv', hlisting⟩, -, hcount⟩ := hrec hin
          cases hsidecar.symm.trans hv'
          refine ⟨counted, htally.keep ⟨rfl, rfl, rfl, rfl, rfl⟩, hordered, ⟨r.2, rfl, hcount⟩, ?_⟩
          rw [identities_snoc]
          have hspec : Spec anyChoice evidencePaths
            (Changes {sidecarPath (setup.header id).recordingId})
            (Listing (setup.header id) (identities counted) v)
            (v.append ⟨r.1, r.1, frame.identity⟩) _ _ := append_listing (sidecar_not_evidence id)
          exact hspec s.machine hlisting
      · exact frames_moved hk h hw rfl rfl (moveWorker_worker (s := { s with impl := { s.impl with
          writer := some r.2 } }) hw _) rfl rfl (fun hf => hf) h.ring h.stored h.sidecar trivial
          (fun _ => trivial) (seals_unsealed rfl)
  | appendFrame frame p =>
    cases he
    obtain ⟨-, i, huses⟩ := hpc
    have hd : ∀ o k, p = .op o k →
        Changes {sidecarPath i} s.machine.disk (exec o c s.machine).2.disk := by
      rintro o k rfl
      exact output_changes (.inr rfl) huses.1 c s.machine
    refine frames_program hk hs h hw rfl (fun j hmem => outputs_keep j (sidecar_subset i hmem))
      (fun _ => rfl) hd ?_ ?_ (fun _ _ _ => seals_unsealed rfl) ?_
    · rintro o k rfl
      exact hpending.2 _
    · rintro o k rfl hin
      obtain ⟨counted, htally, hordered, hencoded, hruns⟩ := hrec hin
      exact ⟨counted, htally.keep ⟨rfl, rfl, rfl, rfl, rfl⟩, hordered, hencoded,
        (hruns.op_step c trivial).2⟩
    · rintro r rfl
      refine frames_moved hk h hw rfl rfl (moveWorker_worker (s := { s with impl := { s.impl with
        sidecar := some r } }) hw _) rfl rfl (fun hf => hf) h.ring h.stored ?_ trivial
        (fun hin => ?_) (seals_unsealed rfl)
      · rintro _ ⟨⟩
        exact hpending
      · obtain ⟨counted, htally, hordered, hencoded, hruns⟩ := hrec hin
        exact ⟨counted, htally.keep ⟨rfl, rfl, rfl, rfl, rfl⟩, hordered, hencoded, r, rfl,
          hruns.of_pure⟩
  | countFrame frame =>
    simp only [System.loopStep] at he
    split at he <;> cases he
    refine frames_moved hk h hw rfl rfl (moveWorker_worker (s := s.countFrame frame) hw _) rfl rfl
      (fun hf => hf) h.ring h.stored h.sidecar trivial (fun hin => ?_) (seals_unsealed rfl)
    obtain ⟨counted, htally, hordered, hencoded, hlogged⟩ := hrec hin
    refine ⟨counted ++ [frame], (htally.count hordered).keep ⟨rfl, rfl, rfl, rfl, rfl⟩, ?_, hlogged⟩
    rw [List.length_append]
    exact hencoded
  | acquire | waiting | begin | dispatch => cases hheld

theorem frames_loopStep {k : LoopPc} (hk : s.core.Control) (hs : s.Storage setup)
    (h : s.Frames setup) (hw : s.worker = some ⟨id, .loop k⟩)
    (he : s.loopStep setup c k = some t) : t.Frames setup := by
  have hrec := h.worker _ hw
  cases k with
  | acquire =>
    simp only [System.loopStep] at he
    split at he
    · cases he
    · split at he
      · cases he
        refine frames_move hk h hw rfl rfl trivial (fun hin => ?_) (seals_unsealed rfl)
        obtain ⟨counted, htally, hwriters⟩ := hrec hin
        exact ⟨counted, htally.keep ⟨rfl, rfl, rfl, rfl, rfl⟩, hwriters⟩
      · rename_i hwork
        cases he
        refine frames_afterWait hk h hw ?_ hrec
        by_contra hnone
        rw [not_or, not_or, not_not] at hnone
        exact hwork ⟨eq_false_of_ne_true hnone.2.1, hnone.1⟩
  | waiting =>
    simp only [System.loopStep] at he
    split at he
    · cases he
    · split at he
      · rename_i hready
        cases he
        exact frames_afterWait hk h hw hready hrec
      · cases he
        exact h
  | begin b =>
    cases he
    have hnone : s.holder = none := by
      by_contra hne
      obtain ⟨call, hh⟩ := Option.ne_none_iff_exists'.mp hne
      cases hk.released hh _ hw
    obtain ⟨⟨hid, -⟩, -⟩ : s.core.Session _ ∧ b.Flags s.core := hk.worker hnone hw rfl
    have hid : s.impl.recordingId = id := hid
    have hb := (hs.worker _ hw).2
    refine frames_begin hk hs h hw ?_
    rw [hid]
    exact hb
  | dispatch =>
    cases he
    have hnone : s.holder = none := by
      by_contra hne
      obtain ⟨call, hh⟩ := Option.ne_none_iff_exists'.mp hne
      cases hk.released hh _ hw
    exact frames_dispatch hk h hw (.inr (hk.worker hnone hw rfl).2.2.2) hrec
  | frameDeadline frame | checkFrame frame | writeFrame frame p | appendFrame frame p
  | countFrame frame => exact frames_writing hk hs h hw rfl he

end Loop

section Closing
variable {setup : Setup} {s t u : System} {c : Choice} {id : ByteString}

/-- The paths of a worker whose session was not restored away. -/
theorem session_paths {w : Worker} (hk : s.core.Control) (hw : s.worker = some w)
    (hlive : w.pc.isLive = true) (hin : s.history.inSession = true) :
    s.impl.recordingId = w.recordingId ∧ s.impl.artifactPaths = artifactPaths w.recordingId := by
  obtain ⟨hid, hpaths, -⟩ := session_of_live hk hw hlive hin
  exact ⟨hid, hpaths⟩

/-- The writers are closed and their files measured. -/
theorem frames_finishing {k : ClosingPc} (hk : s.core.Control) (hs : s.Storage setup)
    (h : s.Frames setup) (hw : s.worker = some ⟨id, .closing k⟩)
    (hopen : WorkerPc.unsealed (.closing k) = true)
    (hmanifest : ∀ manifest video lines, k ≠ .writeManifest manifest video lines)
    (he : s.closingStep setup c k = some t) : t.Frames setup := by
  have hwf := hs.wellFormed
  have hrec := h.worker _ hw
  have hpending := h.pending _ hw
  have hpc := hs.worker _ hw
  have hreads : ∀ {α : Type} {p : StoreProg α}, p.Uses Reads (fun _ => True) (fun _ => True) →
      ∀ o k, p = .op o k → (exec o c s.machine).2 = s.machine := by
    rintro α p huses o k rfl
    exact huses.1 c s.machine
  cases k with
  | deadline1 =>
    change (if s.holder.isSome = true then none else _) = some t at he
    split at he
    · cases he
    · split at he <;> cases he
      · rename_i w hwriter
        refine frames_deadline hk h hw rfl (frames_move hk h hw rfl rfl trivial (fun hin => ?_)
          (seals_unsealed rfl))
        obtain ⟨hdrained, ⟨v, hv, hcount⟩, hlogged⟩ := hrec hin
        cases hwriter.symm.trans hv
        refine ⟨hdrained.keep ⟨rfl, rfl, rfl, rfl, rfl⟩, hlogged, ?_⟩
        refine w.finalize_uses.mono (fun _ _ => trivial) ?_ fun _ _ => trivial
        rintro _ rfl
        exact hcount
      · exact frames_fault hk h hw rfl
  | writer p =>
    cases he
    obtain ⟨-, i, huses⟩ := hpc
    have hd : ∀ o k, p = .op o k →
        Changes {videoPath i} s.machine.disk (exec o c s.machine).2.disk := by
      rintro o k rfl
      exact output_changes (.inl rfl) huses.1 c s.machine
    refine frames_program hk hs h hw rfl (fun j hmem => outputs_keep j (video_subset i hmem))
      (fun _ => rfl) hd (fun _ _ _ => trivial) ?_ (fun _ _ _ => seals_unsealed rfl) ?_
    · rintro o k rfl hin
      obtain ⟨hdrained, hlogged, hreturns⟩ := hrec hin
      refine ⟨hdrained.keep ⟨rfl, rfl, rfl, rfl, rfl⟩, ?_, hreturns.2 _⟩
      exact Logged.keep hlogged rfl (hd o k rfl) fun hmem => by cases hmem
    · rintro r rfl
      refine frames_moved hk h hw rfl rfl (moveWorker_worker (s := { s with impl := { s.impl with
        writer := some r } }) hw _) rfl rfl (fun hf => hf) h.ring h.stored h.sidecar trivial
        (fun hin => ?_) (seals_unsealed rfl)
      obtain ⟨hdrained, hlogged, hcount⟩ := hrec hin
      exact ⟨hdrained.keep ⟨rfl, rfl, rfl, rfl, rfl⟩, ⟨r, rfl, hcount⟩, hlogged⟩
  | deadline2 =>
    change (if s.holder.isSome = true then none else _) = some t at he
    split at he
    · cases he
    · split at he <;> cases he
      · rename_i w hsidecar
        refine frames_deadline hk h hw rfl (frames_move hk h hw rfl rfl ?_ (fun hin => ?_)
          (seals_unsealed rfl))
        · refine w.finalize_uses.mono (fun _ _ => trivial) ?_ fun _ _ => trivial
          intro v hpath
          obtain ⟨j, hj, hdir⟩ := h.sidecar w hsidecar
          exact ⟨j, hpath.trans hj, hdir⟩
        · obtain ⟨hdrained, hencoded, v, hv, hlisting⟩ := hrec hin
          cases hsidecar.symm.trans hv
          have hspec : Spec anyChoice ∅ (Changes {sidecarPath (setup.header id).recordingId})
            (Listing (setup.header id) (identities s.history.admitted) w) w.finalize _ _ :=
            finalize_listing
          exact ⟨hdrained.keep ⟨rfl, rfl, rfl, rfl, rfl⟩, hencoded, hspec s.machine hlisting⟩
      · exact frames_fault hk h hw rfl
  | sidecar p =>
    cases he
    obtain ⟨-, i, huses⟩ := hpc
    have hd : ∀ o k, p = .op o k →
        Changes {sidecarPath i} s.machine.disk (exec o c s.machine).2.disk := by
      rintro o k rfl
      exact output_changes (.inr rfl) huses.1 c s.machine
    refine frames_program hk hs h hw rfl (fun j hmem => outputs_keep j (sidecar_subset i hmem))
      (fun _ => rfl) hd ?_ ?_ (fun _ _ _ => seals_unsealed rfl) ?_
    · rintro o k rfl
      exact hpending.2 _
    · rintro o k rfl hin
      obtain ⟨hdrained, hencoded, hruns⟩ := hrec hin
      exact ⟨hdrained.keep ⟨rfl, rfl, rfl, rfl, rfl⟩, hencoded, (hruns.op_step c trivial).2⟩
    · rintro r rfl
      refine frames_moved hk h hw rfl rfl (moveWorker_worker (s := { s with impl := { s.impl with
        sidecar := some r } }) hw _) rfl rfl (fun hf => hf) h.ring h.stored ?_ trivial
        (fun hin => ?_) (seals_unsealed rfl)
      · rintro _ ⟨⟩
        exact hpending
      · obtain ⟨hdrained, hencoded, hruns⟩ := hrec hin
        exact ⟨hdrained.keep ⟨rfl, rfl, rfl, rfl, rfl⟩, hencoded, hruns.of_pure⟩
  | deadline3 =>
    change (if s.holder.isSome = true then none else _) = some t at he
    split at he <;> cases he
    refine frames_deadline hk h hw rfl (frames_move hk h hw rfl rfl trivial (fun hin => ?_)
      (seals_unsealed rfl))
    obtain ⟨hdrained, hfiles⟩ := hrec hin
    exact ⟨hdrained.keep ⟨rfl, rfl, rfl, rfl, rfl⟩, hfiles⟩
  | readDeadline =>
    change (if s.holder.isSome = true then none else _) = some t at he
    split at he <;> cases he
    refine frames_move hk h hw rfl rfl trivial (fun hin => ?_) (seals_unsealed rfl)
    obtain ⟨hdrained, hencoded, hlisted⟩ := hrec hin
    refine ⟨hdrained.keep ⟨rfl, rfl, rfl, rfl, rfl⟩, hencoded, ?_⟩
    rw [(session_paths hk hw rfl hin).2]
    exact digest_describes hwf hlisted
  | digestVideo deadline p =>
    cases he
    have hsame := hreads hpc.2
    refine frames_program hk hs h hw rfl (fun (_ : ByteString) => Set.notMem_empty _)
      (fun _ => rfl) ?_ (fun _ _ _ => trivial) ?_ (fun _ _ _ => seals_unsealed rfl) ?_
    · intro o k hp
      rw [hsame o k hp]
      exact .refl _ _
    · rintro o k rfl hin
      obtain ⟨hdrained, hencoded, hruns⟩ := hrec hin
      exact ⟨hdrained.keep ⟨rfl, rfl, rfl, rfl, rfl⟩, hencoded, (hruns.op_step c trivial).2⟩
    · rintro video rfl
      refine frames_move hk h hw rfl rfl trivial (fun hin => ?_) (seals_unsealed rfl)
      obtain ⟨hdrained, hencoded, hruns⟩ := hrec hin
      refine ⟨hdrained.keep ⟨rfl, rfl, rfl, rfl, rfl⟩, hencoded, ?_⟩
      rw [(session_paths hk hw rfl hin).2]
      have hfiles : Describes setup.sha256 .staging id .video video s.machine.disk ∧
          Listed (setup.header id) (identities s.history.admitted) s.machine.disk := hruns.of_pure
      exact digest_describes (P := fun d => Describes setup.sha256 .staging id .video video d ∧
        Listed (setup.header id) (identities s.history.admitted) d) hwf hfiles
  | digestSidecar video p =>
    cases he
    have hsame := hreads hpc.2
    refine frames_program hk hs h hw rfl (fun (_ : ByteString) => Set.notMem_empty _)
      (fun _ => rfl) ?_ (fun _ _ _ => trivial) ?_ (fun _ _ _ => seals_unsealed rfl) ?_
    · intro o k hp
      rw [hsame o k hp]
      exact .refl _ _
    · rintro o k rfl hin
      obtain ⟨hdrained, hencoded, hruns⟩ := hrec hin
      exact ⟨hdrained.keep ⟨rfl, rfl, rfl, rfl, rfl⟩, hencoded, (hruns.op_step c trivial).2⟩
    · rintro lines rfl
      refine frames_move hk h hw rfl rfl trivial (fun hin => ?_) (seals_unsealed rfl)
      obtain ⟨hdrained, hencoded, hruns⟩ := hrec hin
      exact ⟨hdrained.keep ⟨rfl, rfl, rfl, rfl, rfl⟩, hencoded, hruns.of_pure⟩
  | deadline4 video lines =>
    change (if s.holder.isSome = true then none else _) = some t at he
    split at he <;> cases he
    refine frames_deadline hk h hw rfl (frames_move hk h hw rfl rfl trivial (fun hin => ?_)
      (seals_unsealed rfl))
    obtain ⟨hdrained, hfiles⟩ := hrec hin
    exact ⟨hdrained.keep ⟨rfl, rfl, rfl, rfl, rfl⟩, hfiles⟩
  | snapshot video lines =>
    change (if s.holder.isSome = true then none else _) = some t at he
    split at he <;> cases he
    refine frames_moved hk h hw rfl rfl (moveWorker_worker hw _) rfl rfl (fun hf => hf) h.ring
      h.stored h.sidecar trivial (fun hin => ?_) (seals_unsealed rfl)
    obtain ⟨hdrained, hencoded, hfiles⟩ := hrec hin
    refine ⟨hdrained.keep ⟨rfl, rfl, rfl, rfl, rfl⟩, hencoded,
      ⟨(session_paths hk hw rfl hin).1, ?_⟩, hfiles⟩
    constructor
    · exact hdrained.admitted.trans (length_identities _).symm
    · exact hdrained.submitted.trans (length_identities _).symm
    · exact hdrained.first
    · exact hdrained.last
  | writeManifest manifest video lines => exact absurd rfl (hmanifest manifest video lines)
  | manifest | deadline5 | activate | publish => cases hopen

theorem serialized_text {manifest : FinalizedRecordingManifest}
    {video sidecar : RecordingArtifactDigest} {contents : ByteString}
    (h : serializeFinalizedRecordingManifest manifest video sidecar = .ok contents) :
    contents = manifestText manifest video sidecar := by
  unfold serializeFinalizedRecordingManifest at h
  split at h
  · cases h
  · exact (Except.ok.inj h).symm

/-- Where an artifact is complete, its directory is. -/
theorem complete_directory {m : ManagedDirectory} {frames : List FrameIdentity} {d : Disk}
    (h : Complete setup.sha256 m (setup.header id) frames d) (hw : d.WellFormed) :
    d (.artifact m id) = some .directory := by
  refine (hw.entry_regular m id (.file .sidecar) ?_).2
  rw [show d (.entry m id (.file .sidecar)) = _ from h.listed]
  exact Option.some_ne_none _

/-- Activation moves a complete artifact as a whole. -/
theorem complete_activates {k : ManagedDirectory} {frames : List FrameIdentity} {d d' : Disk}
    (h : Complete setup.sha256 k (setup.header id) frames d) (hw : d.WellFormed)
    (ha : Activates id d d') :
    ∃ k', Complete setup.sha256 k' (setup.header id) frames d' := by
  rcases ha with rfl | ⟨hstaging, hfree, -, hmove⟩
  · exact ⟨k, h⟩
  · cases k with
    | staging => exact ⟨.finalized, h.activated hmove⟩
    | finalized => cases hfree.symm.trans (complete_directory h hw)

theorem complete_finalized {k : ManagedDirectory} {frames : List FrameIdentity} {d : Disk}
    (h : Complete setup.sha256 k (setup.header id) frames d) (hw : d.WellFormed)
    (hf : Finalized d id) : Complete setup.sha256 .finalized (setup.header id) frames d := by
  cases k with
  | finalized => exact h
  | staging => cases (hf.not_staged hw).symm.trans (complete_directory h hw)

/-- The manifest is written and the artifact moved. -/
theorem frames_sealing {k : ClosingPc} (hk : s.core.Control) (hs : s.Storage setup)
    (h : s.Frames setup) (hw : s.worker = some ⟨id, .closing k⟩)
    (hsealed : WorkerPc.unsealed (.closing k) = false) (hpublish : k ≠ .publish)
    (he : s.closingStep setup c k = some t) : t.Frames setup := by
  have hwf := hs.wellFormed
  have hrec := h.worker _ hw
  have hseals := h.seals _ hw
  have hpc := hs.worker _ hw
  cases k with
  | manifest p =>
    cases he
    obtain ⟨-, hwrites⟩ := hpc
    obtain ⟨frames, hframes, hruns⟩ := hseals
    refine frames_program hk hs h hw rfl (fun j => written_keeps id .manifest j) (fun _ => rfl) ?_
      (fun _ _ _ => trivial) ?_ ?_ ?_
    · rintro o k rfl
      exact (hwrites.op_step c trivial).1
    · rintro o k rfl hin
      obtain ⟨hdrained, hencoded⟩ := hrec hin
      exact ⟨hdrained.keep ⟨rfl, rfl, rfl, rfl, rfl⟩, hencoded⟩
    · rintro o k rfl
      exact ⟨frames, hframes, (hruns.op_step c trivial).2⟩
    · rintro a rfl
      have hdone : Runs ∅ (Changes (writtenPaths id .manifest)) (.pure a)
        (fun _ => Complete setup.sha256 .staging (setup.header id) frames) s.machine := hruns
      refine frames_move hk h hw rfl rfl trivial (fun hin => ?_) ⟨frames, hframes, hdone.of_pure⟩
      obtain ⟨hdrained, hencoded⟩ := hrec hin
      exact ⟨hdrained.keep ⟨rfl, rfl, rfl, rfl, rfl⟩, hencoded⟩
  | deadline5 =>
    change (if s.holder.isSome = true then none else _) = some t at he
    split at he <;> cases he
    obtain ⟨frames, hframes, hcomplete⟩ := hseals
    refine frames_deadline hk h hw rfl (frames_move hk h hw rfl rfl trivial (fun hin => ?_)
      ⟨frames, hframes, .staging, hcomplete⟩)
    obtain ⟨hdrained, hencoded⟩ := hrec hin
    exact ⟨hdrained.keep ⟨rfl, rfl, rfl, rfl, rfl⟩, hencoded⟩
  | activate p =>
    cases he
    obtain ⟨-, hactivates⟩ := hpc
    obtain ⟨frames, hframes, place, hcomplete⟩ := hseals
    cases p with
    | pure a =>
      refine frames_move hk h hw rfl rfl trivial (fun hin => ?_)
        ⟨frames, hframes, place, hcomplete⟩
      obtain ⟨hdrained, hencoded⟩ := hrec hin
      exact ⟨hdrained.keep ⟨rfl, rfl, rfl, rfl, rfl⟩, hencoded⟩
    | throw e => exact frames_fault hk h hw rfl
    | op o k =>
      have ha : Activates id s.machine.disk (exec o c s.machine).2.disk :=
        (hactivates.op_step c trivial).1
      have hl := ha.changes.1
      obtain ⟨place', hcomplete'⟩ := complete_activates hcomplete hwf ha
      refine frames_moved hk h hw rfl rfl
        (moveWorker_worker (s := { s with machine := (exec o c s.machine).2 }) hw _) rfl rfl
        (fun hf => hf) h.ring ?_ (fun v hv => (h.sidecar v hv).lawful hwf hl) trivial
        (fun hin => ?_) ⟨frames, hframes, place', hcomplete'⟩
      · intro i hi
        by_cases hid : i = id
        · subst hid
          exact ⟨frames, complete_finalized hcomplete' (hl hwf).1 hi⟩
        · have hsame : (exec o c s.machine).2.disk (.artifact .finalized i) =
              s.machine.disk (.artifact .finalized i) := by
            rcases ha with hd | ⟨-, -, -, hd⟩
            · rw [hd]
            · simp [hd, moveArtifact, hid]
          obtain ⟨old, hold⟩ := h.stored i (hsame.symm.trans hi)
          exact ⟨old, hold.lawful hwf hl⟩
      · obtain ⟨hdrained, hencoded⟩ := hrec hin
        exact ⟨hdrained.keep ⟨rfl, rfl, rfl, rfl, rfl⟩, hencoded⟩
  | publish => exact absurd rfl hpublish
  | _ => cases hsealed

theorem frames_writeManifest {manifest : FinalizedRecordingManifest}
    {video lines : RecordingArtifactDigest} (hk : s.core.Control) (hs : s.Storage setup)
    (h : s.Frames setup)
    (hw : s.worker = some ⟨id, .closing (.writeManifest manifest video lines)⟩)
    (he : s.closingStep setup c (.writeManifest manifest video lines) = some t) :
    t.Frames setup := by
  have hwf := hs.wellFormed
  have hrec := h.worker _ hw
  rw [closingStep_writeManifest] at he
  split at he <;> cases he
  · rename_i contents hcontents
    have htext := serialized_text hcontents
    subst htext
    refine frames_move hk h hw rfl rfl trivial (fun hin => ?_) ?_
    · obtain ⟨hdrained, hencoded, -⟩ := hrec hin
      exact ⟨hdrained.keep ⟨rfl, rfl, rfl, rfl, rfl⟩, hencoded⟩
    · cases hin : s.history.inSession with
      | true =>
        obtain ⟨hdrained, -, ⟨hid, hreports⟩, hlines, hvideo, hlisted⟩ := hrec hin
        refine ⟨_, fun _ => rfl, ?_⟩
        rw [(session_paths hk hw rfl hin).2]
        exact writeFinalizedManifest_complete hwf hlisted hdrained.ordered hid hreports hvideo hlines
      | false =>
        -- The restored paths are those of a finalized artifact, so the write fails.
        obtain ⟨y, hpaths, hfinal⟩ := hs.displaced _ hw rfl hin
        refine ⟨[], fun hfalse => ?_, ?_⟩
        · cases hfalse
        rw [hpaths]
        have hspec : Spec anyChoice ∅ Unchanged (fun d => d (.artifact .staging y) = none)
            (writeFinalizedManifest (artifactPaths y) (manifestText manifest video lines))
            (fun _ _ => False) fun _ _ => True := writeFinalizedManifest_absent fun _ _ _ => trivial
        refine Prog.Safe.weaken (I := sharing ∅ Unchanged) (fun _ _ h => h) (fun m m' hu => ?_)
          ((hspec s.machine (hfinal.not_staged hwf)).mono (fun _ _ h => h.elim) fun _ _ h => h)
        have hu : m'.disk = m.disk := hu
        change Changes _ m.disk m'.disk
        rw [hu]
        exact .refl _ _
  · exact frames_fault hk h hw rfl

/-- The artifact is reported. -/
theorem frames_published (hk : s.core.Control) (hs : s.Storage setup) (h : s.Frames setup)
    (hw : s.worker = some ⟨id, .closing .publish⟩) (hh : s.holder = none) :
    ((s.setState .finalized).moveWorker .finished).Frames setup := by
  have hrec := h.worker _ hw
  have hdone := moveWorker_worker (s := s.setState .finalized) hw .finished
  have hkept : KeepsTally s ((s.setState .finalized).moveWorker .finished) :=
    ⟨rfl, rfl, rfl, rfl, rfl⟩
  constructor
  · exact h.ring
  · exact h.sidecar
  · intro v hv
    cases hdone.symm.trans hv
    trivial
  · intro v hv hlive
    cases hdone.symm.trans hv
    cases hlive
  · intro call hc
    cases hh.symm.trans hc
  · intro v hv _
    cases hdone.symm.trans hv
    trivial
  · intro v hv
    cases hdone.symm.trans hv
    exact seals_unsealed rfl
  · intro hin _ _
    exact (hrec hin).1.keep hkept
  · intro hin _
    obtain ⟨hdrained, hencoded⟩ := hrec hin
    obtain ⟨frames, hframes, place, hcomplete⟩ := h.seals _ hw
    rw [hframes hin] at hcomplete
    refine ⟨hdrained.keep hkept, hencoded, ?_⟩
    have hid : s.impl.recordingId = id := (session_paths hk hw rfl hin).1
    show Complete _ _ (setup.header s.impl.recordingId) _ _
    rw [hid]
    exact complete_finalized hcomplete hs.wellFormed (hs.worker _ hw)
  · exact h.stored

theorem frames_closingStep {k : ClosingPc} (hk : s.core.Control) (hs : s.Storage setup)
    (h : s.Frames setup) (hw : s.worker = some ⟨id, .closing k⟩)
    (he : s.closingStep setup c k = some t) : t.Frames setup := by
  cases k with
  | writeManifest => exact frames_writeManifest hk hs h hw he
  | manifest | deadline5 | activate =>
    exact frames_sealing hk hs h hw rfl (fun hpc => by cases hpc) he
  | publish =>
    change (if s.holder.isSome = true then none else _) = some t at he
    split at he
    · cases he
    · rename_i hh
      cases he
      exact frames_published hk hs h hw (Option.not_isSome_iff_eq_none.mp hh)
  | _ => exact frames_finishing hk hs h hw rfl (fun _ _ _ hpc => by cases hpc) he

/-- A caught fault says nothing of the frames. -/
theorem frames_caught (h : s.Frames setup) (hw : s.worker = some ⟨id, .fault⟩)
    (hh : s.holder = none) : s.workerCatch.Frames setup := by
  have hdone : s.workerCatch.worker = some ⟨id, .finished⟩ := moveWorker_worker (s := { s with
    impl := { s.impl with state := .faulted, admitting := false, stopRequested := true }
    history := { s.history.store .faulted with workerFaulted := true } }) hw .finished
  constructor
  · exact h.ring
  · exact h.sidecar
  · intro v hv
    cases hdone.symm.trans hv
    trivial
  · intro v hv hlive
    cases hdone.symm.trans hv
    cases hlive
  · intro call hc
    cases hh.symm.trans hc
  · intro v hv _
    cases hdone.symm.trans hv
    trivial
  · intro v hv
    cases hdone.symm.trans hv
    exact seals_unsealed rfl
  · intro _ hf _
    cases hf
  · intro _ hfinal
    cases hfinal
  · exact h.stored

theorem frames_workerStep {w : Worker} (hk : s.core.Control) (hs : s.Storage setup)
    (h : s.Frames setup) (hw : s.worker = some w) (he : s.workerStep setup c w.pc = some t) :
    t.Frames setup := by
  obtain ⟨i, pc⟩ := w
  cases pc with
  | loop k => exact frames_loopStep hk hs h hw he
  | closing k => exact frames_closingStep hk hs h hw he
  | fault =>
    simp only [System.workerStep] at he
    split at he
    · cases he
    · rename_i hh
      cases he
      exact frames_caught h hw (Option.not_isSome_iff_eq_none.mp hh)
  | finished => cases he

end Closing

section Runs
variable {setup : Setup} {s t : System}

theorem frames_step {e : Event} (hk : s.core.Control) (hs : s.Storage setup) (h : s.Frames setup)
    (he : s.step setup e = some t) : t.Frames setup := by
  cases e with
  | workerStep c =>
    obtain ⟨w, hw, hstep⟩ := Option.bind_eq_some_iff.mp he
    exact frames_workerStep hk hs h hw hstep
  | _ => exact frames_other hk hs h (fun _ heq => by cases heq) he

theorem frames_initial (h : IsInitial setup s) : s.Frames setup := by
  obtain ⟨machine, hfresh, rfl⟩ := h
  constructor
  · refine FrameRing.wellFormed_empty ?_
    have hvalid := setup.valid
    simp only [RecordingManagerConfig.isValid, Bool.and_eq_true, bne_iff_ne] at hvalid
    omega
  · intro w hw
    cases hw
  · intro w hw
    cases hw
  · intro w hw
    cases hw
  · intro call hc
    cases hc
  · intro w hw
    cases hw
  · intro w hw
    cases hw
  · intro hin
    cases hin
  · intro hin
    cases hin
  · intro id hid
    cases (hfresh.1 .finalized id).symm.trans hid

theorem frames_reachable {ok : System → Event → System → Prop}
    (h : Reach (IsInitial setup) (System.step setup) ok s) : s.Frames setup :=
  h.invariant _ (fun _ hs => frames_initial hs) fun _ _ _ hs hi he _ =>
    frames_step (control_reachable hs) (storage_reachable hs) hi he

end Runs

end NodusVision.Manager
