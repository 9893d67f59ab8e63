import NodusVision.Guarantees.FrameAccounting
import NodusVision.Manager.Unhindered
import NodusVision.Transition.Fair

/-! A closed recording is drained: its worker comes to an end in every fair run, and finalizes the
recording unless something outside of the recorder fails. -/
namespace NodusVision.Guarantees
open Text Storage Program Recording Manager Transition

def IsWorkerStep (e : Event) : Prop := ∃ c, e = .workerStep c

/-- How the draining of a recording ends. -/
inductive DrainEnd (setup : Setup) (s : System) (e : Event) (t : System) : Prop
  | finalized (ht : t.impl.state = .finalized) (ha : ArtifactAgrees setup t)
  | faulted (hw : ∃ w, s.worker = some w ∧ w.pc = .fault) (ht : t.impl.state = .faulted)
  | exited (h : e = .crash)

/-- The recording drains in the first steps of a run, and its draining ends with the next one. -/
structure DrainsFor (state : ℕ → System) (frames : List CapturedFrame) (n : ℕ) : Prop where
  draining : ∀ i ≤ n, (state i).Draining
  admitted : ∀ i ≤ n, (state i).history.admitted = frames

/-- The worker is scheduled again and again as long as it drains the recording. -/
def WorkerFair (state : ℕ → System) : (ℕ → Event) → Prop :=
  Fair (fun i => (state i).Draining) IsWorkerStep

/-- The worker is in its loop, and it has no exception to handle. -/
def InLoop (s : System) : Prop :=
  ∃ w k, s.worker = some w ∧ w.pc = .loop k ∧ ¬w.pc.program.Throws

/-- While the recording drains, nothing outside of the recorder goes wrong. -/
def UnhinderedRun (setup : Setup) (state : ℕ → System) (event : ℕ → Event) : Prop :=
  ∀ i, (state i).Draining → Unhindered setup (state i) (event i)

/-- A closed recording that is not yet finalized. -/
structure RecordingDrains (setup : Setup) (s : System) : Prop where
  works : ∀ c, s.holder = none → (s.step setup (.workerStep c)).isSome = true
  releases : ∀ c, s.holder ≠ none → (s.step setup (.callStep c)).isSome = true
  awake : ∀ c t w, s.step setup (.workerStep c) = some t → t.worker = some w →
    w.pc ≠ .loop .waiting
  runs : s.holder = none → ∃ state event, IsRun (System.step setup) state event ∧ state 0 = s ∧
    WorkerFair state event ∧ (Calm setup s → UnhinderedRun setup state event)
  ends : ∀ state event, IsRun (System.step setup) state event → state 0 = s →
    WorkerFair state event → ∃ n, DrainsFor state s.history.admitted n ∧
      DrainEnd setup (state n) (event n) (state (n + 1))
  finalizes : ∀ state event, IsRun (System.step setup) state event → state 0 = s →
    WorkerFair state event → InLoop s → UnhinderedRun setup state event →
      ∃ n, DrainsFor state s.history.admitted n ∧ (state (n + 1)).impl.state = .finalized ∧
        ArtifactAgrees setup (state (n + 1))

section Steps
variable {setup : Setup} {s t : System} {c : Choice} {e : Event}

theorem drain_of_step (hk : s.core.Control) (hd : s.Draining)
    (he : s.step setup (.workerStep c) = some t) :
    ∃ w, s.worker = some w ∧ s.history.inSession = true ∧ DrainStep s t w := by
  obtain ⟨w, hw, ⟨-, -, hin⟩, hstop⟩ := draining_session hk hd
  obtain ⟨v, hv, hstep⟩ := Option.bind_eq_some_iff.mp he
  cases hw.symm.trans hv
  exact ⟨w, hw, hin, drain_step hd hstop hw hstep⟩

/-- Where the worker of a system is. -/
def stageOf (s : System) : ℕ × ℕ × StoreProg Unit :=
  match s.worker with
  | some w => w.pc.stage s.impl.queue.count
  | none => (s.impl.queue.count, 0, .pure ())

theorem stageOf_eq {w : Worker} (hw : s.worker = some w) :
    stageOf s = w.pc.stage s.impl.queue.count := by
  unfold stageOf
  rw [hw]

/-- A step goes on with the draining, or ends it. -/
theorem drain_next (hr : Reach (IsInitial setup) (System.step setup) anyStep s) (hd : s.Draining)
    (he : s.step setup e = some t) :
    t.Draining ∧ t.history.admitted = s.history.admitted ∧
        (stageOf t = stageOf s ∧ ¬IsWorkerStep e ∨ Lower (stageOf t) (stageOf s)) ∨
      ¬t.Draining ∧ DrainEnd setup s e t := by
  have hk := control_reachable hr
  by_cases hworker : IsWorkerStep e
  · obtain ⟨c, rfl⟩ := hworker
    obtain ⟨w, hw, hin, hstep⟩ := drain_of_step hk hd he
    cases hstep with
    | on pc hw' hkeeps hlower hpc =>
      refine .inl ⟨⟨hkeeps.state.trans hd.finalizing, ?_, ?_⟩, hkeeps.admitted, .inr ?_⟩
      · rw [hkeeps.holder]
        exact hd.call
      · intro v hv
        cases hw'.symm.trans hv
        exact drains_of_busy hpc
      · rw [stageOf_eq hw', stageOf_eq hw]
        exact hlower
    | published hpc ht =>
      have hf := frames_reachable (hr.next he trivial)
      subst ht
      refine .inr ⟨fun hd' => ?_, .finalized rfl (agrees_of_frames hf hin rfl)⟩
      cases hd'.finalizing
    | caught hpc ht =>
      subst ht
      refine .inr ⟨fun hd' => ?_, .faulted ⟨w, hw, hpc⟩ rfl⟩
      cases hd'.finalizing
  · by_cases hcrash : e = .crash
    · subst hcrash
      cases he
      refine .inr ⟨fun hd' => ?_, .exited rfl⟩
      cases hd'.finalizing
    · have hrests := rests_other hk (storage_reachable hr) hd (fun c hc => hworker ⟨c, hc⟩)
        hcrash he
      refine .inl ⟨hrests.draining, hrests.admitted, .inl ⟨?_, hworker⟩⟩
      unfold stageOf
      rw [hrests.worker, hrests.queue]

/-- An unhindered step leaves a sound worker sound, as long as the recording drains. -/
theorem sound_next (hr : Reach (IsInitial setup) (System.step setup) anyStep s) (hd : s.Draining)
    (hsound : ∀ w, s.worker = some w → w.pc.Sound s w.recordingId) (hu : Unhindered setup s e)
    (hd' : t.Draining) (hcalm : Calm setup t) (he : s.step setup e = some t) :
    ∀ w, t.worker = some w → w.pc.Sound t w.recordingId := by
  have hk := control_reachable hr
  by_cases hworker : IsWorkerStep e
  · obtain ⟨c, rfl⟩ := hworker
    obtain ⟨w, hw, ⟨-, -, hin⟩, hstop⟩ := draining_session hk hd
    obtain ⟨v, hv, hstep⟩ := Option.bind_eq_some_iff.mp he
    cases hw.symm.trans hv
    rcases soundly_work hk (storage_reachable hr) (frames_reachable hr) (sized_reachable hr)
      (equipped_reachable hr) hd (validId_reachable hr hin) hin hstop hw (hsound w hw) hu hstep with
      ⟨pc, hw', hpc⟩ | hpublish
    · intro v hv
      cases hw'.symm.trans hv
      exact hpc
    · rw [hpublish] at hstep
      change (if s.holder.isSome = true then none else _) = some t at hstep
      split at hstep <;> cases hstep
      cases hd'.finalizing
  · have hrests := rests_other hk (storage_reachable hr) hd (fun c hc => hworker ⟨c, hc⟩)
      hu.stays he
    rw [hrests.worker]
    exact fun w hw => (hsound w hw).keep hrests.disk hrests.deadline hcalm.early

/-- The worker of a draining recording can go on, unless a call holds the mutex. -/
theorem worker_enabled (hk : s.core.Control) (hd : s.Draining) (hh : s.holder = none) :
    (s.step setup (.workerStep c)).isSome = true := by
  obtain ⟨⟨id, pc⟩, hw, -⟩ := draining_session hk hd
  have hdrains := hd.worker _ hw
  have hfree : ¬s.holder.isSome = true := by
    rw [hh]
    exact fun h => by cases h
  have hgoes : s.step setup (.workerStep c) = s.workerStep setup c pc := by
    simp only [System.step, hw, Option.bind_some]
  rw [hgoes]
  cases pc with
  | loop k =>
    cases k with
    | acquire | waiting =>
      change (if s.holder.isSome = true then none else _).isSome = true
      rw [if_neg hfree]
      split <;> rfl
    | frameDeadline | countFrame =>
      change (if s.holder.isSome = true then none else _).isSome = true
      rw [if_neg hfree]
      rfl
    | checkFrame frame =>
      simp only [System.workerStep, System.loopStep]
      split <;> rfl
    | _ => rfl
  | closing k =>
    cases k with
    | deadline1 | deadline2 =>
      change (if s.holder.isSome = true then none else _).isSome = true
      rw [if_neg hfree]
      split <;> rfl
    | deadline3 | readDeadline | deadline4 | snapshot | deadline5 | publish =>
      change (if s.holder.isSome = true then none else _).isSome = true
      rw [if_neg hfree]
      rfl
    | writeManifest manifest video lines =>
      change (s.closingStep setup c (.writeManifest manifest video lines)).isSome = true
      rw [closingStep_writeManifest]
      split <;> rfl
    | _ => rfl
  | fault =>
    change (if s.holder.isSome = true then none else _).isSome = true
    rw [if_neg hfree]
    rfl
  | finished => cases hdrains

/-- The call that holds the mutex can go on. -/
theorem call_enabled {call : Call} (hk : s.core.Control) (hd : s.Draining)
    (hh : s.holder = some call) : (s.step setup (.callStep c)).isSome = true := by
  have hctl := hk.call hh
  have hgoes : s.step setup (.callStep c) = s.callStep setup c call := by
    simp only [System.step, hh, Option.bind_some]
  rw [hgoes]
  cases call with
  | startJoining =>
    have hinactive : s.impl.state.isActive = false := hctl.2
    rw [hd.finalizing] at hinactive
    cases hinactive
  | startSpawn =>
    simp only [System.callStep]
    split <;> rfl
  | _ => rfl

theorem drain_holder {w : Worker} (h : DrainStep s t w) : t.holder = s.holder := by
  cases h with
  | on pc hw hkeeps => exact hkeeps.holder
  | published hpc ht | caught hpc ht =>
    subst ht
    rfl

/-- The worker takes no time while it drains a recording. -/
theorem drain_calm {w : Worker} (h : DrainStep s t w) (hd : t.Draining) (hcalm : Calm setup s) :
    Calm setup t := by
  cases h with
  | on pc hw hkeeps =>
    obtain ⟨-, -, ha, hdeadline, hmonotonic, hepoch, hsteady, hunix⟩ := hkeeps
    obtain ⟨hearly, hafter, hafter', hfits, hordered⟩ := hcalm
    constructor
    · rwa [hsteady, hdeadline]
    · rwa [hmonotonic, hsteady]
    · rwa [hepoch, hunix]
    · rwa [ha]
    · rwa [ha]
  | published hpc ht | caught hpc ht =>
    subst ht
    cases hd.finalizing

/-- A schedule that lets the worker go on, its calls with success, until the recording is no longer
draining. -/
theorem exists_fair_run (hr : Reach (IsInitial setup) (System.step setup) anyStep s)
    (hh : s.holder = none) : ∃ state event, IsRun (System.step setup) state event ∧ state 0 = s ∧
      WorkerFair state event ∧ (Calm setup s → UnhinderedRun setup state event) := by
  classical
  let next : System → Event := fun s => if s.Draining then .workerStep smooth else .tick 0
  let Apt : System → Prop := fun u => Reach (IsInitial setup) (System.step setup) anyStep u ∧
    u.holder = none ∧ (Calm setup s → u.Draining → Calm setup u)
  have hnext : ∀ u, Apt u → ∃ t, u.step setup (next u) = some t ∧ Apt t := by
    rintro u ⟨hr, hh, hcalm⟩
    by_cases hd : u.Draining
    · have he : next u = .workerStep smooth := if_pos hd
      rw [he]
      have hk := control_reachable hr
      obtain ⟨t, ht⟩ := Option.isSome_iff_exists.mp (worker_enabled (c := smooth) hk hd hh)
      obtain ⟨w, -, -, hstep⟩ := drain_of_step hk hd ht
      exact ⟨t, ht, hr.next ht trivial, (drain_holder hstep).trans hh,
        fun h hd' => drain_calm hstep hd' (hcalm h hd)⟩
    · have he : next u = .tick 0 := if_neg hd
      rw [he]
      exact ⟨_, rfl, hr.next (e := .tick 0) rfl trivial, hh,
        fun _ hd' => absurd ⟨hd'.finalizing, hd'.call, hd'.worker⟩ hd⟩
  obtain ⟨state, event, hrun, h0, hevent, hgood⟩ := exists_run next ⟨hr, hh, fun h _ => h⟩ hnext
  have hworks : ∀ i, (state i).Draining → event i = .workerStep smooth := by
    intro i hd
    rw [hevent]
    exact if_pos hd
  refine ⟨state, event, hrun, h0, fun n => ⟨n, le_rfl, fun hd => ⟨smooth, hworks n hd⟩⟩, ?_⟩
  intro hcalm i hd
  refine ⟨(hgood i).2.2 hcalm hd, ?_, ?_⟩
  · rw [hworks i hd]
    exact fun h => by cases h
  · intro c hc
    cases (hworks i hd).symm.trans hc
    rfl

end Steps

section Runs
variable {setup : Setup} {s : System} {state : ℕ → System} {event : ℕ → Event}

theorem reach_run (hr : Reach (IsInitial setup) (System.step setup) anyStep s)
    (hrun : IsRun (System.step setup) state event) (h0 : state 0 = s) (i : ℕ) :
    Reach (IsInitial setup) (System.step setup) anyStep (state i) := by
  induction i with
  | zero =>
    rw [h0]
    exact hr
  | succ i ih => exact ih.next (hrun i) trivial

/-- A draining recording comes to an end in every fair run. -/
theorem drain_run (hr : Reach (IsInitial setup) (System.step setup) anyStep s) (hd : s.Draining)
    (hrun : IsRun (System.step setup) state event) (h0 : state 0 = s)
    (hfair : WorkerFair state event) :
    ∃ n, DrainsFor state s.history.admitted n ∧ ¬(state (n + 1)).Draining ∧
      DrainEnd setup (state n) (event n) (state (n + 1)) := by
  have hreach := reach_run hr hrun h0
  have hleaves : ∃ n, ¬(state n).Draining := by
    refine exists_leaves lower_wellFounded (fun i => stageOf (state i)) hfair ?_
    intro i hi hi'
    rcases drain_next (hreach i) hi (hrun i) with ⟨-, -, hmeasure⟩ | ⟨hout, -⟩
    · exact hmeasure
    · exact absurd hi' hout
  have hstart : (state 0).Draining := by
    rw [h0]
    exact hd
  obtain ⟨n, hinside, hout⟩ := exists_last hstart hleaves
  have hadmitted : ∀ i ≤ n, (state i).history.admitted = s.history.admitted := by
    intro i
    induction i with
    | zero =>
      intro _
      rw [h0]
    | succ i ih =>
      intro hi
      have hbefore : i ≤ n := by omega
      rcases drain_next (hreach i) (hinside i hbefore) (hrun i) with ⟨-, hsame, -⟩ | ⟨hnot, -⟩
      · exact hsame.trans (ih hbefore)
      · exact absurd (hinside (i + 1) hi) hnot
  refine ⟨n, ⟨hinside, hadmitted⟩, hout, ?_⟩
  rcases drain_next (hreach n) (hinside n le_rfl) (hrun n) with ⟨hdraining, -⟩ | ⟨-, hend⟩
  · exact absurd hdraining hout
  · exact hend

/-- The worker stays sound while nothing hinders it. -/
theorem sound_run (hr : Reach (IsInitial setup) (System.step setup) anyStep s)
    (hrun : IsRun (System.step setup) state event) (h0 : state 0 = s)
    (hsound : ∀ w, s.worker = some w → w.pc.Sound s w.recordingId)
    (hu : UnhinderedRun setup state event) {n : ℕ} (hinside : ∀ i ≤ n, (state i).Draining) :
    ∀ i ≤ n, ∀ w, (state i).worker = some w → w.pc.Sound (state i) w.recordingId := by
  intro i
  induction i with
  | zero =>
    intro _
    rw [h0]
    exact hsound
  | succ i ih =>
    intro hi
    have hbefore : i ≤ n := by omega
    exact sound_next (reach_run hr hrun h0 i) (hinside i hbefore) (ih hbefore)
      (hu i (hinside i hbefore)) (hinside (i + 1) hi) (hu (i + 1) (hinside (i + 1) hi)).toCalm
      (hrun i)

end Runs

/-- A closed recording whose worker is scheduled is drained, and finalized unless something outside
of the recorder fails. -/
theorem recording_drains {setup : Setup} {s : System}
    (h : Reach (IsInitial setup) (System.step setup) anyStep s) (hd : s.Draining) :
    RecordingDrains setup s := by
  have hk := control_reachable h
  constructor
  · exact fun c hh => worker_enabled hk hd hh
  · intro c hh
    obtain ⟨call, hcall⟩ := Option.ne_none_iff_exists'.mp hh
    exact call_enabled hk hd hcall
  · rintro c t w ht hw hwaits
    obtain ⟨v, hv, -, hstep⟩ := drain_of_step hk hd ht
    have hmoved : ∃ pc, t.worker = some { v with pc := pc } ∧ pc ≠ .loop .waiting := by
      cases hstep with
      | on pc hw' hkeeps hlower hpc =>
        refine ⟨pc, hw', fun hwaiting => ?_⟩
        cases hwaiting
        cases hpc
      | published hpc ht =>
        subst ht
        exact ⟨.finished, moveWorker_worker hv _, fun hwaiting => by cases hwaiting⟩
      | caught hpc ht =>
        subst ht
        exact ⟨.finished, moveWorker_worker hv _, fun hwaiting => by cases hwaiting⟩
    obtain ⟨pc, hpc, hawake⟩ := hmoved
    cases hpc.symm.trans hw
    exact hawake hwaits
  · exact exists_fair_run h
  · intro state event hrun h0 hfair
    obtain ⟨n, hfor, -, hend⟩ := drain_run h hd hrun h0 hfair
    exact ⟨n, hfor, hend⟩
  · rintro state event hrun h0 hfair ⟨w, k, hw, hpc, hstarts⟩ hu
    obtain ⟨n, hfor, -, hend⟩ := drain_run h hd hrun h0 hfair
    have hsound : ∀ v, s.worker = some v → v.pc.Sound s v.recordingId := by
      intro v hv
      cases hw.symm.trans hv
      rw [hpc] at hstarts ⊢
      exact hstarts
    have hlast := hfor.draining n le_rfl
    refine ⟨n, hfor, ?_⟩
    cases hend with
    | finalized ht ha => exact ⟨ht, ha⟩
    | faulted hfault =>
      obtain ⟨v, hv, hfault⟩ := hfault
      have hpoint := sound_run h hrun h0 hsound hu hfor.draining n le_rfl v hv
      rw [hfault] at hpoint
      exact hpoint.elim
    | exited hcrash => exact absurd hcrash (hu n hlast).stays

/-- The stop has returned while the first of two frames is written. -/
def stopReturned : List Event := framesRecorded.take 96

instance : DecidableRel Follows := fun _ _ => inferInstanceAs (Decidable (_ ∧ _))

def hasFittingView (setup : Setup) (frame : CapturedFrame) : Bool :=
  match frame.colorFrameView with
  | .ok (some color) => decide (color.identity = frame.identity) && decide (color.format = .rgb8) &&
      decide (color.width = setup.config.width) && decide (color.height = setup.config.height) &&
      decide (setup.config.width * 3 ≤ color.strideBytes) && color.hasData && color.hasOwner
  | _ => false

theorem fits_of_view {setup : Setup} {frame : CapturedFrame}
    (h : hasFittingView setup frame = true) : ∃ color, FitsProfile setup frame color := by
  unfold hasFittingView at h
  split at h
  · rename_i color hview
    simp only [Bool.and_eq_true, decide_eq_true_eq] at h
    obtain ⟨⟨⟨⟨⟨⟨hidentity, hformat⟩, hwidth⟩, hheight⟩, hstride⟩, hdata⟩, howner⟩ := h
    exact ⟨color, hview, by rw [hidentity], by rw [hidentity], hformat, hwidth, hheight, hstride,
      hdata, howner⟩
  · cases h

/-- The call that stopped the recording has returned, and the worker is at a library call. -/
def isStopped (s : System) : Bool :=
  decide (s.impl.state = .finalizing) && s.holder.isNone && s.worker.all fun w =>
    match w.pc with
    | .loop (.writeFrame _ (.op _ _)) => true
    | _ => false

def isCalm (setup : Setup) (s : System) : Bool :=
  decide (s.machine.steady < s.impl.finalizeDeadline) &&
    decide (s.impl.times.startedMonotonicNs ≤ s.machine.steady) &&
    decide (s.impl.times.startedUnixEpochNs ≤ s.machine.unix) &&
    s.history.admitted.all (hasFittingView setup) &&
    decide ((identities s.history.admitted).IsChain Follows)

theorem calm_of_isCalm {setup : Setup} {s : System} (h : isCalm setup s = true) : Calm setup s := by
  simp only [isCalm, Bool.and_eq_true, decide_eq_true_eq, List.all_eq_true] at h
  obtain ⟨⟨⟨⟨hearly, hmonotonic⟩, hunix⟩, hfits⟩, hordered⟩ := h
  exact ⟨hearly, hmonotonic, hunix, fun frame hframe => fits_of_view (hfits frame hframe), hordered⟩

theorem stopped_of_isStopped {s : System} (h : isStopped s = true) :
    s.holder = none ∧ s.impl.state = .finalizing ∧
      ∀ w, s.worker = some w → ∃ frame o k, w.pc = .loop (.writeFrame frame (.op o k)) := by
  simp only [isStopped, Bool.and_eq_true, decide_eq_true_eq, Option.isNone_iff_eq_none] at h
  obtain ⟨⟨hstate, hfree⟩, hpc⟩ := h
  refine ⟨hfree, hstate, fun w hw => ?_⟩
  rw [hw, Option.all_some] at hpc
  split at hpc
  · exact ⟨_, _, _, ‹_›⟩
  · cases hpc

theorem draining_of_isStopped {s : System} (h : isStopped s = true) : s.Draining := by
  obtain ⟨hfree, hstate, hpc⟩ := stopped_of_isStopped h
  refine ⟨hstate, fun call hc => ?_, fun w hw => ?_⟩
  · cases hfree.symm.trans hc
  · obtain ⟨frame, o, k, hwriting⟩ := hpc w hw
    rw [hwriting]
    rfl

set_option maxRecDepth 100000 in
/-- Such a recording is finalized with its two frames. -/
theorem recording_drains_stopped : ∃ s : System, s.Draining ∧ s.holder = none ∧
    s.history.admitted.length = 2 ∧ RecordingDrains sampleSetup s ∧ ∃ state event n,
      IsRun (System.step sampleSetup) state event ∧ state 0 = s ∧
      DrainsFor state s.history.admitted n ∧ (state (n + 1)).impl.state = .finalized ∧
      ArtifactAgrees sampleSetup (state (n + 1)) := by
  obtain ⟨s, hs, htest⟩ := sample_reach anyStep (fun _ => true)
    (fun s => isStopped s && isCalm sampleSetup s && s.worker.isSome &&
      decide (s.history.admitted.length = 2)) (fun _ _ _ _ => trivial) stopReturned
    (by decide +kernel)
  simp only [Bool.and_eq_true, decide_eq_true_eq] at htest
  obtain ⟨⟨⟨hstopped, hcalm⟩, hworker⟩, hlength⟩ := htest
  obtain ⟨hfree, -, hpc⟩ := stopped_of_isStopped hstopped
  have hd := draining_of_isStopped hstopped
  have hdrains := recording_drains hs hd
  have hloop : InLoop s := by
    obtain ⟨w, hw⟩ := Option.isSome_iff_exists.mp hworker
    obtain ⟨frame, o, k, hwriting⟩ := hpc w hw
    refine ⟨w, _, hw, hwriting, ?_⟩
    rw [hwriting]
    exact Prog.not_throws_op _ _
  obtain ⟨state, event, hrun, h0, hfair, hcalmly⟩ := hdrains.runs hfree
  obtain ⟨n, hfor, hfinal, hagrees⟩ :=
    hdrains.finalizes state event hrun h0 hfair hloop (hcalmly (calm_of_isCalm hcalm))
  exact ⟨s, hd, hfree, hlength, hdrains, state, event, n, hrun, h0, hfor, hfinal, hagrees⟩

end NodusVision.Guarantees
