import NodusVision.Guarantees.Scenario
import NodusVision.Manager.Deadline

/-! Once a recording has ended its worker is out of the way. -/
namespace NodusVision.Guarantees
open Text Storage Program Recording Manager Transition

/-- No recording is in progress. -/
def HasEnded (state : RecordingState) : Prop :=
  state = .idle ∨ state = .finalized ∨ state = .faulted

def Quiescent (v : Lifecycle) : Prop :=
  HasEnded v.state → ∀ w, v.worker = some w → w.pc.isLive = false

section Steps
variable {setup : Setup} {s t : System} {v' : Lifecycle}

theorem quiescent_of_active {v : Lifecycle} (h : ¬HasEnded v.state) : Quiescent v :=
  fun he => absurd he h

theorem quiescent_of_idle {v : Lifecycle} (h : ∀ w, v.worker = some w → w.pc.isLive = false) :
    Quiescent v := fun _ => h

/-- `beginFinalizationLocked` runs while the recording is in progress. -/
private theorem active_of_closer {b : BeginPc} (h : b.Flags s.core) : ¬HasEnded s.impl.state := by
  have hstate : s.impl.state = .recording ∨ s.impl.state = .finalizing := by
    cases b with
    | enter => exact .inl h.1
    | _ => exact .inr h.1
  rcases hstate with hs | hs <;> simp [HasEnded, hs]

private theorem active_of_point {b b' : BeginPc} {closer : Closer} {u : Lifecycle}
    (h : b.Flags s.core) (hb : s.lifecycle.Begins closer b (.point b') u) : ¬HasEnded u.state := by
  have hact := active_of_closer h
  cases hb with
  | enter => simp [HasEnded, Lifecycle.store]
  | _ => exact hact

theorem quiescent_next (hk : s.core.Control) (h : Quiescent s.lifecycle)
    (hok : ¬s.lifecycle.ClosingFailed) (hn : s.lifecycle.Next v') : Quiescent v' := by
  cases hn with
  | tick | enter | reject | answer | repeated | proceed | await | started => exact h
  | joined | startJoined | exit => exact quiescent_of_idle fun _ hw => by cases hw
  | startRestored hh hw | prepare hh hw | create hh hw | publish hh hw | startFailed hh hw =>
    exact quiescent_of_idle fun w hw' => by cases hw.symm.trans hw'
  | stopRestored hh hfin hs =>
    have hst : s.core.Settled := hk.call hh
    have hend : HasEnded s.lifecycle.state := (hst.inactive (hst.inactive_of_stopped hs.1 hs.2).1).2
    exact quiescent_of_idle (h hend)
  | spawn hh hw hs =>
    refine quiescent_of_active ?_
    change ¬HasEnded s.lifecycle.state
    simp [HasEnded, hs]
  | record => exact quiescent_of_active (by simp [HasEnded, Lifecycle.store])
  | beginPoint hh hc hc' hf hb =>
    have hact := active_of_point (closing_control hk hh hc).2 hb
    exact quiescent_of_active hact
  | beginFinished rs hh hc hf hb =>
    have hact := active_of_closer (closing_control hk hh hc).2
    cases hb
    exact quiescent_of_active hact
  | beginFailed h' rs hh hc hb =>
    cases hb
    exact absurd (.inl ⟨_, _, _, hh, hc⟩) hok
  | shutdownCatch hh hs => exact quiescent_of_idle (h (.inr (.inr hs)))
  | work d hw hm =>
    intro hend
    exact absurd (h hend _ hw) (by simp [hm.isLive])
  | workBegin hh hw hpc hid hin hb =>
    have hact := active_of_point (begin_flags hk hh hw hpc) hb
    exact quiescent_of_active hact
  | workFinished hh hw hpc hid hin hb =>
    have hact := active_of_closer (begin_flags hk hh hw hpc)
    cases hb
    exact quiescent_of_active hact
  | workFailed hh hw hpc hid hin hb =>
    cases hb
    exact absurd (.inr ⟨_, _, hw, hpc⟩) hok
  | finalized hh hw | faulted hh hw =>
    refine quiescent_of_idle fun w hw' => ?_
    cases hw'
    rfl

theorem quiescent_reachable {ok : System → Event → System → Prop}
    (hok : ∀ s e t, ok s e t → ¬s.lifecycle.ClosingFailed)
    (h : Reach (IsInitial setup) (System.step setup) ok s) : Quiescent s.lifecycle :=
  lifecycle_reachable Quiescent (fun _ => quiescent_of_idle fun _ hw => by cases hw)
    (fun s e t hk _ hi hs hn => quiescent_next hk hi (hok s e t hs) hn) h

end Steps

/-- The members that `restorePersistedArtifactLocked` and a new start rewrite and a worker uses. -/
structure SameSessionFields (s t : System) : Prop where
  artifactPaths : t.impl.artifactPaths = s.impl.artifactPaths
  recordingId : t.impl.recordingId = s.impl.recordingId
  queue : t.impl.queue = s.impl.queue
  writer : t.impl.writer = s.impl.writer
  sidecar : t.impl.sidecar = s.impl.sidecar
  start : t.impl.start = s.impl.start
  span : t.impl.span = s.impl.span
  counters : t.impl.counters = s.impl.counters
  times : t.impl.times = s.impl.times
  durationDeadline : t.impl.durationDeadline = s.impl.durationDeadline

section Sessions
variable {setup : Setup} {s t : System} {c : Choice}

private theorem begin_session {closer : Closer} {point : System → BeginPc → System}
    {finish : System → System} {rethrow : System → Exception → System} {b : BeginPc}
    (hpoint : ∀ u b', SameSessionFields s u → SameSessionFields s (point u b'))
    (hfinish : ∀ u, SameSessionFields s u → SameSessionFields s (finish u))
    (hrethrow : ∀ u e, SameSessionFields s u → SameSessionFields s (rethrow u e)) :
    SameSessionFields s (b.step setup s c closer point finish rethrow) := by
  cases b with
  | enter | closeAdmission => exact hpoint _ _ ⟨rfl, rfl, rfl, rfl, rfl, rfl, rfl, rfl, rfl, rfl⟩
  | evidence p => cases p <;> exact hpoint _ _ ⟨rfl, rfl, rfl, rfl, rfl, rfl, rfl, rfl, rfl, rfl⟩
  | checkDeadline =>
    simp only [BeginPc.step]
    split
    · exact hpoint _ _ ⟨rfl, rfl, rfl, rfl, rfl, rfl, rfl, rfl, rfl, rfl⟩
    · exact hfinish _ ⟨rfl, rfl, rfl, rfl, rfl, rfl, rfl, rfl, rfl, rfl⟩
  | fail e => exact hrethrow _ _ ⟨rfl, rfl, rfl, rfl, rfl, rfl, rfl, rfl, rfl, rfl⟩

private theorem stopUnrecorded_session {request : RecordingStartRequest} :
    SameSessionFields s (s.stopUnrecorded request) := by
  unfold System.stopUnrecorded
  split
  · exact ⟨rfl, rfl, rfl, rfl, rfl, rfl, rfl, rfl, rfl, rfl⟩
  · split
    · exact ⟨rfl, rfl, rfl, rfl, rfl, rfl, rfl, rfl, rfl, rfl⟩
    · exact ⟨rfl, rfl, rfl, rfl, rfl, rfl, rfl, rfl, rfl, rfl⟩

/-- No call rewrites the session of a live worker while recordings end quietly. -/
theorem callStep_session {call : Call} (hk : s.core.Control) (hq : Quiescent s.lifecycle)
    (hh : s.holder = some call) (hlive : s.workerLive = true)
    (he : s.callStep setup c call = some t) : SameSessionFields s t := by
  have hctl := hk.call hh
  obtain ⟨w, hw, hwlive⟩ : ∃ w, s.worker = some w ∧ w.pc.isLive = true := by
    cases hw : s.worker with
    | none => simp [System.workerLive, hw] at hlive
    | some w => exact ⟨w, rfl, by simpa [System.workerLive, hw] using hlive⟩
  have hbusy : ¬s.core.worker = none := fun hn => by cases hn.symm.trans hw
  cases call with
  | startEntered request =>
    cases he
    unfold System.startEntered
    repeat' split
    all_goals exact ⟨rfl, rfl, rfl, rfl, rfl, rfl, rfl, rfl, rfl, rfl⟩
  | startJoining request canonical =>
    change (if s.workerLive = true then none else _) = some t at he
    rw [if_pos hlive] at he
    cases he
  | startLookup | destroying | startRethrow | startFailed => exact absurd hctl.1 hbusy
  | startPreparing | startWriter | startReleaseWriter | startSidecar | startReleaseSidecar
  | startPublish | startSpawn => exact absurd hctl.1.1 hbusy
  | startRecording | startAdmit =>
    cases he
    exact ⟨rfl, rfl, rfl, rfl, rfl, rfl, rfl, rfl, rfl, rfl⟩
  | stopEntered request =>
    cases he
    unfold System.stopEntered
    repeat' split
    all_goals exact ⟨rfl, rfl, rfl, rfl, rfl, rfl, rfl, rfl, rfl, rfl⟩
  | stopLookup request p =>
    cases he
    cases p with
    | throw e => exact ⟨rfl, rfl, rfl, rfl, rfl, rfl, rfl, rfl, rfl, rfl⟩
    | op o k => exact ⟨rfl, rfl, rfl, rfl, rfl, rfl, rfl, rfl, rfl, rfl⟩
    | pure r =>
      simp only [System.advance]
      unfold System.stopLookedUp
      split
      · exact stopUnrecorded_session
      · split
        · exact stopUnrecorded_session
        · split
          · exact ⟨rfl, rfl, rfl, rfl, rfl, rfl, rfl, rfl, rfl, rfl⟩
          · split
            · unfold System.stopReplayed
              split
              · rename_i hs
                -- a restore is for a recording that has ended, whose worker is gone
                have hst : s.core.Settled := hctl
                have hend := (hst.inactive (hst.inactive_of_stopped hs.1 hs.2).1).2
                cases (hq hend w hw).symm.trans hwlive
              · exact ⟨rfl, rfl, rfl, rfl, rfl, rfl, rfl, rfl, rfl, rfl⟩
            · split
              · exact ⟨rfl, rfl, rfl, rfl, rfl, rfl, rfl, rfl, rfl, rfl⟩
              · exact stopUnrecorded_session
  | stopBegin request b =>
    cases he
    exact begin_session (fun _ _ h => by cases h; constructor <;> assumption)
      (fun _ h => by cases h; constructor <;> assumption)
      fun _ _ h => by cases h; constructor <;> assumption
  | shutdownEntered =>
    cases he
    unfold System.shutdownEntered
    repeat' split
    all_goals exact ⟨rfl, rfl, rfl, rfl, rfl, rfl, rfl, rfl, rfl, rfl⟩
  | shutdownBegin b =>
    cases he
    exact begin_session (fun _ _ h => by cases h; constructor <;> assumption)
      (fun _ h => by cases h; constructor <;> assumption)
      fun _ _ h => by cases h; constructor <;> assumption
  | shutdownCatch =>
    cases he
    exact ⟨rfl, rfl, rfl, rfl, rfl, rfl, rfl, rfl, rfl, rfl⟩

end Sessions

/-- The worker of a recording that has ended takes no further step, a start never waits for a
live worker, and no call rewrites the session of one, in every run in which no closer leaves
`beginFinalizationLocked` through its catch. -/
theorem worker_quiescent {setup : Setup} {s : System}
    (h : Reach (IsInitial setup) (System.step setup)
      (fun s _ _ => ¬s.lifecycle.ClosingFailed) s) :
    (HasEnded s.impl.state → ∀ w, s.worker = some w →
      w.pc = .finished ∧ ∀ c, s.step setup (.workerStep c) = none) ∧
    (∀ request canonical, s.holder = some (.startJoining request canonical) →
      s.workerLive = false) ∧
    ∀ c t, s.workerLive = true → s.step setup (.callStep c) = some t → SameSessionFields s t := by
  have hk := control_reachable h
  have hq : Quiescent s.lifecycle := quiescent_reachable (fun _ _ _ hok => hok) h
  refine ⟨fun hend w hw => ?_, fun request canonical hh => ?_, fun c t hlive he => ?_⟩
  · have hfinished : w.pc = .finished := by
      have hdead := hq hend w hw
      cases hpc : w.pc with
      | finished => rfl
      | _ => simp [hpc, WorkerPc.isLive] at hdead
    refine ⟨hfinished, fun c => ?_⟩
    simp [System.step, hw, hfinished, System.workerStep]
  · obtain ⟨hst, hinactive⟩ := hk.call hh
    have hdead := hq (hst.inactive hinactive).2
    cases hw : s.worker with
    | none => simp [System.workerLive, hw]
    | some w => simpa [System.workerLive, hw] using hdead w hw
  · obtain ⟨call, hh, he⟩ := Option.bind_eq_some_iff.mp he
    exact callStep_session hk hq hh hlive he

/-- A recording that takes frames. -/
def recorded : List Event := [.call (.start (request "start-1" "take-1"))] ++ calls 58

/-- Its client stop. -/
def stopped : List Event := [.call (.stop (request "stop-1" "take-1"))] ++ calls 29

/-- Its client stop, whose evidence cannot be written. -/
def stoppedWithoutEvidence : List Event :=
  [.call (.stop (request "stop-1" "take-1"))] ++ calls 19 ++ [.callStep failing] ++ calls 2

/-- The recording has faulted, nobody holds the mutex, and its worker is about to take it. -/
def isUnquiet (s : System) : Bool :=
  s.impl.state = .faulted && s.mutexFree && s.workerLive

/-- A start waits under the mutex for a worker that waits for the mutex. -/
def isDeadlocked (s : System) : Bool :=
  match s.holder, s.worker with
  | some (.startJoining _ _), some ⟨_, .loop .acquire⟩ => true
  | _, _ => false

theorem stuck_of_deadlocked {setup : Setup} {s : System} (h : isDeadlocked s = true) (c : Choice) :
    s.step setup (.callStep c) = none ∧ s.step setup (.workerStep c) = none := by
  unfold isDeadlocked at h
  split at h
  · rename_i hh hw
    constructor
    · simp [System.step, hh, System.callStep, System.workerLive, hw, WorkerPc.isLive]
    · simp [System.step, hw, System.workerStep, System.loopStep, hh]
  · cases h

set_option maxRecDepth 100000 in
theorem worker_unquiet :
    (∃ s, Reach (IsInitial sampleSetup) (System.step sampleSetup) anyStep s ∧
      isUnquiet s = true) ∧
    ∃ s, Reach (IsInitial sampleSetup) (System.step sampleSetup) anyStep s ∧
      HasEnded s.impl.state ∧
      ∀ c, s.step sampleSetup (.callStep c) = none ∧ s.step sampleSetup (.workerStep c) = none := by
  constructor
  · exact sample_reach anyStep (fun _ => true) isUnquiet (fun _ _ _ _ => trivial)
      (recorded ++ stoppedWithoutEvidence) (by decide +kernel)
  · obtain ⟨s, hs, htest⟩ := sample_reach anyStep (fun _ => true)
      (fun s => isDeadlocked s && s.impl.state = .faulted) (fun _ _ _ _ => trivial)
      (recorded ++ stoppedWithoutEvidence ++
        [.call (.start (request "start-2" "take-2")), .callStep smooth]) (by decide +kernel)
    simp only [Bool.and_eq_true, decide_eq_true_eq] at htest
    exact ⟨s, hs, .inr (.inr htest.2), stuck_of_deadlocked htest.1⟩

/-- No closer is at its catch. -/
def closesWell (s : System) : Bool :=
  (match s.holder.bind Call.closing with
  | some (_, .fail _) => false
  | _ => true) &&
  match s.worker with
  | some ⟨_, .loop (.begin (.fail _))⟩ => false
  | _ => true

theorem not_closingFailed {s : System} (h : closesWell s = true) : ¬s.lifecycle.ClosingFailed := by
  simp only [closesWell, Bool.and_eq_true] at h
  rintro (⟨call, closer, e, hh, hc⟩ | ⟨w, e, hw, hpc⟩)
  · have hh : s.holder = some call := hh
    simp [hh, hc] at h
  · have hw : s.worker = some w := hw
    obtain ⟨id, pc⟩ := w
    cases hpc
    simp [hw] at h

set_option maxRecDepth 100000 in
theorem worker_quiescent_finalized : ∃ s : System, s.impl.state = .finalized ∧
    ∃ w, s.worker = some w ∧ w.pc = .finished := by
  obtain ⟨s, hs, htest⟩ := sample_reach (fun s _ _ => ¬s.lifecycle.ClosingFailed) closesWell
    (fun s => s.impl.state = .finalized && s.worker.isSome) (fun _ _ _ => not_closingFailed) (recorded ++ stopped ++ works 52) (by decide +kernel)
  simp only [Bool.and_eq_true, decide_eq_true_eq, Option.isSome_iff_exists] at htest
  obtain ⟨hst, w, hw⟩ := htest
  exact ⟨s, hst, w, hw, ((worker_quiescent hs).1 (.inr (.inl hst)) w hw).1⟩

end NodusVision.Guarantees
