import NodusVision.Manager.Step
import NodusVision.Recording.Lookup
import NodusVision.Transition.Reach

/-! Where the worker is for every value of `m_state` and every program point of the call that
holds the mutex. -/
namespace NodusVision.Manager
open Text Storage Program Recording Transition

/-- In the loop without the mutex, or about to take the catch. -/
def WorkerPc.inLoop : WorkerPc → Bool
  | .loop (.begin _) | .loop .dispatch => false
  | .loop _ | .fault => true
  | _ => false

theorem isLive_of_inLoop {pc : WorkerPc} (h : pc.inLoop = true) : pc.isLive = true := by
  cases pc with
  | finished => cases h
  | _ => rfl

theorem outside_of_inLoop {pc : WorkerPc} (h : pc.inLoop = true) : pc.holdsMutex = false := by
  cases pc with
  | loop pc => cases pc <;> first | rfl | cases h
  | _ => rfl

/-- The part of the system that decides which thread may do what. -/
structure Core where
  state : RecordingState
  admitting : Bool
  stopRequested : Bool
  recordingId : ByteString
  paths : RecordingArtifactPaths
  inSession : Bool
  holder : Option Call
  worker : Option Worker

def System.core (s : System) : Core where
  state := s.impl.state
  admitting := s.impl.admitting
  stopRequested := s.impl.stopRequested
  recordingId := s.impl.recordingId
  paths := s.impl.artifactPaths
  inSession := s.history.inSession
  holder := s.holder
  worker := s.worker

namespace Core

/-- The session fields are those of the worker's recording. -/
def Session (k : Core) (w : Worker) : Prop :=
  k.recordingId = w.recordingId ∧ k.paths = artifactPaths w.recordingId ∧
    k.inSession = true

/-- Flags of a recording that takes frames. -/
def Open (k : Core) : Prop :=
  k.state = .recording ∧ k.admitting = true ∧ k.stopRequested = false

/-- Flags of a recording that is being closed. -/
def Closed (k : Core) : Prop :=
  k.state = .finalizing ∧ k.admitting = false ∧ k.stopRequested = true

/-- No worker and no recording in progress. -/
def Quiet (k : Core) : Prop :=
  k.worker = none ∧ k.admitting = false ∧
    (k.state = .idle ∨ k.state = .finalized ∨ k.state = .faulted)

/-- A start that has no worker yet. -/
def Preparing (k : Core) : Prop :=
  k.worker = none ∧ k.admitting = false ∧ k.state = .preparing

/-- The worker is at a point of `P`, with its own session fields. -/
def WorkerAt (k : Core) (P : WorkerPc → Bool) : Prop :=
  ∃ w, k.worker = some w ∧ P w.pc = true ∧ k.Session w

/-- A finished recording, whose worker may still be on its way out. -/
def Ended (k : Core) : Prop :=
  k.admitting = false ∧ ∀ w, k.worker = some w → w.pc.isLive = true →
    k.stopRequested = true ∧ (k.inSession = true → k.Session w)

/-- What holds whenever nobody holds the mutex. -/
def Settled (k : Core) : Prop :=
  match k.state with
  | .idle => k.worker = none ∧ k.admitting = false
  | .recording => k.Open ∧ k.WorkerAt WorkerPc.inLoop
  | .finalizing => k.Closed ∧ k.WorkerAt WorkerPc.isLive
  | .finalized | .faulted => k.Ended
  | .preparing | .disabled => False

/-- A start whose worker exists and waits for the mutex. -/
def Spawned (k : Core) (request : RecordingStartRequest) (state : RecordingState) : Prop :=
  k.worker = some ⟨request.recordingId, .loop .acquire⟩ ∧
    k.Session ⟨request.recordingId, .loop .acquire⟩ ∧ k.state = state ∧ k.admitting = false ∧
    k.stopRequested = false

end Core

def BeginPc.Flags (k : Core) : BeginPc → Prop
  | .enter => k.Open
  | .closeAdmission => k.state = .finalizing ∧ k.admitting = true ∧ k.stopRequested = false
  | _ => k.Closed

/-- What holds at each program point of the mutex holder. -/
def Call.Control (k : Core) : Call → Prop
  | .startEntered _ | .stopEntered _ | .stopLookup _ _ | .shutdownEntered => k.Settled
  | .startJoining _ _ => k.Settled ∧ k.state.isActive = false
  | .startLookup _ _ _ | .destroying _ => k.Quiet
  | .startPreparing request _ p => k.Preparing ∧ p.Uses (fun _ => True)
      (fun paths => paths = artifactPaths request.recordingId) fun _ => True
  | .startFailed _ _ => k.Preparing
  | .startWriter request _ _ | .startReleaseWriter request _ _ | .startSidecar request _ _
  | .startReleaseSidecar request _ _ | .startPublish request _ =>
    k.Preparing ∧ k.paths = artifactPaths request.recordingId
  | .startSpawn request =>
    k.Preparing ∧ k.stopRequested = false ∧ k.Session ⟨request.recordingId, .loop .acquire⟩
  | .startRecording request => k.Spawned request .preparing
  | .startAdmit request => k.Spawned request .recording
  | .startRethrow _ _ => k.worker = none ∧ k.admitting = false ∧ k.state = .faulted
  | .stopBegin request b =>
    k.WorkerAt WorkerPc.inLoop ∧ b.Flags k ∧ request.recordingId = k.recordingId
  | .shutdownBegin b => k.WorkerAt WorkerPc.inLoop ∧ b.Flags k
  | .shutdownCatch => k.WorkerAt WorkerPc.inLoop ∧ k.admitting = false ∧
      k.stopRequested = true ∧ k.state = .faulted

namespace Core

/-- The worker does not hold the mutex. -/
def Released (k : Core) : Prop := ∀ w, k.worker = some w → w.pc.holdsMutex = false

/-- What holds where the worker holds the mutex. -/
def WorkerHolds (k : Core) (w : Worker) : Prop :=
  k.Session w ∧ match w.pc with
    | .loop (.begin b) => b.Flags k
    | _ => k.Closed

/-- The control invariant. -/
def Control (k : Core) : Prop :=
  (∀ call, k.holder = some call → call.Control k ∧ k.Released) ∧
    (k.holder = none → k.Released → k.Settled) ∧
    ∀ w, k.holder = none → k.worker = some w → w.pc.holdsMutex = true → k.WorkerHolds w

variable {k : Core} {c : Call}

theorem control_of_settled (hh : k.holder = none) (hr : k.Released) (hs : k.Settled) :
    k.Control := by
  refine ⟨fun call hc => ?_, fun _ _ => hs, fun w _ hw hm => ?_⟩
  · rw [hh] at hc
    cases hc
  · rw [hr w hw] at hm
    cases hm

theorem control_of_call (hh : k.holder = some c) (hr : k.Released) (hc : c.Control k) :
    k.Control := by
  refine ⟨fun _ he => ?_, fun hn => ?_, fun w hn => ?_⟩
  · rw [hh] at he
    cases he
    exact ⟨hc, hr⟩
  · rw [hh] at hn
    cases hn
  · rw [hh] at hn
    cases hn

theorem control_of_worker {w : Worker} (hh : k.holder = none) (hw : k.worker = some w)
    (hm : w.pc.holdsMutex = true) (hc : k.WorkerHolds w) : k.Control := by
  refine ⟨fun c he => ?_, fun _ hr => ?_, fun v _ hv _ => ?_⟩
  · rw [hh] at he
    cases he
  · rw [hr w hw] at hm
    cases hm
  · rw [hw] at hv
    cases hv
    exact hc

theorem Control.call (h : k.Control) (hh : k.holder = some c) : c.Control k := (h.1 c hh).1

theorem Control.released (h : k.Control) (hh : k.holder = some c) : k.Released := (h.1 c hh).2

theorem Control.settled (h : k.Control) (hh : k.holder = none) (hr : k.Released) : k.Settled :=
  h.2.1 hh hr

theorem Control.worker {w : Worker} (h : k.Control) (hh : k.holder = none)
    (hw : k.worker = some w) (hm : w.pc.holdsMutex = true) : k.WorkerHolds w := h.2.2 w hh hw hm

theorem released_of_none (hw : k.worker = none) : k.Released := by
  intro w h
  rw [hw] at h
  cases h

theorem Quiet.settled (h : k.Quiet) : k.Settled := by
  obtain ⟨hw, ha, hs⟩ := h
  unfold Settled
  rcases hs with hs | hs | hs
  · simp only [hs]
    exact ⟨hw, ha⟩
  · simp only [hs]
    exact ⟨ha, fun w h => by rw [hw] at h; cases h⟩
  · simp only [hs]
    exact ⟨ha, fun w h => by rw [hw] at h; cases h⟩

/-- Outside a recording the flags are down. -/
theorem Settled.inactive (h : k.Settled) (hs : k.state.isActive = false) :
    k.admitting = false ∧ (k.state = .idle ∨ k.state = .finalized ∨ k.state = .faulted) := by
  unfold Settled at h
  cases hk : k.state <;> simp only [hk] at h hs <;> simp_all [RecordingState.isActive, Ended]

theorem Settled.quiet (h : k.Settled) (hw : k.worker = none) : k.Quiet := by
  have hs : k.state.isActive = false := by
    unfold Settled at h
    cases hk : k.state <;> simp only [hk] at h <;> simp_all [RecordingState.isActive, WorkerAt]
  exact ⟨hw, h.inactive hs⟩

theorem Settled.recording (h : k.Settled) (hs : k.state = .recording) :
    k.Open ∧ k.WorkerAt WorkerPc.inLoop := by
  unfold Settled at h
  simpa only [hs] using h

theorem Settled.finalizing (h : k.Settled) (hs : k.state = .finalizing) :
    k.Closed ∧ k.WorkerAt WorkerPc.isLive := by
  unfold Settled at h
  simpa only [hs] using h

/-- A finished recording keeps its flags down whatever the worker still does. -/
theorem settled_of_ended (hs : k.state = .finalized ∨ k.state = .faulted) (h : k.Ended) :
    k.Settled := by
  unfold Settled
  rcases hs with hs | hs
  · simpa only [hs] using h
  · simpa only [hs] using h

theorem settled_of_open (h : k.Open) (hw : k.WorkerAt WorkerPc.inLoop) : k.Settled := by
  unfold Settled
  simpa only [h.1] using And.intro h hw

theorem settled_of_closed (h : k.Closed) (hw : k.WorkerAt WorkerPc.isLive) : k.Settled := by
  unfold Settled
  simpa only [h.1] using And.intro h hw

theorem Settled.cases (h : k.Settled) :
    k.state = .idle ∧ k.worker = none ∧ k.admitting = false ∨
      k.Open ∧ k.WorkerAt WorkerPc.inLoop ∨ k.Closed ∧ k.WorkerAt WorkerPc.isLive ∨
      (k.state = .finalized ∨ k.state = .faulted) ∧ k.Ended := by
  unfold Settled at h
  cases hk : k.state <;> simp only [hk] at h
  · exact .inl ⟨rfl, h⟩
  · exact .inr (.inl h)
  · exact .inr (.inr (.inl h))
  · exact .inr (.inr (.inr ⟨.inl rfl, h⟩))
  · exact .inr (.inr (.inr ⟨.inr rfl, h⟩))

/-- Frames are refused once the worker has left its loop. -/
theorem Settled.admitting_of_closing {w : Worker} (h : k.Settled) (hw : k.worker = some w)
    (hin : w.pc.inLoop = false) : k.admitting = false := by
  rcases h.cases with ⟨-, -, ha⟩ | ⟨-, v, hv, hv', -⟩ | ⟨hc, -⟩ | ⟨-, he⟩
  · exact ha
  · rw [hw] at hv
    cases hv
    rw [hin] at hv'
    cases hv'
  · exact hc.2.1
  · exact he.1

/-- The worker moves on without leaving its part of `runWorker`. -/
theorem Settled.move {w : Worker} {pc : WorkerPc} (h : k.Settled) (hw : k.worker = some w)
    (hlive : w.pc.isLive = true) (hpc : pc.isLive = true)
    (hloop : k.stopRequested = false → w.pc.inLoop = true → pc.inLoop = true) :
    Settled { k with worker := some { w with pc := pc } } := by
  rcases h.cases with ⟨-, hn, -⟩ | ⟨ho, v, hv, hin, hsess⟩ | ⟨hc, v, hv, -, hsess⟩ | ⟨hs, he⟩
  · rw [hw] at hn
    cases hn
  · rw [hw] at hv
    cases hv
    exact settled_of_open ho ⟨_, rfl, hloop ho.2.2 hin, hsess⟩
  · rw [hw] at hv
    cases hv
    exact settled_of_closed hc ⟨_, rfl, hpc, hsess⟩
  · refine settled_of_ended hs ⟨he.1, fun v hv _ => ?_⟩
    cases hv
    exact he.2 w hw hlive

end Core

/-- Steps of `beginFinalizationLocked` change the flags only. -/
def SameSession (s t : System) : Prop :=
  t.core = { s.core with
    state := t.impl.state, admitting := t.impl.admitting, stopRequested := t.impl.stopRequested }

/-- What one step of `beginFinalizationLocked` can do. -/
theorem begin_cases (setup : Setup) {s : System} (c : Choice) {closer : Closer}
    {point : System → BeginPc → System} {finish : System → System}
    {rethrow : System → Exception → System} {b : BeginPc} (hf : b.Flags s.core) :
    (∃ t b', b.step setup s c closer point finish rethrow = point t b' ∧ SameSession s t ∧
        b'.Flags t.core) ∨
      (∃ t, b.step setup s c closer point finish rethrow = finish t ∧ SameSession s t ∧
        t.core.Closed) ∨
      ∃ t e, b.step setup s c closer point finish rethrow = rethrow t e ∧ SameSession s t ∧
        t.impl.state = .faulted ∧ t.impl.admitting = false ∧ t.impl.stopRequested = true := by
  cases b with
  | enter => exact .inl ⟨_, _, rfl, rfl, rfl, hf.2⟩
  | closeAdmission => exact .inl ⟨_, _, rfl, rfl, hf.1, rfl, rfl⟩
  | evidence p =>
    cases p with
    | pure a => exact .inl ⟨_, _, rfl, rfl, hf⟩
    | throw e => exact .inl ⟨_, _, rfl, rfl, hf⟩
    | op o k => exact .inl ⟨_, _, rfl, rfl, hf⟩
  | checkDeadline =>
    simp only [BeginPc.step]
    split
    · exact .inl ⟨_, _, rfl, rfl, hf⟩
    · exact .inr (.inl ⟨_, rfl, rfl, hf⟩)
  | fail e => exact .inr (.inr ⟨_, _, rfl, rfl, rfl, hf.2⟩)

/-- The preparation answers with the paths of the requested recording. -/
theorem prepareStaging_uses (setup : Setup) (request : RecordingStartRequest) :
    (prepareStaging setup request).Uses (fun _ => True)
      (fun paths => paths = artifactPaths request.recordingId) fun _ => True := by
  refine Prog.Uses.bind (fun _ => True) ((Prog.uses_any _).mono (fun _ h => h) (fun _ h => h)
    fun _ h => h) fun _ _ => ?_
  refine RecordingStore.call_uses trivial fun (available : Option ℕ) => ?_
  refine Prog.Uses.bind (fun _ => True) (Prog.uses_any _) fun _ _ => ?_
  refine Prog.Uses.bind (fun _ => True) (Prog.uses_any _) fun _ _ => ?_
  refine Prog.Uses.bind (fun _ => True) (Prog.uses_any _) fun _ _ => ?_
  refine Prog.Uses.bind (fun _ => True) (Prog.uses_any _) fun _ _ => ?_
  refine Prog.Uses.bind (fun _ => True) (Prog.uses_any _) fun _ _ => ?_
  refine RecordingStore.call_uses trivial fun (creation : DirectoryCreation) => ?_
  refine Prog.Uses.bind (fun _ => True) (Prog.uses_any _) fun _ _ => ?_
  cases serializeRecordingStartRequest request with
  | error e => trivial
  | ok canonical => exact Prog.Uses.bind (fun _ => True) (Prog.uses_any _) fun _ _ => rfl

section Step
variable {setup : Setup} {s t : System} {c : Choice}

private theorem advance_control {α : Type} {p : StoreProg α} {point : StoreProg α → Call}
    {onReturn : α → System} {onThrow : Exception → System} (hr : s.core.Released)
    (hpoint : ∀ o k r, p = .op o k → (point (k r)).Control s.core)
    (hret : ∀ a, p = .pure a → (onReturn a).core.Control)
    (hthrow : ∀ e, (onThrow e).core.Control) :
    (s.advance c point onReturn onThrow p).core.Control := by
  cases p with
  | pure a => exact hret a rfl
  | throw e => exact hthrow e
  | op o k => exact Core.control_of_call rfl hr (hpoint o k _ rfl)

/-- A restore leaves a finished recording behind. -/
private theorem restore_settled (artifact : PersistedRecordingArtifact)
    (request : RecordingStartRequest) (canonicalStart : ByteString) :
    (s.restorePersistedArtifactLocked artifact request canonicalStart).core.Settled := by
  refine Core.settled_of_ended ?_ ⟨rfl, fun w _ _ => ⟨rfl, fun hin => by cases hin⟩⟩
  simp only [System.core, System.restorePersistedArtifactLocked]
  cases artifact.finalized
  · exact .inr rfl
  · exact .inl rfl

private theorem startEntered_control {request : RecordingStartRequest} (hr : s.core.Released)
    (hc : s.core.Settled) : (s.startEntered request).core.Control := by
  have hrelease : ∀ r, (s.release r).core.Control := fun r => Core.control_of_settled rfl hr hc
  unfold System.startEntered
  split
  · exact hrelease _
  · split
    · split
      · exact hrelease _
      · exact hrelease _
    · split
      · exact hrelease _
      · rename_i hidle
        split
        · exact Core.control_of_call rfl hr ⟨hc, eq_false_of_ne_true hidle⟩
        · rename_i hnone
          exact Core.control_of_call rfl hr (hc.quiet (by simpa [System.core] using hnone))

private theorem startLookedUp_control {request : RecordingStartRequest} {canonical : ByteString}
    {r : Option PersistedRecordingArtifact} (hc : s.core.Quiet) :
    (s.startLookedUp setup request canonical r).core.Control := by
  have hr : s.core.Released := Core.released_of_none hc.1
  cases r with
  | none => exact Core.control_of_call rfl hr ⟨⟨hc.1, hc.2.1, rfl⟩, prepareStaging_uses setup request⟩
  | some artifact =>
    simp only [System.startLookedUp]
    split
    · exact Core.control_of_settled rfl hr hc.settled
    · exact Core.control_of_settled rfl hr (restore_settled artifact request canonical)

private theorem stopUnrecorded_control {request : RecordingStartRequest} (hr : s.core.Released)
    (hc : s.core.Settled) : (s.stopUnrecorded request).core.Control := by
  unfold System.stopUnrecorded
  split
  · exact Core.control_of_settled rfl hr hc
  · rename_i hid
    split
    · exact Core.control_of_settled rfl hr hc
    · rename_i hstate
      have hrec := hc.recording (not_not.mp hstate)
      exact Core.control_of_call rfl hr ⟨hrec.2, hrec.1, not_not.mp hid⟩

private theorem stopLookedUp_control {request : RecordingStartRequest}
    {r : Option PersistedRecordingArtifact} (hr : s.core.Released) (hc : s.core.Settled) :
    (s.stopLookedUp request r).core.Control := by
  unfold System.stopLookedUp
  split
  · exact stopUnrecorded_control hr hc
  · split
    · exact stopUnrecorded_control hr hc
    · split
      · exact Core.control_of_settled rfl hr hc
      · split
        · unfold System.stopReplayed
          split
          · exact Core.control_of_settled rfl hr (restore_settled _ request [])
          · exact Core.control_of_settled rfl hr hc
        · split
          · exact Core.control_of_settled rfl hr hc
          · exact stopUnrecorded_control hr hc

private theorem exitProcess_control : (s.exitProcess setup).core.Control :=
  Core.control_of_settled rfl (Core.released_of_none rfl) ⟨rfl, rfl⟩

/-- A closer that ended leaves the recording closed or faulted. -/
private theorem settled_of_closer {k : Core} (hw : k.WorkerAt WorkerPc.inLoop)
    (hk : k.Closed ∨ k.state = .faulted ∧ k.admitting = false ∧ k.stopRequested = true) :
    k.Settled := by
  obtain ⟨w, hw, hin, hsess⟩ := hw
  rcases hk with hk | ⟨hs, ha, hstop⟩
  · exact Core.settled_of_closed hk ⟨w, hw, isLive_of_inLoop hin, hsess⟩
  · refine Core.settled_of_ended (.inr hs) ⟨ha, fun v hv _ => ⟨hstop, fun _ => ?_⟩⟩
    rw [hw] at hv
    cases hv
    exact hsess

private theorem workerAt_same {P : WorkerPc → Bool} (h : s.core.WorkerAt P) (ht : SameSession s t) :
    t.core.WorkerAt P := by
  rw [ht]
  exact h

private theorem released_same (h : s.core.Released) (ht : SameSession s t) : t.core.Released := by
  rw [ht]
  exact h

theorem callStep_control {call : Call} (h : s.core.Control) (hh : s.holder = some call)
    (he : s.callStep setup c call = some t) : t.core.Control := by
  have hc := h.call hh
  have hr := h.released hh
  cases call with
  | startEntered request =>
    cases he
    exact startEntered_control hr hc
  | startJoining request canonical =>
    simp only [System.callStep] at he
    split at he
    · cases he
    · cases he
      exact Core.control_of_call rfl (Core.released_of_none rfl) ⟨rfl, hc.1.inactive hc.2⟩
  | startLookup request canonical p =>
    cases he
    exact advance_control hr (fun _ _ _ _ => hc) (fun _ _ => startLookedUp_control hc)
      fun _ => Core.control_of_settled rfl hr hc.settled
  | startPreparing request canonical p =>
    cases he
    refine advance_control hr (fun o k r hp => ?_) (fun paths hp => ?_)
      fun _ => Core.control_of_call rfl hr hc.1
    · subst hp
      exact ⟨hc.1, hc.2.2 r⟩
    · subst hp
      exact Core.control_of_call rfl hr ⟨hc.1, hc.2⟩
  | startWriter request canonical p =>
    cases he
    exact advance_control hr (fun _ _ _ _ => hc) (fun _ _ => Core.control_of_call rfl hr hc)
      fun _ => Core.control_of_call rfl hr hc.1
  | startReleaseWriter request canonical p =>
    cases he
    exact advance_control hr (fun _ _ _ _ => hc) (fun _ _ => Core.control_of_call rfl hr hc)
      fun _ => Core.control_of_call rfl hr hc.1
  | startSidecar request canonical p =>
    cases he
    exact advance_control hr (fun _ _ _ _ => hc) (fun _ _ => Core.control_of_call rfl hr hc)
      fun _ => Core.control_of_call rfl hr hc.1
  | startReleaseSidecar request canonical p =>
    cases he
    exact advance_control hr (fun _ _ _ _ => hc) (fun _ _ => Core.control_of_call rfl hr hc)
      fun _ => Core.control_of_call rfl hr hc.1
  | startPublish request canonical =>
    cases he
    exact Core.control_of_call rfl hr ⟨hc.1, rfl, rfl, hc.2, rfl⟩
  | startSpawn request =>
    simp only [System.callStep] at he
    split at he
    · cases he
      exact Core.control_of_call rfl hr hc.1
    · cases he
      obtain ⟨⟨-, hadm, hstate⟩, hstop, hsess⟩ := hc
      refine Core.control_of_call rfl ?_ ⟨rfl, hsess, hstate, hadm, hstop⟩
      rintro w ⟨⟩
      rfl
  | startRecording request =>
    cases he
    obtain ⟨hw, hsess, -, hadm, hstop⟩ := hc
    exact Core.control_of_call rfl hr ⟨hw, hsess, rfl, hadm, hstop⟩
  | startAdmit request =>
    cases he
    obtain ⟨hw, hsess, hstate, -, hstop⟩ := hc
    exact Core.control_of_settled rfl hr
      (Core.settled_of_open ⟨hstate, rfl, hstop⟩ ⟨_, hw, rfl, hsess⟩)
  | startFailed request e =>
    cases he
    exact Core.control_of_call rfl hr ⟨hc.1, hc.2.1, rfl⟩
  | startRethrow request e =>
    cases he
    refine Core.control_of_settled rfl hr (Core.settled_of_ended (.inr hc.2.2) ⟨rfl, ?_⟩)
    intro w hw
    cases hc.1.symm.trans hw
  | stopEntered request =>
    cases he
    have hrelease : ∀ r, (s.release r).core.Control := fun r => Core.control_of_settled rfl hr hc
    unfold System.stopEntered
    split
    · split
      · split
        · exact hrelease _
        · split
          · exact hrelease _
          · exact hrelease _
      · exact hrelease _
    · exact Core.control_of_call rfl hr hc
  | stopLookup request p =>
    cases he
    exact advance_control hr (fun _ _ _ _ => hc) (fun _ _ => stopLookedUp_control hr hc)
      fun _ => Core.control_of_settled rfl hr hc
  | stopBegin request b =>
    cases he
    obtain ⟨hw, hf, hid⟩ := hc
    rcases begin_cases setup c hf with
      ⟨u, b', he, hs, hf'⟩ | ⟨u, he, hs, hf'⟩ | ⟨u, e, he, hs, hf'⟩
    all_goals
      rw [he]
      have hw' := workerAt_same hw hs
      have hr' := released_same hr hs
    · have hid' : u.core.recordingId = s.core.recordingId := by rw [hs]
      exact Core.control_of_call rfl hr' ⟨hw', hf', hid.trans hid'.symm⟩
    · exact Core.control_of_settled rfl hr' (settled_of_closer hw' (.inl hf'))
    · exact Core.control_of_settled rfl hr' (settled_of_closer hw' (.inr hf'))
  | shutdownEntered =>
    cases he
    unfold System.shutdownEntered
    split
    · rename_i hstate
      have hrec := Core.Settled.recording hc hstate
      exact Core.control_of_call rfl hr ⟨hrec.2, hrec.1⟩
    · split
      · exact Core.control_of_settled rfl hr hc
      · exact Core.control_of_settled rfl hr hc
  | shutdownBegin b =>
    cases he
    obtain ⟨hw, hf⟩ := hc
    rcases begin_cases setup c hf with
      ⟨u, b', he, hs, hf'⟩ | ⟨u, he, hs, hf'⟩ | ⟨u, e, he, hs, hf'⟩
    all_goals
      rw [he]
      have hw' := workerAt_same hw hs
      have hr' := released_same hr hs
    · exact Core.control_of_call rfl hr' ⟨hw', hf'⟩
    · exact Core.control_of_settled rfl hr' (settled_of_closer hw' (.inl hf'))
    · exact Core.control_of_call rfl hr' ⟨hw', hf'.2.1, hf'.2.2, hf'.1⟩
  | shutdownCatch =>
    cases he
    exact Core.control_of_settled rfl hr (settled_of_closer hc.1 (.inr ⟨rfl, rfl, rfl⟩))
  | destroying p =>
    cases he
    exact advance_control hr (fun _ _ _ _ => hc) (fun _ _ => exitProcess_control)
      fun _ => exitProcess_control

private theorem core_moveWorker {w : Worker} (hw : s.worker = some w) (pc : WorkerPc) :
    (s.moveWorker pc).core = { s.core with worker := some { w with pc := pc } } := by
  simp only [System.core, System.moveWorker, hw, Option.map_some]

/-- The worker stays outside the mutex; it leaves the loop only with the stop flag up. -/
private theorem move_control {w : Worker} {pc : WorkerPc} (h : s.core.Control)
    (hw : s.worker = some w) (hlive : w.pc.isLive = true) (hout : w.pc.holdsMutex = false)
    (hwait : s.holder = none ∨ w.pc ≠ .loop .acquire) (hlive' : pc.isLive = true)
    (hout' : pc.holdsMutex = false)
    (hloop : w.pc.inLoop = true → pc.inLoop = true ∨
      s.holder = none ∧ s.impl.stopRequested = true)
    (ht : t.core = (s.moveWorker pc).core) : t.core.Control := by
  rw [ht, core_moveWorker hw]
  have hr : Core.Released { s.core with worker := some { w with pc := pc } } := by
    rintro v ⟨⟩
    exact hout'
  have hmove : s.core.Settled → Core.Settled { s.core with worker := some { w with pc := pc } } := by
    refine fun hs => hs.move hw hlive hlive' fun hrun hin => ?_
    rcases hloop hin with hpc | ⟨-, hstop⟩
    · exact hpc
    · exact absurd (hstop.symm.trans hrun) (by simp)
  have hat : s.holder ≠ none → s.core.WorkerAt WorkerPc.inLoop →
      Core.WorkerAt { s.core with worker := some { w with pc := pc } } WorkerPc.inLoop := by
    rintro hne ⟨v, hv, hin, hsess⟩
    cases hw.symm.trans hv
    rcases hloop hin with hpc | ⟨hn, -⟩
    · exact ⟨_, rfl, hpc, hsess⟩
    · exact absurd hn hne
  cases hh : s.holder with
  | none =>
    refine Core.control_of_settled hh hr (hmove (h.settled hh ?_))
    intro v hv
    cases hw.symm.trans hv
    exact hout
  | some call =>
    have hc := h.call hh
    refine Core.control_of_call hh hr ?_
    cases call with
    | startEntered | stopEntered | stopLookup | shutdownEntered => exact hmove hc
    | startJoining => exact ⟨hmove hc.1, hc.2⟩
    | startLookup | destroying | startRethrow | startFailed => cases hw.symm.trans hc.1
    | startPreparing | startWriter | startReleaseWriter | startSidecar | startReleaseSidecar
    | startPublish | startSpawn => cases hw.symm.trans hc.1.1
    | startRecording | startAdmit =>
      cases hw.symm.trans hc.1
      rcases hwait with hn | hne
      · cases hh.symm.trans hn
      · exact absurd rfl hne
    | stopBegin | shutdownBegin | shutdownCatch => exact ⟨hat (by simp [hh]) hc.1, hc.2⟩

private theorem workerHolds_control {w : Worker} (pc : WorkerPc) (hh : s.holder = none)
    (hw : s.worker = some w) (hm : pc.holdsMutex = true)
    (hc : Core.WorkerHolds s.core { w with pc := pc })
    (ht : t.core = (s.moveWorker pc).core) : t.core.Control := by
  rw [ht, core_moveWorker hw]
  exact Core.control_of_worker hh rfl hm hc

private theorem dispatch_control {w : Worker} (h : s.core.Settled) (hh : s.holder = none)
    (hw : s.worker = some w) (hlive : w.pc.isLive = true) : s.dispatch.core.Control := by
  have hmove : ∀ pc : WorkerPc, pc.isLive = true → pc.holdsMutex = false →
      (s.impl.stopRequested = true ∨ pc.inLoop = true) →
      ∀ t : System, t.core = (s.moveWorker pc).core → t.core.Control := by
    intro pc hl hm hp t ht
    rw [ht, core_moveWorker hw]
    refine Core.control_of_settled hh ?_ (h.move hw hlive hl fun hrun _ => ?_)
    · rintro v ⟨⟩
      exact hm
    · rcases hp with hp | hp
      · exact absurd (hp.symm.trans hrun) (by simp)
      · exact hp
  unfold System.dispatch
  split
  · rename_i hq
    exact hmove _ rfl rfl (.inl hq.2) _ rfl
  · split
    · exact hmove _ rfl rfl (.inr rfl) _ rfl
    · exact hmove _ rfl rfl (.inr rfl) _ rfl

/-- The end of the wait, for a worker that has its session while the flags are up. -/
private theorem afterWait_control {w : Worker} (h : s.core.Settled) (hh : s.holder = none)
    (hw : s.worker = some w) (hin : w.pc.inLoop = true) : s.afterWait.core.Control := by
  have hlive := isLive_of_inLoop hin
  unfold System.afterWait
  split
  · rename_i hrun
    refine workerHolds_control (.loop (.begin .enter)) hh hw rfl ?_ rfl
    rcases h.cases with ⟨-, hn, -⟩ | ⟨ho, v, hv, -, hsess⟩ | ⟨hc, -⟩ | ⟨-, he⟩
    · cases hw.symm.trans hn
    · cases hw.symm.trans hv
      exact ⟨hsess, ho⟩
    · exact absurd (hc.2.2.symm.trans hrun.1) (by simp)
    · exact absurd ((he.2 w hw hlive).1.symm.trans hrun.1) (by simp)
  · exact dispatch_control h hh hw hlive

private theorem advanceWorker_control {α : Type} {p : StoreProg α} {point : StoreProg α → WorkerPc}
    {onReturn : α → System} {onThrow : Exception → System}
    (hpoint : ∀ p' (u : System), u.core = (s.moveWorker (point p')).core → u.core.Control)
    (hret : ∀ a, (onReturn a).core.Control) (hthrow : ∀ e, (onThrow e).core.Control) :
    (s.advanceWorker c point onReturn onThrow p).core.Control := by
  cases p with
  | pure a => exact hret a
  | throw e => exact hthrow e
  | op o k => exact hpoint _ _ rfl

private theorem requireDeadline_control {next : WorkerPc} (hfault : (s.moveWorker .fault).core.Control)
    (hnext : (s.moveWorker next).core.Control) : (s.requireDeadline next).core.Control := by
  unfold System.requireDeadline
  split
  · exact hfault
  · exact hnext

/-- The last store of the worker. -/
private theorem finished_control {w : Worker} {state : RecordingState}
    (hs : state = .finalized ∨ state = .faulted) (hh : s.holder = none)
    (hw : s.worker = some w) (hadm : t.impl.admitting = false)
    (ht : t.core = { (s.moveWorker .finished).core with
      state := state, admitting := t.impl.admitting, stopRequested := t.impl.stopRequested }) :
    t.core.Control := by
  rw [ht, core_moveWorker hw]
  refine Core.control_of_settled hh ?_ (Core.settled_of_ended hs ⟨hadm, ?_⟩)
  · rintro v ⟨⟩
    rfl
  · rintro v ⟨⟩ hlive
    cases hlive

private theorem settled_of_free {w : Worker} (h : s.core.Control) (hw : s.worker = some w)
    (hn : s.holder = none) (hm : w.pc.holdsMutex = false) : s.core.Settled := by
  refine h.settled hn fun v hv => ?_
  cases hw.symm.trans hv
  exact hm

private theorem holder_of_worker {w : Worker} (h : s.core.Control) (hw : s.worker = some w)
    (hm : w.pc.holdsMutex = true) : s.holder = none := by
  by_contra hne
  obtain ⟨call, hh⟩ := Option.ne_none_iff_exists'.mp hne
  cases hm.symm.trans (h.released hh w hw)

theorem loopStep_control {id : ByteString} {pc : LoopPc} (h : s.core.Control)
    (hw : s.worker = some ⟨id, .loop pc⟩) (he : s.loopStep setup c pc = some t) :
    t.core.Control := by
  have hmove : ∀ pc' : WorkerPc, (WorkerPc.loop pc).holdsMutex = false →
      (s.holder = none ∨ pc ≠ .acquire) → pc'.inLoop = true →
      ∀ u : System, u.core = (s.moveWorker pc').core → u.core.Control := by
    intro pc' hm ha hin u hu
    exact move_control h hw rfl hm (ha.imp_right fun hne heq => hne (WorkerPc.loop.inj heq))
      (isLive_of_inLoop hin) (outside_of_inLoop hin) (fun _ => .inl hin) hu
  cases pc with
  | acquire =>
    simp only [System.loopStep] at he
    split at he
    · cases he
    · rename_i hn
      have hnone : s.holder = none := by simpa using hn
      split at he <;> cases he
      · exact hmove _ rfl (.inl hnone) rfl _ rfl
      · exact afterWait_control (settled_of_free h hw hnone rfl) hnone hw rfl
  | waiting =>
    simp only [System.loopStep] at he
    split at he
    · cases he
    · rename_i hn
      have hnone : s.holder = none := by simpa using hn
      split at he <;> cases he
      · exact afterWait_control (settled_of_free h hw hnone rfl) hnone hw rfl
      · exact h
  | begin b =>
    cases he
    have hn := holder_of_worker h hw rfl
    obtain ⟨hsess, hf⟩ := h.worker hn hw rfl
    rcases begin_cases setup c hf with ⟨u, b', he, hs, hf'⟩ | ⟨u, he, hs, hf'⟩ | ⟨u, e, he, hs, hf'⟩
    all_goals
      rw [he]
      have hw' : u.worker = some ⟨id, .loop (.begin b)⟩ := (congrArg Core.worker hs).trans hw
      have hn' : u.holder = none := (congrArg Core.holder hs).trans hn
      have hsess' : u.core.Session ⟨id, .loop (.begin b)⟩ := by
        rw [hs]
        exact hsess
    · exact workerHolds_control (.loop (.begin b')) hn' hw' rfl ⟨hsess', hf'⟩ rfl
    · exact workerHolds_control (.loop .dispatch) hn' hw' rfl ⟨hsess', hf'⟩ rfl
    · rw [core_moveWorker hw']
      refine Core.control_of_settled hn' ?_
        (settled_of_closer ⟨_, rfl, rfl, hsess'⟩ (.inr hf'))
      rintro v ⟨⟩
      rfl
  | dispatch =>
    cases he
    have hn := holder_of_worker h hw rfl
    obtain ⟨hsess, hclosed⟩ := h.worker hn hw rfl
    exact dispatch_control (Core.settled_of_closed hclosed ⟨_, hw, rfl, hsess⟩) hn hw rfl
  | frameDeadline frame =>
    simp only [System.loopStep] at he
    split at he
    · cases he
    · cases he
      exact requireDeadline_control (hmove _ rfl (.inr nofun) rfl _ rfl)
        (hmove _ rfl (.inr nofun) rfl _ rfl)
  | checkFrame frame =>
    simp only [System.loopStep] at he
    split at he <;> cases he
    · exact hmove _ rfl (.inr nofun) rfl _ rfl
    · exact hmove _ rfl (.inr nofun) rfl _ rfl
  | writeFrame frame p =>
    cases he
    refine advanceWorker_control (fun _ u hu => hmove _ rfl (.inr nofun) rfl u hu)
      (fun r => ?_) fun _ => hmove _ rfl (.inr nofun) rfl _ rfl
    cases s.impl.sidecar with
    | some sidecar => exact hmove _ rfl (.inr nofun) rfl _ rfl
    | none => exact hmove _ rfl (.inr nofun) rfl _ rfl
  | appendFrame frame p =>
    cases he
    exact advanceWorker_control (fun _ u hu => hmove _ rfl (.inr nofun) rfl u hu)
      (fun _ => hmove _ rfl (.inr nofun) rfl _ rfl) fun _ => hmove _ rfl (.inr nofun) rfl _ rfl
  | countFrame frame =>
    simp only [System.loopStep] at he
    split at he
    · cases he
    · cases he
      exact hmove _ rfl (.inr nofun) rfl _ rfl

seal serializeFinalizedRecordingManifest in
/-- The manifest is written once its text is made. -/
theorem closingStep_writeManifest (manifest : FinalizedRecordingManifest)
    (video sidecar : RecordingArtifactDigest) :
    s.closingStep setup c (.writeManifest manifest video sidecar) =
      match serializeFinalizedRecordingManifest manifest video sidecar with
      | .ok contents => some (s.moveWorker (.closing (.manifest
          (RecordingStore.writeFinalizedManifest s.impl.artifactPaths contents))))
      | .error _ => some (s.moveWorker .fault) := by
  unfold System.closingStep
  rfl

theorem closingStep_control {id : ByteString} {pc : ClosingPc} (h : s.core.Control)
    (hw : s.worker = some ⟨id, .closing pc⟩) (he : s.closingStep setup c pc = some t) :
    t.core.Control := by
  have hmove : ∀ pc' : WorkerPc, pc'.isLive = true → pc'.holdsMutex = false →
      ∀ u : System, u.core = (s.moveWorker pc').core → u.core.Control := by
    intro pc' hl hm u hu
    exact move_control h hw rfl rfl (.inr nofun) hl hm (fun hin => by cases hin) hu
  have hadvance : ∀ {α : Type} (p : StoreProg α) (point : StoreProg α → ClosingPc)
      (onReturn : α → System), (∀ a, (onReturn a).core.Control) →
      (s.advanceWorker c (fun p => .closing (point p)) onReturn
        (fun _ => s.moveWorker .fault) p).core.Control := by
    intro α p point onReturn hret
    exact advanceWorker_control (fun p' u hu => hmove _ rfl rfl u hu) hret
      fun _ => hmove _ rfl rfl _ rfl
  have hdeadline : ∀ next : ClosingPc, (s.requireDeadline (.closing next)).core.Control :=
    fun next => requireDeadline_control (hmove _ rfl rfl _ rfl) (hmove _ rfl rfl _ rfl)
  have hfault : (s.moveWorker .fault).core.Control := hmove _ rfl rfl _ rfl
  cases pc with
  | deadline1 =>
    change (if s.holder.isSome = true then none else _) = some t at he
    split at he
    · cases he
    · split at he <;> cases he
      · exact hdeadline _
      · exact hfault
  | deadline2 =>
    change (if s.holder.isSome = true then none else _) = some t at he
    split at he
    · cases he
    · split at he <;> cases he
      · exact hdeadline _
      · exact hfault
  | deadline3 | deadline4 | deadline5 =>
    change (if s.holder.isSome = true then none else _) = some t at he
    split at he
    · cases he
    · cases he
      exact hdeadline _
  | readDeadline | snapshot =>
    change (if s.holder.isSome = true then none else _) = some t at he
    split at he
    · cases he
    · cases he
      exact hmove _ rfl rfl _ rfl
  | writer | sidecar | digestVideo | digestSidecar | manifest | activate =>
    cases he
    exact hadvance _ _ _ fun _ => hmove _ rfl rfl _ rfl
  | writeManifest manifest video sidecar =>
    rw [closingStep_writeManifest] at he
    split at he <;> cases he
    · exact hmove _ rfl rfl _ rfl
    · exact hfault
  | publish =>
    change (if s.holder.isSome = true then none else _) = some t at he
    split at he
    · cases he
    · rename_i hn
      cases he
      have hnone : s.holder = none := by simpa using hn
      exact finished_control (.inl rfl) hnone hw ((settled_of_free h hw hnone rfl).admitting_of_closing hw rfl) rfl

theorem workerStep_control {w : Worker} (h : s.core.Control) (hw : s.worker = some w)
    (he : s.workerStep setup c w.pc = some t) : t.core.Control := by
  obtain ⟨id, pc⟩ := w
  cases pc with
  | loop pc => exact loopStep_control h hw he
  | closing pc => exact closingStep_control h hw he
  | fault =>
    simp only [System.workerStep] at he
    split at he
    · cases he
    · rename_i hn
      cases he
      exact finished_control (.inr rfl) (by simpa using hn) hw rfl rfl
  | finished => cases he

theorem enter_control {call : ApiCall} (h : s.core.Control) (he : s.enter call = some t) :
    t.core.Control := by
  have hfree : s.mutexFree = true → s.holder = none ∧ s.core.Released ∧ s.core.Settled := by
    intro hm
    simp only [System.mutexFree, Bool.and_eq_true, Option.isNone_iff_eq_none] at hm
    have hr : s.core.Released := by
      intro w hw
      have hall := hm.2
      rw [show s.worker = some w from hw] at hall
      simpa using hall
    exact ⟨hm.1, hr, h.settled hm.1 hr⟩
  cases call with
  | start request =>
    simp only [System.enter] at he
    split at he
    · rename_i hm
      cases he
      exact Core.control_of_call rfl (hfree hm).2.1 (hfree hm).2.2
    · cases he
  | stop request =>
    simp only [System.enter] at he
    split at he
    · cases he
      exact h
    · split at he
      · rename_i hm
        cases he
        exact Core.control_of_call rfl (hfree hm).2.1 (hfree hm).2.2
      · cases he
  | shutdown =>
    simp only [System.enter] at he
    split at he
    · rename_i hm
      cases he
      exact Core.control_of_call rfl (hfree hm).2.1 (hfree hm).2.2
    · cases he
  | destroy =>
    simp only [System.enter] at he
    split at he
    · rename_i hm
      cases he
      have hw : s.worker = none := by simpa using hm.2.1
      exact Core.control_of_call rfl (hfree hm.1).2.1 ((hfree hm.1).2.2.quiet hw)
    · cases he

/-- Joining a worker that has returned. -/
private theorem join_control (h : s.core.Control) (hdead : s.workerLive = false) :
    Core.Control { s.core with worker := none } := by
  have hr : Core.Released { s.core with worker := none } := Core.released_of_none rfl
  have hnone : ∀ {P : WorkerPc → Bool}, (∀ pc, P pc = true → pc.isLive = true) →
      ¬s.core.WorkerAt P := by
    rintro P hP ⟨w, hw, hin, -⟩
    have hw : s.worker = some w := hw
    simp [System.workerLive, hw, hP _ hin] at hdead
  have hsettled : s.core.Settled → Core.Settled { s.core with worker := none } := by
    intro hs
    rcases hs.cases with ⟨hi, -, ha⟩ | ⟨-, hat⟩ | ⟨-, hat⟩ | ⟨hst, he⟩
    · exact Core.Quiet.settled ⟨rfl, ha, .inl hi⟩
    · exact absurd hat (hnone fun _ => isLive_of_inLoop)
    · exact absurd hat (hnone fun _ => id)
    · exact Core.Quiet.settled ⟨rfl, he.1, .inr hst⟩
  have hspawned : ∀ {id : ByteString}, s.worker ≠ some ⟨id, .loop .acquire⟩ := by
    intro id hw
    simp [System.workerLive, hw, WorkerPc.isLive] at hdead
  cases hh : s.holder with
  | none =>
    by_cases hm : s.core.Released
    · exact Core.control_of_settled hh hr (hsettled (h.settled hh hm))
    · exfalso
      refine hm fun w hw => ?_
      have hw : s.worker = some w := hw
      simp only [System.workerLive, hw, Option.any_some] at hdead
      cases hpc : w.pc <;> simp_all [WorkerPc.isLive, WorkerPc.holdsMutex]
  | some call =>
    have hc := h.call hh
    refine Core.control_of_call hh hr ?_
    cases call with
    | startEntered | stopEntered | stopLookup | shutdownEntered => exact hsettled hc
    | startJoining => exact ⟨hsettled hc.1, hc.2⟩
    | startLookup | destroying | startRethrow | startFailed => exact ⟨rfl, hc.2⟩
    | startPreparing | startWriter | startReleaseWriter | startSidecar | startReleaseSidecar
    | startPublish | startSpawn => exact ⟨⟨rfl, hc.1.2⟩, hc.2⟩
    | startRecording | startAdmit => exact absurd hc.1 hspawned
    | stopBegin | shutdownBegin | shutdownCatch =>
      exact absurd hc.1 (hnone fun _ => isLive_of_inLoop)

theorem step_control {e : Event} (h : s.core.Control) (he : s.step setup e = some t) :
    t.core.Control := by
  cases e with
  | tick | setUnix =>
    cases he
    exact h
  | call c => exact enter_control h he
  | callStep c =>
    obtain ⟨call, hh, he⟩ := Option.bind_eq_some_iff.mp he
    exact callStep_control h hh he
  | workerStep c =>
    obtain ⟨w, hw, he⟩ := Option.bind_eq_some_iff.mp he
    exact workerStep_control h hw he
  | join =>
    simp only [System.step] at he
    split at he
    · rename_i hj
      cases he
      exact join_control (s := s) h hj.2
    · cases he
  | submit frame =>
    simp only [System.step] at he
    split at he
    · cases he
      unfold System.submit
      split
      · exact h
      · split
        · exact h
        · exact h
    · cases he
  | submitContended frame =>
    simp only [System.step] at he
    split at he
    · cases he
      exact h
    · cases he
  | captureStep =>
    obtain ⟨call, -, rfl⟩ := Option.map_eq_some_iff.mp he
    unfold System.captureStep
    split
    · exact h
    · split
      · exact h
      · exact h
  | crash =>
    cases he
    exact exitProcess_control

end Step

theorem control_reachable {setup : Setup} {ok : System → Event → System → Prop} {s : System}
    (h : Reach (IsInitial setup) (System.step setup) ok s) : s.core.Control := by
  refine h.invariant (fun s => s.core.Control) ?_ fun s e t _ hs he _ => step_control hs he
  rintro s ⟨machine, -, rfl⟩
  exact Core.control_of_settled rfl (Core.released_of_none rfl) ⟨rfl, rfl⟩

end NodusVision.Manager
