import NodusVision.Guarantees.FrameAccounting
import NodusVision.Manager.Containment
import NodusVision.Manager.Operations

/-! Whatever ids the requests carry, no thread of the recorder leaves the directories of a safe id. -/
namespace NodusVision.Guarantees
open Text Storage Program Recording RecordingStore Manager Transition

/-- The id whose artifact a call works on. -/
def addressed (impl : Impl) : Call → Option ByteString
  | .startLookup request _ _ | .startPreparing request _ _ | .startWriter request _ _
  | .startSidecar request _ _ | .stopLookup request _ | .stopBegin request _ =>
    some request.recordingId
  | .shutdownBegin _ => some impl.recordingId
  | _ => none

/-- A call that destroys the writers of an earlier recording, or the last ones. -/
def closesWriters : Call → Bool
  | .destroying _ => true
  | call => call.releasing

/-- Where a path of an operation is resolved, below any root. -/
def ResolvesBelow (p : ManagedPath) : Prop :=
  ∀ root, components (pathText root p) = components root ++ pathTail p ∧
    ∀ name ∈ pathTail p, IsNormalComponent name

/-- Every file operation of the next step is confined, and an unsafe id leads to none. -/
structure PathsConfined (setup : Setup) (s : System) : Prop where
  performed : ∀ e t, s.step setup e = some t → Performed s t e.choice (s.next e)
  confined : ∀ e o, s.next e = some o →
    ∃ id, MatchesPattern id ∧ FsOp.Confined id o ∧ ∀ p ∈ FsOp.paths o, ResolvesBelow p
  works : ∀ c call id o, s.holder = some call → addressed s.impl call = some id →
    s.next (.callStep c) = some o → MatchesPattern id ∧ FsOp.Confined id o
  closing : ∀ c call o, s.holder = some call → closesWriters call = true →
    s.next (.callStep c) = some o → ∃ id path, MatchesPattern id ∧ FsOp.Confined id o ∧
      IsOutput id path ∧ WritesTo path o
  resting : ∀ c call, s.holder = some call → addressed s.impl call = none →
    closesWriters call = false → s.next (.callStep c) = none
  session : ∀ c w o, s.worker = some w → s.history.inSession = true →
    s.next (.workerStep c) = some o → FsOp.Confined w.recordingId o
  unsafeStart : ∀ c request t, ¬MatchesPattern request.recordingId →
    s.holder = some (.startEntered request) → s.step setup (.callStep c) = some t →
      t = s.release (.start request (.error unsafeStartIdentity))
  unsafeStop : ∀ request t, ¬MatchesPattern request.recordingId →
    s.step setup (.call (.stop request)) = some t →
      t = { s with history := s.history.ended (.stop request (.error unsafeStopIdentity)) }

section
variable {setup : Setup} {s t : System} {c : Choice} {o : FsOp}

theorem resolvesBelow_of_within {id : ByteString} {p : ManagedPath}
    (hid : isRecordingIdValid id = true) (hp : Within id p) : ResolvesBelow p := by
  intro root
  have hnormal := isRecordingIdValid_normal hid
  refine ⟨components_pathText hnormal hp, fun name hname => ?_⟩
  rcases hp with rfl | ⟨m, rfl⟩ | ⟨m, rfl⟩ | ⟨m, n, rfl⟩ <;>
    simp only [pathTail, List.mem_cons, List.not_mem_nil, or_false] at hname
  · exact hname ▸ managedText_normal m
  · rcases hname with rfl | rfl
    · exact managedText_normal m
    · exact hnormal
  · rcases hname with rfl | rfl | rfl
    · exact managedText_normal m
    · exact hnormal
    · exact entryText_normal n

theorem begin_next {b : BeginPc} {id : ByteString} (hb : b.Stays id) (ho : b.next = some o) :
    FsOp.Confined id o := by
  cases b with
  | evidence p => exact Prog.Uses.next hb ho
  | _ => cases ho

theorem kept_call {call : Call} {impl : Impl} (h : call.Contained impl) (ho : call.next = some o) :
    Kept o := by
  cases call with
  | startLookup request canonical p | stopLookup request p | startPreparing request canonical p =>
    exact ⟨_, h.1, h.2.next ho⟩
  | startWriter => exact ⟨_, h.1, h.2.next ho⟩
  | startSidecar => exact ⟨_, h.1, h.2.1.next ho⟩
  | startReleaseWriter | startReleaseSidecar => exact h.2.1.next ho
  | destroying p =>
    have hkept : Only Kept p := h
    exact hkept.next ho
  | stopBegin | shutdownBegin => exact ⟨_, h.1, begin_next h.2 ho⟩
  | _ => cases ho

theorem addressed_call {call : Call} {impl : Impl} {id : ByteString} (h : call.Contained impl)
    (hid : addressed impl call = some id) (ho : call.next = some o) :
    isRecordingIdValid id = true ∧ FsOp.Confined id o := by
  cases call with
  | startLookup | stopLookup | startPreparing | startWriter =>
    cases hid
    exact ⟨h.1, h.2.next ho⟩
  | startSidecar =>
    cases hid
    exact ⟨h.1, h.2.1.next ho⟩
  | stopBegin | shutdownBegin =>
    cases hid
    exact ⟨h.1, begin_next h.2 ho⟩
  | _ => cases hid

/-- The output file that an operation writes to is one of the artifact that it is confined to. -/
theorem output_of_confined {id : ByteString} (hc : FsOp.Confined id o)
    (h : ∃ i path, IsOutput i path ∧ WritesTo path o) :
    ∃ path, IsOutput id path ∧ WritesTo path o := by
  obtain ⟨i, path, hpath, hwrites⟩ := h
  have hsame : (∃ n, path = .entry .staging id n) → IsOutput id path := by
    rintro ⟨n, rfl⟩
    rcases hpath with he | he <;> cases he
    · exact .inl rfl
    · exact .inr rfl
  rcases hwrites with hreads | rfl | rfl | ⟨bytes, rfl⟩ | ⟨bytes, rfl⟩
  · exact ⟨videoPath id, .inl rfl, .inl hreads⟩
  · exact ⟨path, hsame hc, .inr (.inl rfl)⟩
  · exact ⟨path, hsame hc, .inr (.inr (.inl rfl))⟩
  · exact ⟨path, hsame hc, .inr (.inr (.inr (.inl ⟨bytes, rfl⟩)))⟩
  · exact ⟨path, hsame hc, .inr (.inr (.inr (.inr ⟨bytes, rfl⟩)))⟩

theorem closing_call {call : Call} {m : Machine} {impl : Impl} (h : call.Contained impl)
    (hs : call.Storage setup m impl) (hcall : closesWriters call = true) (ho : call.next = some o) :
    ∃ id path, isRecordingIdValid id = true ∧ FsOp.Confined id o ∧ IsOutput id path ∧
      WritesTo path o := by
  have hboth : Kept o → (∃ i path, IsOutput i path ∧ WritesTo path o) →
      ∃ id path, isRecordingIdValid id = true ∧ FsOp.Confined id o ∧ IsOutput id path ∧
        WritesTo path o := by
    rintro ⟨id, hid, hconfined⟩ hwrites
    obtain ⟨path, hpath⟩ := output_of_confined hconfined hwrites
    exact ⟨id, path, hid, hconfined, hpath⟩
  cases call with
  | startReleaseWriter request canonical p | startReleaseSidecar request canonical p =>
    have huses : OutputProgram p fun _ => True := hs.2.2
    unfold OutputProgram at huses
    exact hboth (h.2.1.next ho) (huses.next ho)
  | destroying p =>
    have hkept : Only Kept p := h
    have huses : OutputProgram p fun _ => True := hs
    unfold OutputProgram at huses
    exact hboth (hkept.next ho) (huses.next ho)
  | _ => cases hcall

theorem resting_call {call : Call} {impl : Impl} (hid : addressed impl call = none)
    (hcall : closesWriters call = false) : call.next = none := by
  cases call with
  | startLookup | startPreparing | startWriter | startSidecar | stopLookup | stopBegin
  | shutdownBegin => cases hid
  | startReleaseWriter | startReleaseSidecar | destroying => cases hcall
  | _ => rfl

/-- The next operation of the worker, on its own artifact while it is in its session. -/
theorem kept_worker {w : Worker} (h : w.Contained s) (ho : w.pc.next = some o) :
    ∃ id, isRecordingIdValid id = true ∧ FsOp.Confined id o ∧
      (s.history.inSession = true → id = w.recordingId) := by
  obtain ⟨hvalid, -, hprogram⟩ := h
  obtain ⟨id, pc⟩ := w
  have hown : FsOp.Confined id o → ∃ y, isRecordingIdValid y = true ∧ FsOp.Confined y o ∧
      (s.history.inSession = true → y = id) := fun hc => ⟨id, hvalid, hc, fun _ => rfl⟩
  cases pc with
  | loop k =>
    cases k with
    | begin b => exact hown (begin_next hprogram ho)
    | writeFrame frame p => exact hown (Prog.Uses.next hprogram ho)
    | appendFrame frame p => exact hown (Prog.Uses.next hprogram ho)
    | _ => cases ho
  | closing k =>
    cases k with
    | writer p => exact hown (Prog.Uses.next hprogram ho)
    | sidecar p => exact hown (Prog.Uses.next hprogram ho)
    | digestVideo | digestSidecar | manifest | activate =>
      obtain ⟨y, hy, hstays, hsame⟩ := hprogram
      exact ⟨y, hy, hstays.next ho, hsame⟩
    | _ => cases ho
  | _ => cases ho

theorem kept_next {e : Event} (h : s.Contained) (ho : s.next e = some o) : Kept o := by
  cases e with
  | callStep c =>
    obtain ⟨call, hh, hcall⟩ := Option.bind_eq_some_iff.mp ho
    exact kept_call (h.call call hh) hcall
  | workerStep c =>
    obtain ⟨w, hw, hpc⟩ := Option.bind_eq_some_iff.mp ho
    obtain ⟨id, hid, hconfined, -⟩ := kept_worker (h.worker w hw) hpc
    exact ⟨id, hid, hconfined⟩
  | _ => cases ho

end

/-- In every reachable state the next file operation names paths of one safe id only, whatever the
requests contain, and a request with an unsafe id is rejected without any. -/
theorem paths_confined {setup : Setup} {s : System}
    (h : Reach (IsInitial setup) (System.step setup) anyStep s) : PathsConfined setup s := by
  have hc := contained_reachable h
  have hs := storage_reachable h
  have hcalls : ∀ {c call}, s.holder = some call → s.next (.callStep c) = call.next := by
    intro c call hh
    simp only [System.next, hh, Option.bind_some]
  refine ⟨fun e t he => performed_step he, ?_, ?_, ?_, ?_, ?_, ?_, ?_⟩
  · intro e o ho
    obtain ⟨id, hid, hconfined⟩ := kept_next hc ho
    exact ⟨id, (isRecordingIdValid_iff id).mp hid, hconfined, fun p hp =>
      resolvesBelow_of_within hid (hconfined.within p hp)⟩
  · intro c call id o hh hr ho
    rw [hcalls hh] at ho
    obtain ⟨hid, hconfined⟩ := addressed_call (hc.call call hh) hr ho
    exact ⟨(isRecordingIdValid_iff _).mp hid, hconfined⟩
  · intro c call o hh hr ho
    rw [hcalls hh] at ho
    obtain ⟨id, path, hid, hconfined, hpath⟩ :=
      closing_call (hc.call call hh) (hs.call call hh) hr ho
    exact ⟨id, path, (isRecordingIdValid_iff _).mp hid, hconfined, hpath⟩
  · intro c call hh hr hcloses
    rw [hcalls hh]
    exact resting_call hr hcloses
  · intro c w o hw hin ho
    have hnext : w.pc.next = some o := by simpa only [System.next, hw, Option.bind_some] using ho
    obtain ⟨id, -, hconfined, hsame⟩ := kept_worker (hc.worker w hw) hnext
    exact hsame hin ▸ hconfined
  · intro c request t hunsafe hh he
    have hinvalid : isRecordingIdValid request.recordingId = false :=
      eq_false_of_ne_true fun hvalid => hunsafe ((isRecordingIdValid_iff _).mp hvalid)
    obtain ⟨call, hh', hstep⟩ := Option.bind_eq_some_iff.mp he
    cases hh.symm.trans hh'
    cases hstep
    simp only [System.startEntered, serializeRecordingStartRequest, hinvalid, or_true, if_true]
  · intro request t hunsafe he
    have hinvalid : isStopValid request = false := by
      refine eq_false_of_ne_true fun hvalid => hunsafe ((isRecordingIdValid_iff _).mp ?_)
      exact (Bool.and_eq_true_iff.mp hvalid).2
    simp only [System.step, System.enter, hinvalid, if_true] at he
    exact (Option.some.inj he).symm

/-- The worker is about to move the artifact. -/
def isActivating (s : System) : Bool :=
  match s.next (.workerStep smooth) with
  | some (.rename (.artifact _ _) _) => true
  | _ => false

set_option maxRecDepth 100000 in
theorem paths_confined_activation : ∃ s : System, isActivating s = true ∧
    PathsConfined sampleSetup s := by
  obtain ⟨s, hs, htest⟩ := sample_reach anyStep (fun _ => true) isActivating
    (fun _ _ _ _ => trivial) (framesRecorded.take 158) (by decide +kernel)
  exact ⟨s, htest, paths_confined hs⟩

end NodusVision.Guarantees
