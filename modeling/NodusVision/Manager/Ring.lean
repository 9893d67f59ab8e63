import NodusVision.Manager.Control
import NodusVision.Program.Window

/-! The ring of frames as a bounded queue, and what every step of the recorder does to it. -/
namespace NodusVision.Manager
open Text Storage Program Recording Transition

/-- Steps of a queue that holds at most `capacity` values. -/
inductive FifoStep {α : Type} (capacity : ℕ) : List α → List α → Prop
  | same (values : List α) : FifoStep capacity values values
  | enter (values : List α) (value : α) (h : values.length < capacity) :
      FifoStep capacity values (values ++ [value])
  | leave (value : α) (values : List α) : FifoStep capacity (value :: values) values
  | clear (values : List α) : FifoStep capacity values []

namespace FrameRing
variable {r : FrameRing} {capacity : ℕ}

/-- The queued frames, the oldest first. -/
def frames (r : FrameRing) : List CapturedFrame := window r.slots r.head r.count

/-- The indices agree with the slots. -/
structure WellFormed (capacity : ℕ) (r : FrameRing) : Prop where
  size : r.slots.length = capacity
  head : r.head < capacity
  tail : r.tail = (r.head + r.count) % capacity
  filled : IsWindow r.slots r.head r.count

theorem WellFormed.count_le (h : r.WellFormed capacity) : r.count ≤ capacity := by
  have hfits := h.filled.fits
  rwa [h.size] at hfits

theorem WellFormed.length_frames (h : r.WellFormed capacity) : r.frames.length = r.count :=
  h.filled.length_window

theorem wellFormed_empty (h : 0 < capacity) : (empty capacity).WellFormed capacity := by
  constructor
  · exact List.length_replicate
  · exact h
  · exact (Nat.zero_mod capacity).symm
  · exact isWindow_replicate capacity 0

theorem frames_empty : (empty capacity).frames = [] := rfl

theorem WellFormed.reset (h : r.WellFormed capacity) : r.reset = empty capacity := by
  unfold FrameRing.reset
  rw [h.size]

theorem WellFormed.push (h : r.WellFormed capacity) (hroom : r.count < capacity)
    (frame : CapturedFrame) :
    (r.push frame).WellFormed capacity ∧ (r.push frame).frames = r.frames ++ [frame] := by
  have hfits : r.count < r.slots.length := by
    rw [h.size]
    exact hroom
  have hslots : (r.push frame).slots =
      r.slots.set ((r.head + r.count) % r.slots.length) (some frame) := by
    rw [h.size, ← h.tail]
    rfl
  constructor
  · constructor
    · rw [hslots, List.length_set]
      exact h.size
    · exact h.head
    · show (r.tail + 1) % r.slots.length = (r.head + (r.count + 1)) % capacity
      rw [h.size, h.tail, Nat.mod_add_mod, Nat.add_assoc]
    · rw [hslots]
      exact h.filled.push hfits frame
  · show window (r.push frame).slots r.head (r.count + 1) = _
    rw [hslots]
    exact IsWindow.window_push hfits frame

/-- A queue that is not empty has a frame at its head. -/
theorem WellFormed.pop (h : r.WellFormed capacity) (hne : r.count ≠ 0) :
    ∃ frame, r.front = some frame ∧ r.frames = frame :: r.pop.frames ∧
      r.pop.WellFormed capacity := by
  obtain ⟨count, hcount⟩ := Nat.exists_eq_succ_of_ne_zero hne
  have hfilled := h.filled
  rw [hcount] at hfilled
  have hhead : r.head < r.slots.length := by
    rw [h.size]
    exact h.head
  have hpop : r.pop.count = count := by
    show r.count - 1 = count
    omega
  obtain ⟨frame, hfront, hwindow⟩ := hfilled.window_pop hhead
  refine ⟨frame, hfront, ?_, ?_⟩
  · unfold frames
    rw [hpop, hcount]
    exact hwindow
  · constructor
    · show (r.slots.set r.head none).length = capacity
      rw [List.length_set]
      exact h.size
    · show (r.head + 1) % r.slots.length < capacity
      rw [h.size]
      exact Nat.mod_lt _ (Nat.zero_lt_of_lt h.head)
    · show r.tail = ((r.head + 1) % r.slots.length + r.pop.count) % capacity
      rw [h.tail, h.size, hpop, hcount, Nat.mod_add_mod]
      congr 1
      omega
    · rw [hpop]
      exact hfilled.pop hhead

end FrameRing

/-- The frame that a step of the worker has taken out of the queue. -/
def taken (e : Event) (t : System) : List CapturedFrame :=
  match e, t.worker with
  | .workerStep _, some ⟨_, .loop (.frameDeadline frame)⟩ => [frame]
  | _, _ => []

/-- The step opens the session of a start, or ends the process. -/
def clears (s : System) : Event → Bool
  | .crash => true
  | .callStep _ =>
    match s.holder with
    | some (.startPublish _ _) | some (.destroying (.pure _)) | some (.destroying (.throw _)) => true
    | _ => false
  | _ => false

/-- What a step does to the queue, apart from one that clears it for a new recording. -/
inductive RingStep (s t : System) (frames : List CapturedFrame) : Prop
  | same (hq : t.impl.queue = s.impl.queue) (ha : t.history.admitted = s.history.admitted)
      (hin : t.history.inSession = s.history.inSession) (hf : frames = [])
  | restored (hq : t.impl.queue = s.impl.queue.reset)
      (ha : t.history.admitted = s.history.admitted) (hin : t.history.inSession = false)
      (hf : frames = [])
  | admitted (frame : CapturedFrame) (hs : s.history.inSession = true)
      (hroom : s.impl.queue.count ≠ s.impl.queue.slots.length)
      (hq : t.impl.queue = s.impl.queue.push frame)
      (ha : t.history.admitted = s.history.admitted ++ [frame])
      (hin : t.history.inSession = s.history.inSession) (hf : frames = [])
  | dequeued (frame : CapturedFrame) (hne : s.impl.queue.count ≠ 0)
      (hfront : s.impl.queue.front = some frame) (hq : t.impl.queue = s.impl.queue.pop)
      (ha : t.history.admitted = s.history.admitted)
      (hin : t.history.inSession = s.history.inSession) (hf : frames = [frame])

section Steps
variable {setup : Setup} {s t u : System} {c : Choice}

/-- The queue and what is recorded about it. -/
structure KeepsRing (s t : System) : Prop where
  queue : t.impl.queue = s.impl.queue
  admitted : t.history.admitted = s.history.admitted
  inSession : t.history.inSession = s.history.inSession

theorem KeepsRing.refl (s : System) : KeepsRing s s := ⟨rfl, rfl, rfl⟩

theorem KeepsRing.step (h : KeepsRing s t) {frames : List CapturedFrame} (hf : frames = []) :
    RingStep s t frames := .same h.queue h.admitted h.inSession hf

/-- The worker comes to a point other than the one behind the queue. -/
def Elsewhere (pc : WorkerPc) : Prop := ∀ frame, pc ≠ .loop (.frameDeadline frame)

theorem taken_eq_nil {w : Worker} (hw : t.worker = some w) (hpc : Elsewhere w.pc) :
    taken (.workerStep c) t = [] := by
  obtain ⟨id, pc⟩ := w
  unfold taken
  rw [hw]
  cases pc with
  | loop k =>
    cases k with
    | frameDeadline frame => exact absurd rfl (hpc frame)
    | _ => rfl
  | _ => rfl

/-- A step of the worker beside the queue. -/
structure Beside (s t : System) : Prop extends KeepsRing s t where
  worker : ∃ w, t.worker = some w ∧ Elsewhere w.pc

theorem Beside.step (h : Beside s t) : RingStep s t (taken (.workerStep c) t) := by
  obtain ⟨w, hw, hpc⟩ := h.worker
  exact h.toKeepsRing.step (taken_eq_nil hw hpc)

theorem beside_moved {pc : WorkerPc} (hk : KeepsRing s t)
    (ht : t.worker = s.worker.map fun w => { w with pc := pc }) (hw : s.worker.isSome = true)
    (hpc : Elsewhere pc) : Beside s t := by
  obtain ⟨w, hw⟩ := Option.isSome_iff_exists.mp hw
  refine ⟨hk, { w with pc := pc }, ?_, hpc⟩
  rw [ht, hw]
  rfl

theorem beside_requireDeadline (hw : s.worker.isSome = true) {next : WorkerPc}
    (hpc : Elsewhere next) : Beside s (s.requireDeadline next) := by
  unfold System.requireDeadline
  split
  · exact beside_moved ⟨rfl, rfl, rfl⟩ rfl hw fun _ h => by cases h
  · exact beside_moved ⟨rfl, rfl, rfl⟩ rfl hw hpc

theorem beside_advanceWorker {α : Type} {point : StoreProg α → WorkerPc} {onReturn : α → System}
    {onThrow : Exception → System} {p : StoreProg α} (hw : s.worker.isSome = true)
    (hpoint : ∀ q, Elsewhere (point q)) (hret : ∀ a, Beside s (onReturn a))
    (hthrow : ∀ e, Beside s (onThrow e)) :
    Beside s (s.advanceWorker c point onReturn onThrow p) := by
  cases p with
  | pure a => exact hret a
  | throw e => exact hthrow e
  | op o k => exact beside_moved ⟨rfl, rfl, rfl⟩ rfl hw (hpoint _)

/-- The worker leaves the loop, or takes the frame at the head. -/
theorem dispatch_ring (hw : s.worker.isSome = true) {n : ℕ} (hr : s.impl.queue.WellFormed n)
    (hready : s.impl.queue.count ≠ 0 ∨ s.impl.stopRequested = true) :
    RingStep s s.dispatch (taken (.workerStep c) s.dispatch) ∧
      ∀ w, s.dispatch.worker = some w → w.pc ≠ .fault := by
  obtain ⟨w, hw⟩ := Option.isSome_iff_exists.mp hw
  unfold System.dispatch
  by_cases hend : s.impl.queue.count = 0 ∧ s.impl.stopRequested = true
  · rw [if_pos hend]
    have hbeside : Beside s (s.moveWorker (.closing .deadline1)) :=
      beside_moved ⟨rfl, rfl, rfl⟩ rfl (by rw [hw]; rfl) fun _ h => by cases h
    refine ⟨hbeside.step, fun v hv hf => ?_⟩
    simp only [System.moveWorker, hw, Option.map_some] at hv
    cases hv
    cases hf
  · rw [if_neg hend]
    have hne : s.impl.queue.count ≠ 0 := by
      intro hzero
      exact hend ⟨hzero, hready.resolve_left fun h => h hzero⟩
    obtain ⟨frame, hfront, -, -⟩ := hr.pop hne
    simp only [hfront]
    constructor
    · refine .dequeued frame hne hfront rfl rfl rfl ?_
      simp only [taken, System.moveWorker, hw, Option.map_some]
    · intro v hv hf
      simp only [System.moveWorker, hw, Option.map_some] at hv
      cases hv
      cases hf

theorem afterWait_ring (hw : s.worker.isSome = true) {n : ℕ} (hr : s.impl.queue.WellFormed n)
    (hready : s.impl.queue.count ≠ 0 ∨ s.impl.stopRequested = true ∨
      s.impl.durationDeadline ≤ s.machine.steady) :
    RingStep s s.afterWait (taken (.workerStep c) s.afterWait) ∧
      ∀ w, s.afterWait.worker = some w → w.pc ≠ .fault := by
  unfold System.afterWait
  by_cases hlate : s.impl.stopRequested = false ∧ s.impl.durationDeadline ≤ s.machine.steady
  · rw [if_pos hlate]
    have hbeside : Beside s (s.moveWorker (.loop (.begin .enter))) :=
      beside_moved ⟨rfl, rfl, rfl⟩ rfl hw fun _ h => by cases h
    refine ⟨hbeside.step, fun v hv hf => ?_⟩
    obtain ⟨w, hw⟩ := Option.isSome_iff_exists.mp hw
    simp only [System.moveWorker, hw, Option.map_some] at hv
    cases hv
    cases hf
  · rw [if_neg hlate]
    apply dispatch_ring hw hr
    rcases hready with hne | hstop | hdeadline
    · exact .inl hne
    · exact .inr hstop
    · right
      by_contra hrun
      exact hlate ⟨Bool.eq_false_of_not_eq_true hrun, hdeadline⟩

theorem begin_ring {R : System → Prop} {closer : Closer} {point : System → BeginPc → System}
    {finish : System → System} {rethrow : System → Exception → System} {b : BeginPc}
    (hpoint : ∀ u b', KeepsRing s u → u.worker = s.worker → R (point u b'))
    (hfinish : ∀ u, KeepsRing s u → u.worker = s.worker → R (finish u))
    (hrethrow : ∀ u e, KeepsRing s u → u.worker = s.worker → R (rethrow u e)) :
    R (b.step setup s c closer point finish rethrow) := by
  cases b with
  | enter | closeAdmission => exact hpoint _ _ ⟨rfl, rfl, rfl⟩ rfl
  | evidence p => cases p <;> exact hpoint _ _ ⟨rfl, rfl, rfl⟩ rfl
  | checkDeadline =>
    simp only [BeginPc.step]
    split
    · exact hpoint _ _ ⟨rfl, rfl, rfl⟩ rfl
    · exact hfinish _ ⟨rfl, rfl, rfl⟩ rfl
  | fail e => exact hrethrow _ _ ⟨rfl, rfl, rfl⟩ rfl

theorem beginWorker_ring (hw : s.worker.isSome = true) {b : BeginPc} :
    Beside s (b.step setup s c .maxDuration (fun s b => s.moveWorker (.loop (.begin b)))
      (fun s => s.moveWorker (.loop .dispatch)) (fun s _ => s.moveWorker .fault)) := by
  have hmove : ∀ {u : System} (pc : WorkerPc), KeepsRing s u → u.worker = s.worker →
      Elsewhere pc → Beside s (u.moveWorker pc) := by
    intro u pc hu hwu hpc
    refine beside_moved ⟨hu.queue, hu.admitted, hu.inSession⟩ ?_ hw hpc
    rw [← hwu]
    rfl
  apply begin_ring
  · exact fun u b' hu hwu => hmove _ hu hwu fun _ h => by cases h
  · exact fun u hu hwu => hmove _ hu hwu fun _ h => by cases h
  · exact fun u e hu hwu => hmove _ hu hwu fun _ h => by cases h

/-- The worker is about to look at the queue. -/
def LoopPc.looks : LoopPc → Bool
  | .acquire | .waiting | .dispatch => true
  | _ => false

theorem loopStep_ring {w : Worker} {k : LoopPc} (hk : s.core.Control) (hw : s.worker = some w)
    (hpc : w.pc = .loop k) {n : ℕ} (hr : s.impl.queue.WellFormed n)
    (he : s.loopStep setup c k = some t) :
    RingStep s t (taken (.workerStep c) t) ∧
      (k.looks = true → ∀ w, t.worker = some w → w.pc ≠ .fault) := by
  have hsome : s.worker.isSome = true := by
    rw [hw]
    rfl
  have hplain : k.looks = false → Beside s t → RingStep s t (taken (.workerStep c) t) ∧
      (k.looks = true → ∀ w, t.worker = some w → w.pc ≠ .fault) := by
    intro hlook hbeside
    refine ⟨hbeside.step, fun h => ?_⟩
    cases hlook.symm.trans h
  cases k with
  | acquire =>
    simp only [System.loopStep] at he
    split at he
    · cases he
    · split at he
      · cases he
        have hbeside : Beside s (s.moveWorker (.loop .waiting)) :=
          beside_moved ⟨rfl, rfl, rfl⟩ rfl hsome fun _ h => by cases h
        refine ⟨hbeside.step, fun _ v hv hf => ?_⟩
        simp only [System.moveWorker, hw, Option.map_some] at hv
        cases hv
        cases hf
      · rename_i hwork
        cases he
        obtain ⟨hstep, hpc⟩ := afterWait_ring (c := c) hsome hr (by
          by_contra hnone
          rw [not_or, not_or, not_not] at hnone
          exact hwork ⟨Bool.eq_false_of_not_eq_true hnone.2.1, hnone.1⟩)
        exact ⟨hstep, fun _ => hpc⟩
  | waiting =>
    simp only [System.loopStep] at he
    split at he
    · cases he
    · split at he
      · rename_i hready
        cases he
        obtain ⟨hstep, hpc⟩ := afterWait_ring (c := c) hsome hr hready
        exact ⟨hstep, fun _ => hpc⟩
      · cases he
        have hbeside : Beside s s := ⟨.refl s, w, hw, fun frame h => by
          rw [hpc] at h
          cases h⟩
        refine ⟨hbeside.step, fun _ v hv hf => ?_⟩
        cases hw.symm.trans hv
        rw [hpc] at hf
        cases hf
  | dispatch =>
    cases he
    have hstop : s.impl.stopRequested = true := by
      have hnone : s.holder = none := by
        by_contra hne
        obtain ⟨call, hh⟩ := Option.ne_none_iff_exists'.mp hne
        have hfree := hk.released hh w hw
        rw [hpc] at hfree
        cases hfree
      obtain ⟨id, pc⟩ := w
      cases hpc
      exact (hk.worker hnone hw rfl).2.2.2
    obtain ⟨hstep, hpc⟩ := dispatch_ring (c := c) hsome hr (.inr hstop)
    exact ⟨hstep, fun _ => hpc⟩
  | begin b =>
    cases he
    exact hplain rfl (beginWorker_ring hsome)
  | frameDeadline frame =>
    simp only [System.loopStep] at he
    split at he <;> cases he
    exact hplain rfl (beside_requireDeadline hsome fun _ h => by cases h)
  | checkFrame frame =>
    simp only [System.loopStep] at he
    split at he <;> cases he
    · exact hplain rfl (beside_moved ⟨rfl, rfl, rfl⟩ rfl hsome fun _ h => by cases h)
    · exact hplain rfl (beside_moved ⟨rfl, rfl, rfl⟩ rfl hsome fun _ h => by cases h)
  | writeFrame frame p =>
    cases he
    refine hplain rfl (beside_advanceWorker hsome (fun _ _ h => by cases h) (fun r => ?_) fun _ =>
      beside_moved ⟨rfl, rfl, rfl⟩ rfl hsome fun _ h => by cases h)
    refine beside_moved ⟨rfl, rfl, rfl⟩ rfl hsome fun frame h => ?_
    revert h
    split
    · intro h
      cases h
    · intro h
      cases h
  | appendFrame frame p =>
    cases he
    exact hplain rfl (beside_advanceWorker hsome (fun _ _ h => by cases h)
      (fun _ => beside_moved ⟨rfl, rfl, rfl⟩ rfl hsome fun _ h => by cases h)
      fun _ => beside_moved ⟨rfl, rfl, rfl⟩ rfl hsome fun _ h => by cases h)
  | countFrame frame =>
    simp only [System.loopStep] at he
    split at he <;> cases he
    exact hplain rfl (beside_moved ⟨rfl, rfl, rfl⟩ rfl hsome fun _ h => by cases h)

theorem closingStep_ring {k : ClosingPc} (hw : s.worker.isSome = true)
    (he : s.closingStep setup c k = some t) : Beside s t := by
  have hclosing : ∀ j, Elsewhere (.closing j) := fun _ _ h => by cases h
  have hfault : Beside s (s.moveWorker .fault) :=
    beside_moved ⟨rfl, rfl, rfl⟩ rfl hw fun _ h => by cases h
  cases k with
  | deadline1 | deadline2 =>
    change (if s.holder.isSome = true then none else _) = some t at he
    split at he
    · cases he
    · split at he <;> cases he
      · exact beside_requireDeadline hw (hclosing _)
      · exact hfault
  | deadline3 | deadline4 | deadline5 =>
    change (if s.holder.isSome = true then none else _) = some t at he
    split at he <;> cases he
    exact beside_requireDeadline hw (hclosing _)
  | readDeadline | snapshot =>
    change (if s.holder.isSome = true then none else _) = some t at he
    split at he <;> cases he
    exact beside_moved ⟨rfl, rfl, rfl⟩ rfl hw (hclosing _)
  | publish =>
    change (if s.holder.isSome = true then none else _) = some t at he
    split at he <;> cases he
    exact beside_moved ⟨rfl, rfl, rfl⟩ rfl hw fun _ h => by cases h
  | writeManifest manifest video sidecar =>
    rw [closingStep_writeManifest] at he
    split at he <;> cases he
    · exact beside_moved ⟨rfl, rfl, rfl⟩ rfl hw (hclosing _)
    · exact hfault
  | writer | sidecar =>
    cases he
    exact beside_advanceWorker hw (fun _ => hclosing _)
      (fun _ => beside_moved ⟨rfl, rfl, rfl⟩ rfl hw (hclosing _)) fun _ => hfault
  | digestVideo | digestSidecar | manifest | activate =>
    cases he
    exact beside_advanceWorker hw (fun _ => hclosing _)
      (fun _ => beside_moved ⟨rfl, rfl, rfl⟩ rfl hw (hclosing _)) fun _ => hfault

/-- A step of the worker, which never finds the slot of a queued frame empty. -/
theorem workerStep_ring {w : Worker} (hk : s.core.Control) (hw : s.worker = some w) {n : ℕ}
    (hr : s.impl.queue.WellFormed n) (he : s.workerStep setup c w.pc = some t) :
    RingStep s t (taken (.workerStep c) t) ∧
      ((∃ k, w.pc = .loop k ∧ k.looks = true) → ∀ w, t.worker = some w → w.pc ≠ .fault) := by
  have hsome : s.worker.isSome = true := by
    rw [hw]
    rfl
  cases hpc : w.pc with
  | loop k =>
    rw [hpc] at he
    obtain ⟨hstep, hnull⟩ := loopStep_ring hk hw hpc hr he
    refine ⟨hstep, ?_⟩
    rintro ⟨k', hk', hlook⟩
    cases hk'
    exact hnull hlook
  | closing k =>
    rw [hpc] at he
    refine ⟨(closingStep_ring hsome he).step, ?_⟩
    rintro ⟨k', hk', -⟩
    cases hk'
  | fault =>
    rw [hpc] at he
    simp only [System.workerStep] at he
    split at he <;> cases he
    have hbeside : Beside s s.workerCatch :=
      beside_moved ⟨rfl, rfl, rfl⟩ rfl hsome fun _ h => by cases h
    refine ⟨hbeside.step, ?_⟩
    rintro ⟨k', hk', -⟩
    cases hk'
  | finished =>
    rw [hpc] at he
    cases he

theorem advance_ring {α : Type} {point : StoreProg α → Call} {onReturn : α → System}
    {onThrow : Exception → System} {p : StoreProg α} (hret : ∀ a, RingStep s (onReturn a) [])
    (hthrow : ∀ e, RingStep s (onThrow e) []) :
    RingStep s (s.advance c point onReturn onThrow p) [] := by
  cases p with
  | pure a => exact hret a
  | throw e => exact hthrow e
  | op o k => exact .same rfl rfl rfl rfl

theorem stopUnrecorded_ring (request : RecordingStartRequest) :
    RingStep s (s.stopUnrecorded request) [] := by
  unfold System.stopUnrecorded
  split
  · exact .same rfl rfl rfl rfl
  · split
    · exact .same rfl rfl rfl rfl
    · exact .same rfl rfl rfl rfl

theorem stopLookedUp_ring (request : RecordingStartRequest)
    (r : Option PersistedRecordingArtifact) : RingStep s (s.stopLookedUp request r) [] := by
  unfold System.stopLookedUp
  split
  · exact stopUnrecorded_ring request
  · split
    · exact stopUnrecorded_ring request
    · split
      · exact .same rfl rfl rfl rfl
      · split
        · unfold System.stopReplayed
          split
          · exact .restored rfl rfl rfl rfl
          · exact .same rfl rfl rfl rfl
        · split
          · exact .same rfl rfl rfl rfl
          · exact stopUnrecorded_ring request

theorem startLookedUp_ring (request : RecordingStartRequest) (canonical : ByteString)
    (r : Option PersistedRecordingArtifact) :
    RingStep s (s.startLookedUp setup request canonical r) [] := by
  cases r with
  | none => exact .same rfl rfl rfl rfl
  | some artifact =>
    simp only [System.startLookedUp]
    split
    · exact .same rfl rfl rfl rfl
    · exact .restored rfl rfl rfl rfl

/-- The queue of a new recording, or of a new process. -/
structure Cleared (n : ℕ) (t : System) : Prop where
  queue : t.impl.queue = FrameRing.empty n
  admitted : t.history.admitted = []

theorem callStep_ring {call : Call} (hh : s.holder = some call)
    (hr : s.impl.queue.WellFormed setup.config.queueCapacityFrames)
    (he : s.callStep setup c call = some t) :
    clears s (.callStep c) = true ∧ Cleared setup.config.queueCapacityFrames t ∨
      clears s (.callStep c) = false ∧ RingStep s t [] := by
  unfold clears
  rw [hh]
  cases call with
  | startEntered request =>
    cases he
    refine .inr ⟨rfl, ?_⟩
    unfold System.startEntered
    repeat' split
    all_goals exact .same rfl rfl rfl rfl
  | startJoining request canonical =>
    change (if s.workerLive = true then none else _) = some t at he
    split at he <;> cases he
    exact .inr ⟨rfl, .same rfl rfl rfl rfl⟩
  | startLookup request canonical p =>
    cases he
    exact .inr ⟨rfl, advance_ring (startLookedUp_ring request canonical) fun _ =>
      .same rfl rfl rfl rfl⟩
  | startPreparing | startWriter | startReleaseWriter | startSidecar | startReleaseSidecar =>
    cases he
    exact .inr ⟨rfl, advance_ring (fun _ => .same rfl rfl rfl rfl) fun _ => .same rfl rfl rfl rfl⟩
  | startPublish request canonical =>
    cases he
    exact .inl ⟨rfl, hr.reset, rfl⟩
  | startSpawn request =>
    change (if c.fails = true then _ else _) = some t at he
    split at he <;> cases he <;> exact .inr ⟨rfl, .same rfl rfl rfl rfl⟩
  | stopEntered request =>
    cases he
    refine .inr ⟨rfl, ?_⟩
    unfold System.stopEntered
    repeat' split
    all_goals exact .same rfl rfl rfl rfl
  | stopLookup request p =>
    cases he
    exact .inr ⟨rfl, advance_ring (stopLookedUp_ring request) fun _ => .same rfl rfl rfl rfl⟩
  | stopBegin request b =>
    cases he
    refine .inr ⟨rfl, ?_⟩
    apply begin_ring (R := fun t => RingStep s t [])
    · exact fun u b' hu _ => .same hu.queue hu.admitted hu.inSession rfl
    · exact fun u hu _ => .same hu.queue hu.admitted hu.inSession rfl
    · exact fun u e hu _ => .same hu.queue hu.admitted hu.inSession rfl
  | shutdownEntered =>
    cases he
    refine .inr ⟨rfl, ?_⟩
    unfold System.shutdownEntered
    repeat' split
    all_goals exact .same rfl rfl rfl rfl
  | shutdownBegin b =>
    cases he
    refine .inr ⟨rfl, ?_⟩
    apply begin_ring (R := fun t => RingStep s t [])
    · exact fun u b' hu _ => .same hu.queue hu.admitted hu.inSession rfl
    · exact fun u hu _ => .same hu.queue hu.admitted hu.inSession rfl
    · exact fun u e hu _ => .same hu.queue hu.admitted hu.inSession rfl
  | destroying p =>
    cases he
    cases p with
    | op o k => exact .inr ⟨rfl, .same rfl rfl rfl rfl⟩
    | pure a => exact .inl ⟨rfl, rfl, rfl⟩
    | throw e => exact .inl ⟨rfl, rfl, rfl⟩
  | startRecording | startAdmit | startFailed | startRethrow | shutdownCatch =>
    cases he
    exact .inr ⟨rfl, .same rfl rfl rfl rfl⟩

/-- A submission that has the mutex finds the session of the recording that takes frames. -/
theorem submit_ring {frame : CapturedFrame} (hk : s.core.Control) (hfree : s.mutexFree = true) :
    RingStep s (s.submit frame) [] := by
  unfold System.submit
  by_cases hst : s.impl.state = .recording
  · rw [if_neg (not_not.mpr hst)]
    split
    · exact .same rfl rfl rfl rfl
    · rename_i hroom
      simp only [System.mutexFree, Bool.and_eq_true, Option.isNone_iff_eq_none] at hfree
      have hreleased : s.core.Released := by
        intro w hw
        have hall := hfree.2
        rw [show s.worker = some w from hw] at hall
        simpa using hall
      obtain ⟨-, w, -, -, hsession⟩ := (hk.settled hfree.1 hreleased).recording hst
      exact .admitted frame hsession.2.2 hroom rfl rfl rfl rfl
  · rw [if_pos hst]
    exact .same rfl rfl rfl rfl

theorem step_ring {e : Event} (hk : s.core.Control)
    (hr : s.impl.queue.WellFormed setup.config.queueCapacityFrames)
    (he : s.step setup e = some t) :
    clears s e = true ∧ Cleared setup.config.queueCapacityFrames t ∨
      clears s e = false ∧ RingStep s t (taken e t) := by
  cases e with
  | tick | setUnix =>
    cases he
    exact .inr ⟨rfl, .same rfl rfl rfl rfl⟩
  | call api =>
    refine .inr ⟨rfl, ?_⟩
    cases api <;> simp only [System.step, System.enter] at he <;> repeat' split at he
    all_goals first | (cases he; done) | (cases he; exact .same rfl rfl rfl rfl)
  | callStep c =>
    obtain ⟨call, hh, he⟩ := Option.bind_eq_some_iff.mp he
    exact callStep_ring hh hr he
  | workerStep c =>
    obtain ⟨w, hw, he⟩ := Option.bind_eq_some_iff.mp he
    exact .inr ⟨rfl, (workerStep_ring hk hw hr he).1⟩
  | join =>
    simp only [System.step] at he
    split at he <;> cases he
    exact .inr ⟨rfl, .same rfl rfl rfl rfl⟩
  | submit frame =>
    simp only [System.step] at he
    split at he <;> cases he
    rename_i hfree
    exact .inr ⟨rfl, submit_ring hk hfree.1⟩
  | submitContended frame =>
    simp only [System.step] at he
    split at he <;> cases he
    exact .inr ⟨rfl, .same rfl rfl rfl rfl⟩
  | captureStep =>
    obtain ⟨call, -, rfl⟩ := Option.map_eq_some_iff.mp he
    refine .inr ⟨rfl, ?_⟩
    unfold System.captureStep
    repeat' split
    all_goals exact .same rfl rfl rfl rfl
  | crash =>
    cases he
    exact .inl ⟨rfl, rfl, rfl⟩

end Steps

end NodusVision.Manager
