import NodusVision.Guarantees.Scenario
import NodusVision.Manager.Ring

/-! The ring of frames is a bounded queue, whatever the order of submissions, worker steps, starts
and restores. -/
namespace NodusVision.Guarantees
open Text Storage Program Recording Manager Transition

/-- The recorder, with the frames that its worker has dequeued since the latest start. -/
structure Watched where
  system : System
  dequeued : List CapturedFrame

namespace Watched

def step (setup : Setup) (x : Watched) (e : Event) : Option Watched :=
  (x.system.step setup e).map fun t =>
    ⟨t, if clears x.system e then [] else x.dequeued ++ taken e t⟩

def IsInitial (setup : Setup) (x : Watched) : Prop :=
  Manager.IsInitial setup x.system ∧ x.dequeued = []

def frames (x : Watched) : List CapturedFrame := x.system.impl.queue.frames

end Watched

/-- The ring of the recorder at this point of a run. -/
structure Ringed (n : ℕ) (x : Watched) : Prop where
  ring : x.system.impl.queue.WellFormed n
  ordered : x.dequeued <+: x.system.history.admitted
  pending : x.system.history.inSession = true →
    x.dequeued ++ x.frames = x.system.history.admitted
  idle : x.system.history.inSession = false → x.system.impl.queue.count = 0

section Steps
variable {n : ℕ} {setup : Setup} {x : Watched} {s t : System} {taken : List CapturedFrame}

theorem Ringed.cleared (h : 0 < n) (hc : Cleared n t) : Ringed n ⟨t, []⟩ := by
  have hcount : t.impl.queue.count = 0 := by
    rw [hc.queue]
    rfl
  constructor
  · show t.impl.queue.WellFormed n
    rw [hc.queue]
    exact FrameRing.wellFormed_empty h
  · exact List.nil_prefix
  · intro _
    show [] ++ t.impl.queue.frames = t.history.admitted
    rw [hc.queue, hc.admitted]
    rfl
  · exact fun _ => hcount

theorem Ringed.step (h : Ringed n x) (hs : RingStep x.system t taken) :
    Ringed n ⟨t, x.dequeued ++ taken⟩ := by
  have hring := h.ring
  have hordered := h.ordered
  have hpending := h.pending
  cases hs with
  | same hq ha hin hf =>
    rw [hf, List.append_nil]
    constructor
    · show t.impl.queue.WellFormed n
      rw [hq]
      exact hring
    · show x.dequeued <+: t.history.admitted
      rw [ha]
      exact hordered
    · show t.history.inSession = true → x.dequeued ++ t.impl.queue.frames = t.history.admitted
      rw [hin, hq, ha]
      exact hpending
    · show t.history.inSession = false → t.impl.queue.count = 0
      rw [hin, hq]
      exact h.idle
  | restored hq ha hin hf =>
    rw [hf, List.append_nil]
    rw [hring.reset] at hq
    constructor
    · show t.impl.queue.WellFormed n
      rw [hq]
      exact FrameRing.wellFormed_empty (Nat.zero_lt_of_lt hring.head)
    · show x.dequeued <+: t.history.admitted
      rw [ha]
      exact hordered
    · intro hsession
      cases hin.symm.trans hsession
    · intro _
      show t.impl.queue.count = 0
      rw [hq]
      rfl
  | admitted frame hs hroom hq ha hin hf =>
    have hlt : x.system.impl.queue.count < n := by
      have hle := hring.count_le
      rw [hring.size] at hroom
      omega
    obtain ⟨hpushed, hframes⟩ := hring.push hlt frame
    have hall : x.dequeued ++ t.impl.queue.frames = t.history.admitted := by
      rw [hq, ha, hframes, ← hpending hs, List.append_assoc]
      rfl
    rw [hf, List.append_nil]
    constructor
    · show t.impl.queue.WellFormed n
      rw [hq]
      exact hpushed
    · show x.dequeued <+: t.history.admitted
      rw [← hall]
      exact List.prefix_append _ _
    · exact fun _ => hall
    · intro hout
      cases (hin.trans hs).symm.trans hout
  | dequeued frame hne hfront hq ha hin hf =>
    have hs : x.system.history.inSession = true := by
      by_contra hout
      exact hne (h.idle (Bool.eq_false_of_not_eq_true hout))
    obtain ⟨first, hfirst, hframes, hpopped⟩ := hring.pop hne
    cases hfirst.symm.trans hfront
    have hall : (x.dequeued ++ taken) ++ t.impl.queue.frames = t.history.admitted := by
      rw [hf, hq, ha, ← hpending hs, List.append_assoc]
      show _ = x.dequeued ++ x.system.impl.queue.frames
      rw [hframes]
      rfl
    constructor
    · show t.impl.queue.WellFormed n
      rw [hq]
      exact hpopped
    · show x.dequeued ++ taken <+: t.history.admitted
      rw [← hall]
      exact List.prefix_append _ _
    · exact fun _ => hall
    · intro hout
      cases (hin.trans hs).symm.trans hout

/-- Every step is one of the bounded queue. -/
theorem fifoStep_of_ringStep (h : s.impl.queue.WellFormed n) (hs : RingStep s t taken) :
    FifoStep n s.impl.queue.frames t.impl.queue.frames := by
  cases hs with
  | same hq =>
    rw [hq]
    exact .same _
  | restored hq =>
    rw [hq, h.reset]
    exact .clear _
  | admitted frame hs hroom hq =>
    have hlt : s.impl.queue.count < n := by
      have hle := h.count_le
      rw [h.size] at hroom
      omega
    rw [hq, (h.push hlt frame).2]
    refine .enter _ _ ?_
    rw [h.length_frames]
    exact hlt
  | dequeued frame hne hfront hq =>
    obtain ⟨first, -, hframes, -⟩ := h.pop hne
    rw [hq, hframes]
    exact .leave first _

theorem capacity_pos (setup : Setup) : 0 < setup.config.queueCapacityFrames := by
  have hvalid := setup.valid
  simp only [RecordingManagerConfig.isValid, Bool.and_eq_true, bne_iff_ne] at hvalid
  omega

end Steps

/-- The queue has room for `n` frames, and gives them to the worker in the order of admission. -/
structure RefinesFifo (setup : Setup) (n : ℕ) (x : Watched) : Prop where
  head : x.system.impl.queue.head < n
  tail : x.system.impl.queue.tail < n
  distance : x.system.impl.queue.tail =
    (x.system.impl.queue.head + x.system.impl.queue.count) % n
  filled : ∀ offset < n, (slotAt x.system.impl.queue.slots x.system.impl.queue.head
    offset).isSome = true ↔ offset < x.system.impl.queue.count
  ordered : x.dequeued <+: x.system.history.admitted
  pending : x.system.history.inSession = true →
    x.dequeued ++ x.frames = x.system.history.admitted
  notNull : ∀ c t w k w', x.system.worker = some w → w.pc = .loop k → k.looks = true →
    x.system.step setup (.workerStep c) = some t → t.worker = some w' → w'.pc ≠ .fault
  refused : ∀ frame t, x.system.impl.state = .recording →
    x.system.step setup (.submit frame) = some t →
    (t.impl.counters.recordingDrop = x.system.impl.counters.recordingDrop + 1 ↔
      x.frames.length = n)
  steps : ∀ e t, x.system.step setup e = some t → FifoStep n x.frames t.impl.queue.frames

/-- In every run the ring refines a queue of the configured capacity. -/
theorem frame_ring_refines_fifo {setup : Setup} {x : Watched}
    (h : Reach (Watched.IsInitial setup) (Watched.step setup) anyStep x) :
    RefinesFifo setup setup.config.queueCapacityFrames x := by
  have hpos := capacity_pos setup
  -- the watch follows a run of the recorder
  have hinv : Reach (IsInitial setup) (System.step setup) anyStep x.system ∧
      Ringed setup.config.queueCapacityFrames x := by
    refine h.invariant (fun x => Reach (IsInitial setup) (System.step setup) anyStep x.system ∧
      Ringed setup.config.queueCapacityFrames x) ?_ ?_
    · rintro ⟨s, dequeued⟩ ⟨hs, hnone⟩
      refine ⟨.start hs, ?_⟩
      obtain ⟨machine, -, rfl⟩ := hs
      cases hnone
      exact .cleared hpos ⟨rfl, rfl⟩
    · intro x e y _ hi he _
      obtain ⟨hreach, hringed⟩ := hi
      obtain ⟨t, ht, rfl⟩ := Option.map_eq_some_iff.mp he
      refine ⟨hreach.next ht trivial, ?_⟩
      rcases step_ring (control_reachable hreach) hringed.ring ht with ⟨hc, hcleared⟩ | ⟨hc, hstep⟩
      · simp only [hc, if_true]
        exact .cleared hpos hcleared
      · simp only [hc, Bool.false_eq_true, if_false]
        exact hringed.step hstep
  obtain ⟨hreach, hringed⟩ := hinv
  have hk := control_reachable hreach
  have hring := hringed.ring
  constructor
  · exact hring.head
  · rw [hring.tail]
    exact Nat.mod_lt _ hpos
  · exact hring.tail
  · intro offset ho
    rw [← hring.size] at ho
    exact hring.filled.filled offset ho
  · exact hringed.ordered
  · exact hringed.pending
  · intro c t w k w' hw hpc hlook he hw'
    obtain ⟨v, hv, he⟩ := Option.bind_eq_some_iff.mp he
    cases hv.symm.trans hw
    exact (workerStep_ring hk hw hring he).2 ⟨k, hpc, hlook⟩ w' hw'
  · intro frame t hst he
    have hlength : x.frames.length = x.system.impl.queue.count := hring.length_frames
    simp only [System.step] at he
    split at he
    · cases he
      unfold System.submit
      rw [if_neg (not_not.mpr hst), hlength, hring.size]
      split
      · rename_i hfull
        exact ⟨fun _ => hfull, fun _ => rfl⟩
      · rename_i hroom
        constructor
        · intro hdrop
          exact absurd hdrop (Nat.succ_ne_self _).symm
        · intro hfull
          exact absurd hfull hroom
    · cases he
  · intro e t he
    rcases step_ring hk hring he with ⟨-, hcleared⟩ | ⟨-, hstep⟩
    · rw [hcleared.queue]
      exact .clear _
    · exact fifoStep_of_ringStep hring hstep

/-- A frame without a colour view. -/
def numberedFrame (frameNumber : ℕ) : CapturedFrame where
  identity := { captureGeneration := 1, frameNumber := frameNumber }
  colorFrameView := .ok none

/-- A recording starts and two frames come in; the worker takes the first one. -/
def ringEvents : List Event :=
  [.call (.start (request "start-1" "take-1"))] ++ calls 58 ++
    [.submit (numberedFrame 1), .workerStep smooth, .submit (numberedFrame 2)]

def oneTaken (x : Watched) : Bool :=
  decide (x.dequeued.length = 1) && decide (x.frames.length = 1)

set_option maxRecDepth 100000 in
theorem frame_ring_refines_fifo_sample : ∃ x : Watched, x.dequeued.length = 1 ∧
    x.frames.length = 1 ∧ RefinesFifo sampleSetup 2 x := by
  have hstart : Reach (Watched.IsInitial sampleSetup) (Watched.step sampleSetup) anyStep
      ⟨sampleStart, []⟩ := .start ⟨sampleStart_isInitial, rfl⟩
  have hrun : (runEvents (Watched.step sampleSetup) (fun _ _ => true) ⟨sampleStart, []⟩
      ringEvents).any oneTaken = true := by
    decide +kernel
  obtain ⟨x, hx, htest⟩ := hstart.exists_run (fun _ _ _ _ _ => trivial) hrun
  simp only [oneTaken, Bool.and_eq_true, decide_eq_true_eq] at htest
  exact ⟨x, htest.1, htest.2, frame_ring_refines_fifo hx⟩

end NodusVision.Guarantees
