import NodusVision.Guarantees.Scenario
import NodusVision.Manager.FrameWork

/-! Every admitted frame of a recording is accounted for while it is recorded, and the finalized
artifact lists exactly these frames. -/
namespace NodusVision.Guarantees
open Text Storage Program Recording Manager Transition

/-- The frame that the worker has taken from the queue and not counted. -/
def heldFrames (s : System) : List CapturedFrame :=
  match s.worker with
  | some ⟨_, .loop k⟩ => k.held
  | _ => []

/-- The worker of the recording has thrown. -/
def WorkerThrown (s : System) : Prop :=
  s.history.workerFaulted = true ∨ ∃ w, s.worker = some w ∧ w.pc = .fault

/-- The recorder reports the recording as finalized. -/
structure ArtifactAgrees (setup : Setup) (s : System) : Prop where
  empty : s.impl.queue.count = 0
  admitted : s.impl.counters.admitted = s.history.admitted.length
  submitted : s.impl.counters.submitted = s.history.admitted.length
  encoded : ∃ w, s.impl.writer = some w ∧ w.submittedFrameCount = s.history.admitted.length
  increasing : (identities s.history.admitted).Pairwise Follows
  complete : Complete setup.sha256 .finalized (setup.header s.impl.recordingId)
    (identities s.history.admitted) s.machine.disk

/-- Where the admitted frames are. -/
structure FramesAccounted (setup : Setup) (s : System) : Prop where
  counters : s.history.inSession = true → ¬WorkerThrown s →
    s.impl.counters.admitted =
      s.impl.counters.submitted + (heldFrames s).length + s.impl.queue.count
  frames : s.history.inSession = true → ¬WorkerThrown s →
    ∃ counted, counted.length = s.impl.counters.submitted ∧
      (identities counted).Pairwise Follows ∧
      counted ++ heldFrames s ++ s.impl.queue.frames = s.history.admitted
  finalized : s.history.inSession = true → s.impl.state = .finalized → ArtifactAgrees setup s
  stored : ∀ id, s.machine.disk (.artifact .finalized id) = some .directory →
    ∃ frames, Complete setup.sha256 .finalized (setup.header id) frames s.machine.disk

section
variable {setup : Setup} {s : System}

theorem tally_of_frames (h : s.Frames setup) (hin : s.history.inSession = true)
    (hthrown : ¬WorkerThrown s) : ∃ counted, Tally s counted (heldFrames s) := by
  obtain ⟨hunfaulted, hpc⟩ := not_or.mp hthrown
  have hidle : s.workerLive = false → Drained s :=
    h.idle hin (eq_false_of_ne_true hunfaulted)
  unfold heldFrames
  cases hw : s.worker with
  | none =>
    refine ⟨_, hidle ?_⟩
    unfold System.workerLive
    rw [hw]
    rfl
  | some w =>
    obtain ⟨id, pc⟩ := w
    have hrec := h.worker _ hw hin
    cases pc with
    | loop k =>
      obtain ⟨counted, htally, -⟩ := hrec
      exact ⟨counted, htally⟩
    | closing k => exact ⟨_, hrec.1⟩
    | fault => exact absurd ⟨_, hw, rfl⟩ hpc
    | finished =>
      refine ⟨_, hidle ?_⟩
      unfold System.workerLive
      rw [hw]
      rfl

theorem agrees_of_frames (h : s.Frames setup) (hin : s.history.inSession = true)
    (hfinal : s.impl.state = .finalized) : ArtifactAgrees setup s := by
  obtain ⟨hdrained, hencoded, hcomplete⟩ := h.delivered hin hfinal
  refine ⟨?_, hdrained.admitted, hdrained.submitted, hencoded,
    List.isChain_iff_pairwise.mp hdrained.ordered, hcomplete⟩
  rw [← h.ring.length_frames, hdrained.empty]
  rfl

end

/-- In every reachable state each admitted frame is counted, with the worker or in the queue, and
finalized artifacts list, count and describe exactly the admitted frames. -/
theorem frames_accounted {setup : Setup} {s : System}
    (h : Reach (IsInitial setup) (System.step setup) anyStep s) : FramesAccounted setup s := by
  have hf := frames_reachable h
  constructor
  · intro hin hthrown
    obtain ⟨counted, htally⟩ := tally_of_frames hf hin hthrown
    have hlength := congrArg List.length htally.frames
    rw [List.length_append, List.length_append, hf.ring.length_frames] at hlength
    rw [htally.admitted, htally.submitted, hlength]
  · intro hin hthrown
    obtain ⟨counted, htally⟩ := tally_of_frames hf hin hthrown
    exact ⟨counted, htally.submitted.symm, List.isChain_iff_pairwise.mp htally.ordered,
      htally.frames⟩
  · exact fun hin hfinal => agrees_of_frames hf hin hfinal
  · exact hf.stored

/-- A frame of the recorded size. -/
def coloredFrame (frameNumber : ℕ) : CapturedFrame where
  identity := { captureGeneration := 1, frameNumber := frameNumber }
  colorFrameView := .ok (some {
    width := 64
    height := 64
    strideBytes := 192
    format := .rgb8
    hasOwner := true
    hasData := true
    identity := { captureGeneration := 1, frameNumber := frameNumber } })

/-- Two frames are recorded, and the recording is stopped while the first one is written. -/
def framesRecorded : List Event :=
  [.call (.start (request "start-1" "take-1"))] ++ calls 58 ++
    [.submit (coloredFrame 1)] ++ works 5 ++ [.submit (coloredFrame 2)] ++
    [.call (.stop (request "stop-1" "take-1"))] ++ calls 29 ++ works 69

def bothFinalized (s : System) : Bool :=
  decide (s.impl.state = .finalized) && decide (s.history.admitted.length = 2)

set_option maxRecDepth 100000 in
theorem frames_accounted_two : ∃ s : System, s.impl.state = .finalized ∧
    s.history.admitted.length = 2 ∧ FramesAccounted sampleSetup s := by
  obtain ⟨s, hs, htest⟩ := sample_reach anyStep (fun _ => true) bothFinalized
    (fun _ _ _ _ => trivial) framesRecorded (by decide +kernel)
  obtain ⟨hfinal, htwo⟩ := Bool.and_eq_true_iff.mp htest
  exact ⟨s, of_decide_eq_true hfinal, of_decide_eq_true htwo, frames_accounted hs⟩

end NodusVision.Guarantees
