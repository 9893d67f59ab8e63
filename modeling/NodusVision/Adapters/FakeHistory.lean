import NodusVision.Adapters.FakeStream

/-! Histories of calls on the deterministic camera. -/
namespace NodusVision.Adapters
open Recording Provider Transition

inductive FakeCall where
  | connectCamera
  | disconnectCamera
  | startStream
  | stopStream
  | advanceFrame
  | readFrame (timeoutMs : ℤ)

/-- How a call ended. -/
inductive FakeOutcome (D : Type) where
  | connected
  | disconnected
  /-- a `startStream` that did not throw -/
  | started
  | stopped
  | advanced
  | returned (frame : FakeCapturedFrame D)
  /-- a fault after the number of the frame was counted -/
  | lost
  /-- a `runtime_error` -/
  | refused

namespace FakeOutcome
variable {D : Type}

def isStarted : FakeOutcome D → Bool
  | .started => true
  | _ => false

def isAdvanced : FakeOutcome D → Bool
  | .advanced => true
  | _ => false

/-- The call counted up the frame number. -/
def isCounted : FakeOutcome D → Bool
  | .returned _ | .lost => true
  | _ => false

def frame? : FakeOutcome D → Option (FakeCapturedFrame D)
  | .returned frame => some frame
  | _ => none

end FakeOutcome

section
variable {D : Type}

/-- The frames among the outcomes; both lists have the newest first. -/
def returnedFrames (outcomes : List (FakeOutcome D)) : List (FakeCapturedFrame D) :=
  outcomes.filterMap FakeOutcome.frame?

def startCount (outcomes : List (FakeOutcome D)) : ℕ := outcomes.countP FakeOutcome.isStarted

/-- How many numbers were counted up since the stream was started last. -/
def countedSinceStart (outcomes : List (FakeOutcome D)) : ℕ :=
  (outcomes.takeWhile (!·.isStarted)).countP FakeOutcome.isCounted

def isConnected : List (FakeOutcome D) → Bool
  | [] | .disconnected :: _ => false
  | .connected :: _ => true
  | _ :: earlier => isConnected earlier

/-- The stream was started and neither stopped nor disconnected since. -/
def isStreaming : List (FakeOutcome D) → Bool
  | [] | .disconnected :: _ | .stopped :: _ => false
  | .started :: _ => true
  | _ :: earlier => isStreaming earlier

/-- The camera and the outcomes of the calls so far. -/
structure FakeRun (D : Type) where
  adapter : FakeAdapter
  outcomes : List (FakeOutcome D)

end

namespace FakeRun
section
variable {D : Type} [Zero D] [Add D] [Mul D] [IntCast D]
variable (pattern : FakePattern D) (config : FakeStreamConfig)

def answer (a : FakeAdapter) : FakeCall → FakeOutcome D × FakeAdapter
  | .connectCamera => (.connected, a.connectCamera)
  | .disconnectCamera => (.disconnected, a.disconnectCamera)
  | .startStream =>
    match a.startStream config with
    | .ok b => (.started, b)
    | .error _ => (.refused, a)
  | .stopStream => (.stopped, a.stopStream)
  | .advanceFrame => (.advanced, a.advanceFrame)
  | .readFrame timeoutMs =>
    match a.readFrame pattern config timeoutMs with
    | (.ok frame, b) => (.returned frame, b)
    | (.error (.fault _), b) => (.lost, b)
    | (.error (.runtimeError _), b) => (.refused, b)

def step (s : FakeRun D) (call : FakeCall) : Option (FakeRun D) :=
  let next := answer pattern config s.adapter call
  some ⟨next.2, next.1 :: s.outcomes⟩

def IsInitial (s : FakeRun D) : Prop := FakeAdapter.make config = .ok s.adapter ∧ s.outcomes = []

end

/-- The next count of either counter does not wrap. -/
def NoWrap {D : Type} (s : FakeRun D) (_ : FakeCall) (_ : FakeRun D) : Prop :=
  s.adapter.captureGeneration + 1 < 2 ^ 64 ∧ s.adapter.nextFrameNumber + 1 < 2 ^ 64

/-- The call left the frame that waits and the counters as they were. -/
structure KeepsCounters (a b : FakeAdapter) : Prop where
  manualFrameReady : b.manualFrameReady = a.manualFrameReady
  captureGeneration : b.captureGeneration = a.captureGeneration
  nextFrameNumber : b.nextFrameNumber = a.nextFrameNumber

/-- What an outcome says about the camera before and after the call. -/
inductive Follows {D : Type} (config : FakeStreamConfig) (a b : FakeAdapter) : FakeOutcome D → Prop
  | connected (hconnected : b.connected = true) (hstreaming : b.streaming = a.streaming)
      (hkept : KeepsCounters a b) : Follows config a b .connected
  | disconnected (hconnected : b.connected = false) (hstreaming : b.streaming = false)
      (hkept : KeepsCounters a b) : Follows config a b .disconnected
  | started (hconnected : a.connected = true) (hb : b.connected = true) (hstreaming : b.streaming = true)
      (hready : b.manualFrameReady = a.manualFrameReady)
      (hgeneration : b.captureGeneration = uint64 (a.captureGeneration + 1))
      (hnumber : b.nextFrameNumber = uint64 (config.startFrameNumber - 1)) : Follows config a b .started
  | stopped (hconnected : b.connected = a.connected) (hstreaming : b.streaming = false)
      (hkept : KeepsCounters a b) : Follows config a b .stopped
  | advanced (hconnected : b.connected = a.connected) (hstreaming : b.streaming = a.streaming)
      (hgeneration : b.captureGeneration = a.captureGeneration)
      (hnumber : b.nextFrameNumber = a.nextFrameNumber) : Follows config a b .advanced
  | returned (frame : FakeCapturedFrame D) (hcounts : a.Counts config b)
      (hgeneration : frame.snapshot.identity.captureGeneration = b.captureGeneration)
      (hnumber : frame.snapshot.identity.frameNumber = b.nextFrameNumber) :
      Follows config a b (.returned frame)
  | lost (hcounts : a.Counts config b) : Follows config a b .lost
  | refused (hconnected : b.connected = a.connected) (hstreaming : b.streaming = a.streaming)
      (hkept : KeepsCounters a b) : Follows config a b .refused

section
variable {D : Type} [Zero D] [Add D] [Mul D] [IntCast D]
variable {pattern : FakePattern D} {config : FakeStreamConfig}

theorem answer_follows (a : FakeAdapter) (call : FakeCall) :
    Follows config a (answer pattern config a call).2 (answer pattern config a call).1 := by
  cases call with
  | connectCamera => exact .connected rfl rfl ⟨rfl, rfl, rfl⟩
  | disconnectCamera => exact .disconnected rfl rfl ⟨rfl, rfl, rfl⟩
  | stopStream => exact .stopped rfl rfl ⟨rfl, rfl, rfl⟩
  | advanceFrame => exact .advanced rfl rfl rfl rfl
  | startStream =>
    simp only [answer, FakeAdapter.startStream]
    by_cases hconnected : a.connected = true
    · rw [if_pos hconnected]
      exact .started hconnected hconnected rfl rfl rfl rfl
    · rw [if_neg hconnected]
      exact .refused rfl rfl ⟨rfl, rfl, rfl⟩
  | readFrame timeoutMs =>
    have hcases := @FakeAdapter.readFrame_cases D _ _ _ _ pattern config timeoutMs a
    simp only [answer]
    generalize a.readFrame pattern config timeoutMs = result at hcases
    obtain ⟨answer, b⟩ := result
    rcases hcases with ⟨⟨what, rfl⟩, hconnected, hstreaming, hready, hgeneration, hnumber⟩ |
      ⟨hcounts, ⟨fault, rfl⟩ | ⟨frame, rfl, hgeneration, hnumber⟩⟩
    · exact .refused hconnected hstreaming ⟨hready, hgeneration, hnumber⟩
    · exact .lost hcounts
    · exact .returned frame hcounts hgeneration hnumber

end

/-- A frame carries the number of starts before it and, from the start number on, that of the frames
since the last of them. -/
def Numbered {D : Type} (config : FakeStreamConfig) (outcomes : List (FakeOutcome D)) : Prop :=
  ∀ newer frame rest, outcomes = newer ++ .returned frame :: rest →
    frame.snapshot.identity.captureGeneration = startCount rest ∧
      (frame.snapshot.identity.frameNumber : ℤ) =
        config.startFrameNumber + countedSinceStart rest

/-- A frame is returned only while the camera is connected and streams. -/
def ReturnedLive {D : Type} (outcomes : List (FakeOutcome D)) : Prop :=
  ∀ newer frame rest, outcomes = newer ++ .returned frame :: rest →
    isConnected rest = true ∧ isStreaming rest = true

def FramesIncrease {D : Type} (outcomes : List (FakeOutcome D)) : Prop :=
  (returnedFrames outcomes).Pairwise fun later earlier =>
    orderKey earlier.snapshot.identity < orderKey later.snapshot.identity

structure Inv {D : Type} (config : FakeStreamConfig) (s : FakeRun D) : Prop where
  connected : s.adapter.connected = isConnected s.outcomes
  streaming : s.adapter.streaming = isStreaming s.outcomes
  live : s.adapter.streaming = true → s.adapter.connected = true ∧ 1 ≤ startCount s.outcomes
  generation : s.adapter.captureGeneration = startCount s.outcomes
  number : 1 ≤ startCount s.outcomes →
    (s.adapter.nextFrameNumber : ℤ) + 1 = config.startFrameNumber + countedSinceStart s.outcomes
  recent : ∀ frame ∈ returnedFrames s.outcomes,
    orderKey frame.snapshot.identity ≤
      toLex (s.adapter.captureGeneration, s.adapter.nextFrameNumber)
  increasing : FramesIncrease s.outcomes
  numbered : Numbered config s.outcomes
  returnedLive : ReturnedLive s.outcomes
  manual : config.autoAdvance = false →
    (returnedFrames s.outcomes).length + s.adapter.manualFrameReady.toNat ≤
      s.outcomes.countP FakeOutcome.isAdvanced

section
variable {D : Type} {config : FakeStreamConfig}

theorem uint64_of_lt {value : ℕ} (h : value < 2 ^ 64) : uint64 value = value := by
  unfold uint64
  omega

theorem uint64_start (h : 1 ≤ config.startFrameNumber ∧ config.startFrameNumber < 2 ^ 64) :
    (uint64 (config.startFrameNumber - 1) : ℤ) + 1 = config.startFrameNumber := by
  unfold uint64
  omega

/-- What holds at each return holds after another outcome, if it holds of a frame that this one returns. -/
theorem atReturns_cons {P : FakeCapturedFrame D → List (FakeOutcome D) → Prop}
    {outcome : FakeOutcome D} {outcomes : List (FakeOutcome D)}
    (h : ∀ newer frame rest, outcomes = newer ++ .returned frame :: rest → P frame rest)
    (hnew : ∀ frame, outcome = .returned frame → P frame outcomes) :
    ∀ newer frame rest, outcome :: outcomes = newer ++ .returned frame :: rest → P frame rest := by
  intro newer frame rest heq
  cases newer with
  | nil =>
    obtain ⟨houtcome, hrest⟩ := List.cons.inj heq
    rw [← hrest]
    exact hnew frame houtcome
  | cons _ newer => exact h newer frame rest (List.cons.inj heq).2

theorem startCount_cons {outcome : FakeOutcome D} {outcomes : List (FakeOutcome D)}
    (h : outcome.isStarted = false) : startCount (outcome :: outcomes) = startCount outcomes :=
  List.countP_cons_of_neg (by rw [h]; exact Bool.false_ne_true)

theorem countedSinceStart_cons {outcome : FakeOutcome D} {outcomes : List (FakeOutcome D)}
    (h : outcome.isStarted = false) : countedSinceStart (outcome :: outcomes) =
      countedSinceStart outcomes + if outcome.isCounted then 1 else 0 := by
  unfold countedSinceStart
  rw [List.takeWhile_cons_of_pos (by rw [h]; rfl), List.countP_cons]

theorem mem_returnedFrames_cons {frame : FakeCapturedFrame D} {outcome : FakeOutcome D}
    {outcomes : List (FakeOutcome D)} : frame ∈ returnedFrames (outcome :: outcomes) ↔
      outcome = .returned frame ∨ frame ∈ returnedFrames outcomes := by
  cases outcome with
  | returned other => simp [returnedFrames, FakeOutcome.frame?, eq_comm]
  | connected | disconnected | started | stopped | advanced | lost | refused =>
    simp [returnedFrames, FakeOutcome.frame?]

theorem length_returnedFrames_cons (outcome : FakeOutcome D) (outcomes : List (FakeOutcome D)) :
    (returnedFrames (outcome :: outcomes)).length ≤ (returnedFrames outcomes).length + 1 := by
  cases outcome with
  | returned frame => exact le_refl _
  | connected | disconnected | started | stopped | advanced | lost | refused => exact Nat.le_succ _

variable {a b : FakeAdapter} {outcome : FakeOutcome D} {outcomes : List (FakeOutcome D)}

theorem inv_started (h : Inv config ⟨a, outcomes⟩)
    (hstart : 1 ≤ config.startFrameNumber ∧ config.startFrameNumber < 2 ^ 64)
    (hwrap : a.captureGeneration + 1 < 2 ^ 64) (ha : a.connected = true) (hb : b.connected = true)
    (hstreaming : b.streaming = true) (hready : b.manualFrameReady = a.manualFrameReady)
    (hgeneration : b.captureGeneration = uint64 (a.captureGeneration + 1))
    (hnumber : b.nextFrameNumber = uint64 (config.startFrameNumber - 1)) :
    Inv config ⟨b, .started :: outcomes⟩ := by
  have hgen : b.captureGeneration = a.captureGeneration + 1 := hgeneration.trans (uint64_of_lt hwrap)
  have hstarted : startCount (FakeOutcome.started :: outcomes) = startCount outcomes + 1 :=
    List.countP_cons_of_pos rfl
  have hstarts : a.captureGeneration = startCount outcomes := h.generation
  constructor
  · show b.connected = isConnected outcomes
    rw [hb, ← ha]
    exact h.connected
  · exact hstreaming
  · intro _
    refine ⟨hb, ?_⟩
    show 1 ≤ startCount (FakeOutcome.started :: outcomes)
    omega
  · show b.captureGeneration = startCount (FakeOutcome.started :: outcomes)
    omega
  · intro _
    have hzero : countedSinceStart (FakeOutcome.started :: outcomes) = 0 := rfl
    have hfirst := uint64_start hstart
    show (b.nextFrameNumber : ℤ) + 1 =
      config.startFrameNumber + countedSinceStart (FakeOutcome.started :: outcomes)
    rw [hzero, hnumber]
    omega
  · intro frame hframe
    apply (h.recent frame hframe).trans
    apply le_of_lt
    rw [Prod.Lex.toLex_lt_toLex]
    left
    show a.captureGeneration < b.captureGeneration
    omega
  · exact h.increasing
  · exact atReturns_cons h.numbered (fun frame hframe => nomatch hframe)
  · exact atReturns_cons h.returnedLive (fun frame hframe => nomatch hframe)
  · intro hauto
    have hcalls := h.manual hauto
    show (returnedFrames outcomes).length + b.manualFrameReady.toNat ≤ _
    rw [hready]
    exact hcalls

/-- A call that neither starts the stream nor counts a number. -/
theorem inv_idle (h : Inv config ⟨a, outcomes⟩) (hstarted : outcome.isStarted = false)
    (hcounted : outcome.isCounted = false)
    (hconnected : b.connected = isConnected (outcome :: outcomes))
    (hstreaming : b.streaming = isStreaming (outcome :: outcomes))
    (hlive : b.streaming = true → a.streaming = true ∧ (a.connected = true → b.connected = true))
    (hgeneration : b.captureGeneration = a.captureGeneration)
    (hnumber : b.nextFrameNumber = a.nextFrameNumber)
    (hready : b.manualFrameReady.toNat ≤
      a.manualFrameReady.toNat + if outcome.isAdvanced then 1 else 0) :
    Inv config ⟨b, outcome :: outcomes⟩ := by
  have hframes : returnedFrames (outcome :: outcomes) = returnedFrames outcomes := by
    cases outcome with
    | returned | lost => cases hcounted
    | connected | disconnected | started | stopped | advanced | refused => rfl
  have hnone : ∀ frame, outcome ≠ .returned frame := by
    rintro frame rfl
    cases hcounted
  constructor
  · exact hconnected
  · exact hstreaming
  · intro hb
    obtain ⟨ha, hkept⟩ := hlive hb
    obtain ⟨hconnected, hstarts⟩ := h.live ha
    refine ⟨hkept hconnected, ?_⟩
    show 1 ≤ startCount (outcome :: outcomes)
    rw [startCount_cons hstarted]
    exact hstarts
  · show b.captureGeneration = startCount (outcome :: outcomes)
    rw [startCount_cons hstarted, hgeneration]
    exact h.generation
  · show 1 ≤ startCount (outcome :: outcomes) →
      (b.nextFrameNumber : ℤ) + 1 = config.startFrameNumber + countedSinceStart (outcome :: outcomes)
    rw [startCount_cons hstarted, countedSinceStart_cons hstarted, hcounted, hnumber]
    exact h.number
  · show ∀ frame ∈ returnedFrames (outcome :: outcomes),
      orderKey frame.snapshot.identity ≤ toLex (b.captureGeneration, b.nextFrameNumber)
    rw [hframes, hgeneration, hnumber]
    exact h.recent
  · show FramesIncrease (outcome :: outcomes)
    unfold FramesIncrease
    rw [hframes]
    exact h.increasing
  · exact atReturns_cons h.numbered (fun frame hframe => absurd hframe (hnone frame))
  · exact atReturns_cons h.returnedLive (fun frame hframe => absurd hframe (hnone frame))
  · intro hauto
    have hcalls : (returnedFrames outcomes).length + a.manualFrameReady.toNat ≤
      outcomes.countP FakeOutcome.isAdvanced := h.manual hauto
    show (returnedFrames (outcome :: outcomes)).length + b.manualFrameReady.toNat ≤
      (outcome :: outcomes).countP FakeOutcome.isAdvanced
    rw [hframes, List.countP_cons]
    omega

/-- A read that counted, whether or not the frame was made. -/
theorem inv_counted (h : Inv config ⟨a, outcomes⟩) (hwrap : a.nextFrameNumber + 1 < 2 ^ 64)
    (hstarted : outcome.isStarted = false) (hcounted : outcome.isCounted = true)
    (hcounts : a.Counts config b)
    (hframe : ∀ frame, outcome = .returned frame →
      frame.snapshot.identity.captureGeneration = b.captureGeneration ∧
        frame.snapshot.identity.frameNumber = b.nextFrameNumber) :
    Inv config ⟨b, outcome :: outcomes⟩ := by
  have hnext : b.nextFrameNumber = a.nextFrameNumber + 1 :=
    hcounts.nextFrameNumber.trans (uint64_of_lt hwrap)
  have hgeneration := hcounts.captureGeneration
  obtain ⟨hconnected, hstarts⟩ := h.live hcounts.streaming
  have hnumber : (a.nextFrameNumber : ℤ) + 1 =
    config.startFrameNumber + countedSinceStart outcomes := h.number hstarts
  have hnewer : toLex (a.captureGeneration, a.nextFrameNumber) <
      toLex (b.captureGeneration, b.nextFrameNumber) := by
    rw [Prod.Lex.toLex_lt_toLex]
    right
    exact ⟨hgeneration.symm, by dsimp only; omega⟩
  have hkey : ∀ frame, outcome = .returned frame →
      orderKey frame.snapshot.identity = toLex (b.captureGeneration, b.nextFrameNumber) := by
    intro frame heq
    obtain ⟨hgen, hnum⟩ := hframe frame heq
    unfold orderKey
    rw [hgen, hnum]
  have hold : ∀ frame ∈ returnedFrames outcomes,
      orderKey frame.snapshot.identity < toLex (b.captureGeneration, b.nextFrameNumber) :=
    fun frame hmem => (h.recent frame hmem).trans_lt hnewer
  have hsame : isConnected (outcome :: outcomes) = isConnected outcomes ∧
      isStreaming (outcome :: outcomes) = isStreaming outcomes := by
    cases outcome with
    | connected | disconnected | started | stopped | advanced | refused => cases hcounted
    | returned | lost => exact ⟨rfl, rfl⟩
  constructor
  · show b.connected = isConnected (outcome :: outcomes)
    rw [hsame.1, hcounts.connected]
    exact h.connected
  · show b.streaming = isStreaming (outcome :: outcomes)
    rw [hsame.2, hcounts.streams]
    exact h.streaming
  · intro _
    refine ⟨hcounts.connected.trans hconnected, ?_⟩
    show 1 ≤ startCount (outcome :: outcomes)
    rw [startCount_cons hstarted]
    exact hstarts
  · show b.captureGeneration = startCount (outcome :: outcomes)
    rw [startCount_cons hstarted, hgeneration]
    exact h.generation
  · intro _
    show (b.nextFrameNumber : ℤ) + 1 =
      config.startFrameNumber + countedSinceStart (outcome :: outcomes)
    rw [countedSinceStart_cons hstarted, hcounted, if_pos rfl, hnext]
    push_cast
    omega
  · show ∀ frame ∈ returnedFrames (outcome :: outcomes),
      orderKey frame.snapshot.identity ≤ toLex (b.captureGeneration, b.nextFrameNumber)
    intro frame hmem
    rcases mem_returnedFrames_cons.mp hmem with heq | hmem
    · exact le_of_eq (hkey frame heq)
    · exact le_of_lt (hold frame hmem)
  · show FramesIncrease (outcome :: outcomes)
    cases outcome with
    | connected | disconnected | started | stopped | advanced | refused => cases hcounted
    | lost => exact h.increasing
    | returned frame =>
      apply List.Pairwise.cons
      · intro earlier hmem
        rw [hkey frame rfl]
        exact hold earlier hmem
      · exact h.increasing
  · apply atReturns_cons h.numbered
    intro frame heq
    obtain ⟨hgen, hnum⟩ := hframe frame heq
    constructor
    · rw [hgen, hgeneration]
      exact h.generation
    · rw [hnum, hnext]
      push_cast
      omega
  · apply atReturns_cons h.returnedLive
    intro _ _
    exact ⟨h.connected.symm.trans hconnected, h.streaming.symm.trans hcounts.streaming⟩
  · intro hauto
    have hcalls : (returnedFrames outcomes).length + a.manualFrameReady.toNat ≤
      outcomes.countP FakeOutcome.isAdvanced := h.manual hauto
    have hready : a.manualFrameReady = true := by
      rcases hcounts.advanced with hadvance | hready
      · cases hauto.symm.trans hadvance
      · exact hready
    have hlength := length_returnedFrames_cons outcome outcomes
    show (returnedFrames (outcome :: outcomes)).length + b.manualFrameReady.toNat ≤
      (outcome :: outcomes).countP FakeOutcome.isAdvanced
    rw [hready, Bool.toNat_true] at hcalls
    rw [hcounts.taken, Bool.toNat_false, List.countP_cons]
    omega

theorem Inv.step (hstart : 1 ≤ config.startFrameNumber ∧ config.startFrameNumber < 2 ^ 64)
    (h : Inv config ⟨a, outcomes⟩) (hgeneration : a.captureGeneration + 1 < 2 ^ 64)
    (hnumber : a.nextFrameNumber + 1 < 2 ^ 64) (hb : Follows config a b outcome) :
    Inv config ⟨b, outcome :: outcomes⟩ := by
  have hwas : a.connected = isConnected outcomes := h.connected
  have hstreamed : a.streaming = isStreaming outcomes := h.streaming
  cases hb with
  | connected hconnected hstreaming hkept =>
    refine inv_idle h rfl rfl hconnected (hstreaming.trans hstreamed) ?_ hkept.captureGeneration
      hkept.nextFrameNumber (hkept.manualFrameReady ▸ Nat.le_add_right _ _)
    intro hb
    exact ⟨hstreaming.symm.trans hb, fun _ => hconnected⟩
  | disconnected hconnected hstreaming hkept =>
    refine inv_idle h rfl rfl hconnected hstreaming ?_ hkept.captureGeneration hkept.nextFrameNumber
      (hkept.manualFrameReady ▸ Nat.le_add_right _ _)
    intro hb
    cases hstreaming.symm.trans hb
  | started ha hb hstreaming hready hgen hnext =>
    exact inv_started h hstart hgeneration ha hb hstreaming hready hgen hnext
  | stopped hconnected hstreaming hkept =>
    refine inv_idle h rfl rfl (hconnected.trans hwas) hstreaming ?_ hkept.captureGeneration
      hkept.nextFrameNumber (hkept.manualFrameReady ▸ Nat.le_add_right _ _)
    intro hb
    cases hstreaming.symm.trans hb
  | advanced hconnected hstreaming hgen hnext =>
    refine inv_idle h rfl rfl (hconnected.trans hwas) (hstreaming.trans hstreamed) ?_ hgen hnext ?_
    · intro hb
      exact ⟨hstreaming.symm.trans hb, hconnected.trans⟩
    · exact (Bool.toNat_le _).trans (Nat.le_add_left 1 _)
  | returned frame hcounts hgen hnext =>
    apply inv_counted h hnumber rfl rfl hcounts
    intro other heq
    cases heq
    exact ⟨hgen, hnext⟩
  | lost hcounts =>
    exact inv_counted h hnumber rfl rfl hcounts (fun frame heq => nomatch heq)
  | refused hconnected hstreaming hkept =>
    refine inv_idle h rfl rfl (hconnected.trans hwas) (hstreaming.trans hstreamed) ?_
      hkept.captureGeneration hkept.nextFrameNumber (hkept.manualFrameReady ▸ Nat.le_add_right _ _)
    intro hb
    exact ⟨hstreaming.symm.trans hb, hconnected.trans⟩

end
end FakeRun

end NodusVision.Adapters
