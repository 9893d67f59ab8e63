import NodusVision.Adapters.FakeHistory
import NodusVision.Application.FrameStore

/-! The identities of the frames of the deterministic camera. -/
namespace NodusVision.Guarantees
open Adapters Provider Application Transition Program

/-- Every frame is stored when they are published one after the other. -/
def storesAll (store : FrameStore) : List (Application.CapturedFrame × ℤ) → Bool
  | [] => true
  | (frame, now) :: rest =>
    let published := store.publishFrame (some frame) now
    published.1 && storesAll published.2 rest

theorem storesAll_of_increasing {frames : List (Application.CapturedFrame × ℤ)} {store : FrameStore}
    (hstore : ∀ published ∈ frames, slotKey frameKey store.latestFrame < frameKey published.1)
    (h : frames.Pairwise fun earlier later => frameKey earlier.1 < frameKey later.1) :
    storesAll store frames = true := by
  induction frames generalizing store with
  | nil => rfl
  | cons published rest ih =>
    obtain ⟨frame, now⟩ := published
    obtain ⟨hfirst, hrest⟩ := List.pairwise_cons.mp h
    have hnew : slotKey frameKey store.latestFrame < frameKey frame := hstore _ List.mem_cons_self
    have hstored := (store.publishFrame_fst frame now).mpr hnew
    have hlatest : (store.publishFrame (some frame) now).2.latestFrame = some frame := by
      rw [store.latestFrame_publishFrame]
      exact if_pos hnew
    show ((store.publishFrame (some frame) now).1 &&
      storesAll (store.publishFrame (some frame) now).2 rest) = true
    rw [hstored, Bool.true_and]
    apply ih _ hrest
    intro other hother
    rw [hlatest, slotKey_some]
    exact WithBot.coe_lt_coe.mpr (hfirst other hother)

section
variable {D : Type} [Zero D] [Add D] [Mul D] [IntCast D]
variable {pattern : FakePattern D} {config : FakeStreamConfig}

/-- What a history of calls shows of the frames that it returned. -/
structure IdentitiesDisciplined (config : FakeStreamConfig) (s : FakeRun D) : Prop where
  increasing : FakeRun.FramesIncrease s.outcomes
  numbered : FakeRun.Numbered config s.outcomes
  manual : config.autoAdvance = false →
    (returnedFrames s.outcomes).length ≤ s.outcomes.countP FakeOutcome.isAdvanced
  live : FakeRun.ReturnedLive s.outcomes
  /-- Published in the order read, the frames are all accepted. -/
  accepted : ∀ published : List (Application.CapturedFrame × ℤ),
    published.map (·.1.identity) =
      (returnedFrames s.outcomes).reverse.map (·.snapshot.identity) →
    storesAll {} published = true

theorem inv_reachable {s : FakeRun D}
    (hstart : 1 ≤ config.startFrameNumber ∧ config.startFrameNumber < 2 ^ 64)
    (h : Reach (FakeRun.IsInitial config) (FakeRun.step pattern config) FakeRun.NoWrap s) :
    s.Inv config := by
  apply h.invariant (fun s => s.Inv config)
  · rintro ⟨a, outcomes⟩ ⟨ha, hnone⟩
    dsimp only at ha hnone
    subst hnone
    unfold FakeAdapter.make at ha
    split at ha
    · cases ha
    · cases ha
      constructor
      · rfl
      · rfl
      · intro hstreaming
        cases hstreaming
      · rfl
      · intro hstarts
        cases hstarts
      · intro frame hframe
        cases hframe
      · exact List.Pairwise.nil
      · intro newer frame rest heq
        cases newer <;> cases heq
      · intro newer frame rest heq
        cases newer <;> cases heq
      · intro _
        exact le_refl _
  · rintro ⟨a, outcomes⟩ call t - hinv ht ⟨hgeneration, hnumber⟩
    cases ht
    exact hinv.step hstart hgeneration hnumber (FakeRun.answer_follows a call)

/-- Each frame follows the one before it, and none is returned by a camera that does not stream. -/
theorem fake_identities (hstart : 1 ≤ config.startFrameNumber ∧ config.startFrameNumber < 2 ^ 64) :
    ∀ s, Reach (FakeRun.IsInitial config) (FakeRun.step pattern config) FakeRun.NoWrap s →
      IdentitiesDisciplined config s ∧
      ∀ timeoutMs frame t, s.adapter.readFrame pattern config timeoutMs = (.ok frame, t) →
        s.adapter.connected = true ∧ s.adapter.streaming = true := by
  intro s hs
  have hinv := inv_reachable hstart hs
  constructor
  · constructor
    · exact hinv.increasing
    · exact hinv.numbered
    · intro hauto
      exact (Nat.le_add_right _ _).trans (hinv.manual hauto)
    · exact hinv.returnedLive
    · intro published hpublished
      apply storesAll_of_increasing
      · intro _ _
        exact WithBot.bot_lt_coe _
      · have hkeys : (published.map (·.1.identity)).Pairwise fun earlier later =>
            orderKey earlier < orderKey later := by
          rw [hpublished, List.pairwise_map, List.pairwise_reverse]
          exact hinv.increasing
        rw [List.pairwise_map] at hkeys
        exact hkeys
  · intro timeoutMs frame t hread
    rcases @FakeAdapter.readFrame_cases D _ _ _ _ pattern config timeoutMs s.adapter with
      ⟨⟨what, hrefused⟩, -⟩ | ⟨hcounts, -⟩
    · rw [hread] at hrefused
      cases hrefused
    · exact ⟨(hinv.live hcounts.streaming).1, hcounts.streaming⟩

end

/-- A camera of one pixel that waits for its caller. -/
def manualConfig : FakeStreamConfig where
  width := 1
  height := 1
  fps := 30
  startFrameNumber := 1
  patternSeed := 1
  autoAdvance := false

def unitPattern : FakePattern ℤ := ⟨1, 1, 1, 1⟩

def manualCalls : List FakeCall :=
  [.connectCamera, .startStream, .readFrame 1, .advanceFrame, .readFrame 1]

def manualStart : FakeRun ℤ := ⟨{ health := { deviceId := manualConfig.deviceId } }, []⟩

def returnsOne (s : FakeRun ℤ) : Bool := (returnedFrames s.outcomes).length == 1

def countersFit (s : FakeRun ℤ) (_ : FakeCall) : Bool :=
  decide (s.adapter.captureGeneration + 1 < 2 ^ 64 ∧ s.adapter.nextFrameNumber + 1 < 2 ^ 64)

theorem fake_identities_manual : ∃ s : FakeRun ℤ, IdentitiesDisciplined manualConfig s ∧
    (returnedFrames s.outcomes).length = 1 := by
  have hrun : (runEvents (FakeRun.step unitPattern manualConfig) countersFit manualStart
      manualCalls).any returnsOne = true := by
    decide +kernel
  have hfits : ∀ s call t, countersFit s call = true →
      FakeRun.step unitPattern manualConfig s call = some t → FakeRun.NoWrap s call t := by
    intro s call t h _
    unfold countersFit at h
    rw [decide_eq_true_eq] at h
    exact h
  have hstart : Reach (FakeRun.IsInitial manualConfig) (FakeRun.step unitPattern manualConfig)
    FakeRun.NoWrap manualStart := .start ⟨rfl, rfl⟩
  obtain ⟨s, hs, hone⟩ := hstart.exists_run hfits hrun
  use s
  constructor
  · exact (fake_identities (by decide) s hs).1
  · exact beq_iff_eq.mp hone

end NodusVision.Guarantees
