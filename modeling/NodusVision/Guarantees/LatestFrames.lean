import NodusVision.Application.FrameStore

/-! The frame store keeps the newest frame, whatever the order of the calls. -/
namespace NodusVision.Guarantees
open Recording (FrameIdentity)
open Provider Transition Application

/-- The frames published since the last clear, newest call first. -/
def publishedFrames : List Call → List CapturedFrame
  | [] | .cleared :: _ => []
  | .published (some frame) _ _ :: earlier => frame :: publishedFrames earlier
  | _ :: earlier => publishedFrames earlier

/-- The lexicographic maximum of generation and frame number over those frames. -/
def maximumKey (calls : List Call) : WithBot (ℕ ×ₗ ℕ) := offeredKey frameKey (publishedFrames calls)

/-- The last successful publication since the last clear, and its time. -/
def lastStored : List Call → Option (CapturedFrame × ℤ)
  | [] | .cleared :: _ => none
  | .published (some frame) true now :: _ => some (frame, now)
  | _ :: earlier => lastStored earlier

/-- What a call may answer after the earlier ones. -/
def IsCorrect (earlier : List Call) : Call → Prop
  | .published none stored _ => stored = false
  | .published (some frame) stored _ => stored = true ↔ maximumKey earlier < frameKey frame
  | .acquired answer => slotKey frameKey answer = maximumKey earlier
  | .acquiredFresh maxAge now answer => ∀ frame, answer = some frame →
      frameKey frame = maximumKey earlier ∧
      ∃ publishedAt, lastStored earlier = some (frame, publishedAt) ∧
        now - publishedAt ≤ nanoseconds maxAge
  | .waited identity answer => ∀ frame, answer = some frame →
      frameKey frame = maximumKey earlier ∧ orderKey identity < frameKey frame
  | .cleared => True

/-- The store agrees with the calls made so far, each of which answered correctly. -/
structure Agrees (s : Shared) : Prop where
  key : slotKey frameKey s.store.latestFrame = maximumKey s.calls
  last : s.store.latestFrame.map (fun frame => (frame, s.store.publishedAt)) = lastStored s.calls
  calls : ∀ call earlier, call :: earlier <:+ s.calls → IsCorrect earlier call

theorem correct_cons {call : Call} {calls : List Call} (hc : IsCorrect calls call)
    (h : ∀ other earlier, other :: earlier <:+ calls → IsCorrect earlier other)
    (other : Call) (earlier : List Call) (ho : other :: earlier <:+ call :: calls) :
    IsCorrect earlier other := by
  rcases List.suffix_cons_iff.mp ho with he | hs
  · cases he
    exact hc
  · exact h other earlier hs

theorem Agrees.of_eq {s t : Shared} (h : Agrees s) (hs : t.store = s.store)
    (hc : t.calls = s.calls) : Agrees t := by
  constructor
  · rw [hs, hc]
    exact h.key
  · rw [hs, hc]
    exact h.last
  · rw [hc]
    exact h.calls

/-- A read leaves the store and the publications as they are. -/
theorem Agrees.read {s t : Shared} {call : Call} (h : Agrees s) (hs : t.store = s.store)
    (hc : t.calls = call :: s.calls) (hp : maximumKey (call :: s.calls) = maximumKey s.calls)
    (hl : lastStored (call :: s.calls) = lastStored s.calls) (hi : IsCorrect s.calls call) :
    Agrees t := by
  constructor
  · rw [hs, hc, hp]
    exact h.key
  · rw [hs, hc, hl]
    exact h.last
  · rw [hc]
    exact correct_cons hi h.calls

theorem Agrees.publish {s t : Shared} {frame : Option CapturedFrame} {now : ℤ} (h : Agrees s)
    (hs : t.store = (s.store.publishFrame frame now).2)
    (hc : t.calls = .published frame (s.store.publishFrame frame now).1 now :: s.calls) :
    Agrees t := by
  cases frame with
  | none => exact h.read hs hc rfl rfl rfl
  | some frame =>
    constructor
    · rw [hs, hc, FrameStore.latestFrame_publishFrame]
      exact slotKey_offer_eq frame h.key
    · rw [hs, hc]
      rcases s.store.publishFrame_some frame now with ⟨he, -⟩ | ⟨he, -⟩
      · rw [he]
        rfl
      · rw [he]
        exact h.last
    · rw [hc]
      have hstored := s.store.publishFrame_fst frame now
      rw [h.key] at hstored
      exact correct_cons hstored h.calls

theorem agrees_step {s t : Shared} {event : Shared.Event} (h : Agrees s)
    (ht : Shared.step s event = some t) : Agrees t := by
  have hkey : ∀ frame, s.store.latestFrame = some frame →
      (frameKey frame : WithBot (ℕ ×ₗ ℕ)) = maximumKey s.calls := by
    intro frame hf
    rw [← h.key, hf]
    rfl
  obtain ⟨hs, hc⟩ | ⟨frame, now, hs, hc⟩ | ⟨hs, hc⟩ | ⟨maxAge, now, hs, hc⟩ |
    ⟨identity, hs, hn, hc⟩ | ⟨identity, hs, hc⟩ | ⟨hs, hc⟩ := Shared.step_calls ht
  · exact h.of_eq hs hc
  · exact h.publish hs hc
  · exact h.read hs hc rfl rfl h.key
  · apply h.read hs hc rfl rfl
    intro frame hf
    obtain ⟨hl, -, hage⟩ := FrameStore.acquireFreshFrame_eq_some hf
    have hlast := h.last
    rw [hl] at hlast
    exact ⟨hkey frame hl, s.store.publishedAt, hlast.symm, hage⟩
  · apply h.read hs hc rfl rfl
    intro frame hf
    obtain ⟨newer, hl, hlt⟩ := FrameStore.hasNewerFrame_iff.mp hn
    rw [hl] at hf
    cases hf
    exact ⟨hkey _ hl, hlt⟩
  · apply h.read hs hc rfl rfl
    intro frame hf
    cases hf
  · constructor
    · rw [hs, hc]
      rfl
    · rw [hs, hc]
      rfl
    · rw [hc]
      exact correct_cons trivial h.calls

theorem agrees_reachable {s : Shared}
    (h : Reach Shared.IsInitial Shared.step anyStep s) : Agrees s := by
  apply h.invariant
  · rintro s ⟨hs, -, hc⟩
    constructor
    · rw [hs, hc]
      rfl
    · rw [hs, hc]
      rfl
    · intro call earlier he
      rw [hc] at he
      cases List.suffix_nil.mp he
  · intro s event t _ hi ht _
    exact agrees_step hi ht

/-- Without a clear the maximum only grows. -/
theorem maximumKey_mono {later : List Call} (earlier : List Call) (h : Call.cleared ∉ later) :
    maximumKey earlier ≤ maximumKey (later ++ earlier) := by
  induction later with
  | nil => exact le_rfl
  | cons call later ih =>
    rw [List.mem_cons, not_or] at h
    have hle := ih h.2
    cases call with
    | published frame stored now =>
      cases frame with
      | none => exact hle
      | some frame =>
        have hmax : maximumKey (.published (some frame) stored now :: (later ++ earlier)) =
            max (maximumKey (later ++ earlier)) (frameKey frame) := offeredKey_cons frame _
        rw [List.cons_append, hmax]
        exact hle.trans (le_max_left _ _)
    | acquired | acquiredFresh | waited => exact hle
    | cleared => exact absurd rfl h.1

theorem lastStored_mem {calls : List Call} {frame : CapturedFrame} {now : ℤ}
    (h : lastStored calls = some (frame, now)) : frame ∈ publishedFrames calls := by
  induction calls with
  | nil => cases h
  | cons call calls ih =>
    cases call with
    | published published stored time =>
      cases published with
      | none => exact ih h
      | some published =>
        cases stored with
        | true =>
          cases h
          exact List.mem_cons_self
        | false => exact List.mem_cons_of_mem _ (ih h)
    | acquired | acquiredFresh | waited => exact ih h
    | cleared => cases h

theorem answer_key {earlier : List Call} {call : Call} {frame : CapturedFrame}
    (h : IsCorrect earlier call) (ha : call.answer = some frame) :
    (frameKey frame : WithBot (ℕ ×ₗ ℕ)) = maximumKey earlier := by
  cases call with
  | acquired answer =>
    cases ha
    exact h
  | acquiredFresh maxAge now answer => exact (h frame ha).1
  | waited identity answer => exact (h frame ha).1
  | published | cleared => cases ha

/-- Two reads without a clear between them -/
theorem answer_mono {s : Shared} (h : Agrees s) {later older : Call} {between earlier : List Call}
    (hs : later :: (between ++ older :: earlier) <:+ s.calls) (hb : Call.cleared ∉ between)
    {first second : CapturedFrame} (hf : older.answer = some first)
    (hl : later.answer = some second) : frameKey first ≤ frameKey second := by
  have hfirst := answer_key (h.calls _ _ (((List.suffix_append _ _).trans
    (List.suffix_cons _ _)).trans hs)) hf
  have hsecond := answer_key (h.calls _ _ hs) hl
  have hno : Call.cleared ∉ between ++ [older] := by
    rw [List.mem_append, not_or, List.mem_singleton]
    refine ⟨hb, ?_⟩
    rintro rfl
    cases hf
  have hmono := maximumKey_mono earlier hno
  rw [List.append_assoc, List.singleton_append, ← hsecond, ← hfirst] at hmono
  exact WithBot.coe_le_coe.mp hmono

/-- What holds of the store after any calls of any threads. -/
structure KeepsLatest (s : Shared) : Prop where
  /-- The store is empty only when nothing was published since the last clear. -/
  isEmpty : s.store.latestFrame = none ↔ publishedFrames s.calls = []
  maximum : ∀ frame, s.store.latestFrame = some frame →
    frame ∈ publishedFrames s.calls ∧
      ∀ other ∈ publishedFrames s.calls, frameKey other ≤ frameKey frame
  calls : ∀ call earlier, call :: earlier <:+ s.calls → IsCorrect earlier call
  reads : ∀ later between older earlier first second,
    later :: (between ++ older :: earlier) <:+ s.calls → Call.cleared ∉ between →
    older.answer = some first → later.answer = some second → frameKey first ≤ frameKey second

theorem keepsLatest {s : Shared} (h : Agrees s) : KeepsLatest s where
  isEmpty := by
    have hbot : maximumKey s.calls = ⊥ ↔ publishedFrames s.calls = [] := offeredKey_eq_bot_iff
    rw [← hbot]
    have hkey := h.key
    cases hl : s.store.latestFrame with
    | none =>
      rw [hl] at hkey
      exact iff_of_true rfl hkey.symm
    | some frame =>
      rw [hl] at hkey
      apply iff_of_false (Option.some_ne_none frame)
      intro hbot
      exact WithBot.coe_ne_bot (hkey.trans hbot)
  maximum frame hf := by
    have hlast := h.last
    have hkey := h.key
    rw [hf] at hlast hkey
    exact ⟨lastStored_mem hlast.symm, (offeredKey_eq_coe_iff.mp hkey.symm).2⟩
  calls := h.calls
  reads _ _ _ _ _ _ hs hb hf hl := answer_mono h hs hb hf hl

/-- Every history of calls keeps the newest frame, and two histories that published the same frames
end with frames of the same identity, in whatever order they were published. -/
theorem frameStore_latestWins (s : Shared)
    (h : Reach Shared.IsInitial Shared.step anyStep s) :
    KeepsLatest s ∧ ∀ t, Reach Shared.IsInitial Shared.step anyStep t →
      (publishedFrames s.calls).Perm (publishedFrames t.calls) →
      s.store.latestFrame.map frameKey = t.store.latestFrame.map frameKey := by
  refine ⟨keepsLatest (agrees_reachable h), ?_⟩
  intro t ht hp
  calc slotKey frameKey s.store.latestFrame
      = maximumKey s.calls := (agrees_reachable h).key
    _ = maximumKey t.calls := offeredKey_congr fun _ => hp.mem_iff
    _ = slotKey frameKey t.store.latestFrame := (agrees_reachable ht).key.symm

/-- A frame with the given identity and no views. -/
def plainFrame (captureGeneration frameNumber : ℕ) : CapturedFrame where
  identity := { captureGeneration, frameNumber }
  colorFrameView := .ok none
  depthPreviewFrameView := .ok none

/-- The calls of a thread that publishes three frames while another waits. -/
def sampleCalls : List Shared.Event :=
  [.waitForFrameAfter {} 200, .publishFrame (some (plainFrame 1 2)), .wake 0,
    .publishFrame (some (plainFrame 0 99)), .elapse 5, .publishFrame (some (plainFrame 2 1)),
    .acquireFreshFrame 1, .acquireLatestFrame]

theorem frameStore_latestWins_sample :
    ∃ s : Shared, (s.calls.length = 6 ∧ s.store.publishedAt = 5) ∧ KeepsLatest s ∧
      ∀ t, Reach Shared.IsInitial Shared.step anyStep t →
        (publishedFrames s.calls).Perm (publishedFrames t.calls) →
        s.store.latestFrame.map frameKey = t.store.latestFrame.map frameKey := by
  have hr : Reach Shared.IsInitial Shared.step anyStep {} := .start ⟨rfl, rfl, rfl⟩
  have hrun : (runEvents Shared.step (fun _ _ => true) {} sampleCalls).any
      (fun s => s.calls.length = 6 ∧ s.store.publishedAt = 5) = true := by decide
  obtain ⟨s, hs, ht⟩ := hr.exists_run (fun _ _ _ _ _ => trivial) hrun
  exact ⟨s, of_decide_eq_true ht, frameStore_latestWins s hs⟩

end NodusVision.Guarantees
