import NodusVision.Transition.Reach
import NodusVision.Transition.LatestWins
import NodusVision.Provider.Contracts

/-! The latest-only frame store and the threads that call it. -/
namespace NodusVision.Application
open Storage Recording Provider Transition

/-- A frame with the view that depth previews are made from. -/
structure CapturedFrame extends Recording.CapturedFrame where
  depthPreviewFrameView : Except Exception (Option VideoFrameView)

def frameKey (frame : CapturedFrame) : ℕ ×ₗ ℕ := orderKey frame.identity

/-- Times are of the steady clock, in nanoseconds. -/
structure FrameStore where
  latestFrame : Option CapturedFrame := none
  publishedAt : ℤ := 0

def nanoseconds (milliseconds : ℤ) : ℤ := milliseconds * 1000000

namespace FrameStore

/-- The answer says whether the frame was stored. -/
def publishFrame (store : FrameStore) (frame : Option CapturedFrame) (now : ℤ) :
    Bool × FrameStore :=
  match frame with
  | none => (false, store)
  | some frame =>
    if store.latestFrame.any (fun latest => !isNewerIdentity frame.identity latest.identity) then
      (false, store)
    else (true, { latestFrame := some frame, publishedAt := now })

def acquireLatestFrame (store : FrameStore) : Option CapturedFrame := store.latestFrame

def acquireFreshFrame (store : FrameStore) (maxAge now : ℤ) : Option CapturedFrame :=
  if store.latestFrame.isNone ∨ maxAge ≤ 0 ∨ nanoseconds maxAge < now - store.publishedAt then none
  else store.latestFrame

/-- The predicate of `waitForFrameAfter` -/
def hasNewerFrame (store : FrameStore) (identity : FrameIdentity) : Bool :=
  store.latestFrame.any fun latest => isNewerIdentity latest.identity identity

def clear (_ : FrameStore) : FrameStore := {}

theorem publishFrame_some (store : FrameStore) (frame : CapturedFrame) (now : ℤ) :
    (store.publishFrame (some frame) now =
        (true, { latestFrame := some frame, publishedAt := now }) ∧
      isAccepted frameKey store.latestFrame frame) ∨
    (store.publishFrame (some frame) now = (false, store) ∧
      ¬ isAccepted frameKey store.latestFrame frame) := by
  cases hl : store.latestFrame with
  | none =>
    left
    constructor
    · simp [publishFrame, hl]
    · exact WithBot.bot_lt_coe _
  | some latest =>
    have hiff : isAccepted frameKey (some latest) frame ↔
        isNewerIdentity frame.identity latest.identity = true := by
      rw [isNewerIdentity_iff]
      exact WithBot.coe_lt_coe
    rw [hiff]
    cases hn : isNewerIdentity frame.identity latest.identity with
    | true =>
      left
      exact ⟨by simp [publishFrame, hl, hn], rfl⟩
    | false =>
      right
      exact ⟨by simp [publishFrame, hl, hn], by simp⟩

/-- The store is a slot of the frames offered to it. -/
theorem latestFrame_publishFrame (store : FrameStore) (frame : CapturedFrame) (now : ℤ) :
    (store.publishFrame (some frame) now).2.latestFrame =
      offer frameKey store.latestFrame frame := by
  rcases store.publishFrame_some frame now with ⟨h, ha⟩ | ⟨h, ha⟩
  · rw [h, offer, if_pos ha]
  · rw [h, offer, if_neg ha]

theorem publishFrame_fst (store : FrameStore) (frame : CapturedFrame) (now : ℤ) :
    (store.publishFrame (some frame) now).1 = true ↔
      slotKey frameKey store.latestFrame < frameKey frame := by
  rcases store.publishFrame_some frame now with ⟨h, ha⟩ | ⟨h, ha⟩
  · rw [h]
    exact ⟨fun _ => ha, fun _ => rfl⟩
  · rw [h]
    exact ⟨fun hf => (Bool.false_ne_true hf).elim, fun hlt => absurd hlt ha⟩

theorem acquireFreshFrame_eq_some {store : FrameStore} {maxAge now : ℤ} {frame : CapturedFrame}
    (h : store.acquireFreshFrame maxAge now = some frame) :
    store.latestFrame = some frame ∧ 0 < maxAge ∧
      now - store.publishedAt ≤ nanoseconds maxAge := by
  unfold acquireFreshFrame at h
  split at h
  · cases h
  · rename_i hn
    rw [not_or, not_or] at hn
    exact ⟨h, not_le.mp hn.2.1, not_lt.mp hn.2.2⟩

theorem hasNewerFrame_iff {store : FrameStore} {identity : FrameIdentity} :
    store.hasNewerFrame identity = true ↔
      ∃ frame, store.latestFrame = some frame ∧ orderKey identity < frameKey frame := by
  unfold hasNewerFrame frameKey
  rw [Option.any_eq_true]
  simp only [isNewerIdentity_iff]

end FrameStore

/-- What a call answered, and the time at which it did. -/
inductive Call where
  | published (frame : Option CapturedFrame) (stored : Bool) (now : ℤ)
  | acquired (answer : Option CapturedFrame)
  | acquiredFresh (maxAge now : ℤ) (answer : Option CapturedFrame)
  | waited (identity : FrameIdentity) (answer : Option CapturedFrame)
  | cleared

/-- The frame a read gave away. -/
def Call.answer : Call → Option CapturedFrame
  | .acquired answer | .acquiredFresh _ _ answer | .waited _ answer => answer
  | .published .. | .cleared => none

/-- A thread inside `wait_for`. -/
structure Wait where
  identity : FrameIdentity
  deadline : ℤ

/-- The store, the threads that wait on it, the clock, and the calls so far, newest first. -/
structure Shared where
  store : FrameStore := {}
  waits : List Wait := []
  now : ℤ := 0
  calls : List Call := []

namespace Shared

/-- Each call runs under the mutex; a wait gives it up until it is woken or timed out. -/
inductive Event where
  | publishFrame (frame : Option CapturedFrame)
  | acquireLatestFrame
  | acquireFreshFrame (maxAge : ℤ)
  | waitForFrameAfter (identity : FrameIdentity) (timeout : ℤ)
  | wake (index : ℕ)
  | clear
  | elapse (duration : ℕ)

def step (s : Shared) : Event → Option Shared
  | .publishFrame frame =>
    let published := s.store.publishFrame frame s.now
    some { s with store := published.2, calls := .published frame published.1 s.now :: s.calls }
  | .acquireLatestFrame =>
    some { s with calls := .acquired s.store.acquireLatestFrame :: s.calls }
  | .acquireFreshFrame maxAge =>
    some { s with
      calls := .acquiredFresh maxAge s.now (s.store.acquireFreshFrame maxAge s.now) :: s.calls }
  | .waitForFrameAfter identity timeout =>
    some { s with waits := s.waits ++ [⟨identity, s.now + nanoseconds timeout⟩] }
  | .wake index =>
    s.waits[index]?.map fun wait =>
      if s.store.hasNewerFrame wait.identity then
        { s with
          waits := s.waits.eraseIdx index
          calls := .waited wait.identity s.store.latestFrame :: s.calls }
      else if wait.deadline ≤ s.now then
        { s with waits := s.waits.eraseIdx index, calls := .waited wait.identity none :: s.calls }
      -- a spurious wake-up
      else s
  | .clear => some { s with store := s.store.clear, calls := .cleared :: s.calls }
  | .elapse duration => some { s with now := s.now + duration }

def IsInitial (s : Shared) : Prop := s.store = {} ∧ s.waits = [] ∧ s.calls = []

/-- A step makes at most one call; a call that is no publication and no clear leaves the store. -/
theorem step_calls {s t : Shared} {event : Event} (h : step s event = some t) :
    (t.store = s.store ∧ t.calls = s.calls) ∨
    (∃ frame now, t.store = (s.store.publishFrame frame now).2 ∧
      t.calls = .published frame (s.store.publishFrame frame now).1 now :: s.calls) ∨
    (t.store = s.store ∧ t.calls = .acquired s.store.latestFrame :: s.calls) ∨
    (∃ maxAge now, t.store = s.store ∧
      t.calls = .acquiredFresh maxAge now (s.store.acquireFreshFrame maxAge now) :: s.calls) ∨
    (∃ identity, t.store = s.store ∧ s.store.hasNewerFrame identity = true ∧
      t.calls = .waited identity s.store.latestFrame :: s.calls) ∨
    (∃ identity, t.store = s.store ∧ t.calls = .waited identity none :: s.calls) ∨
    (t.store = {} ∧ t.calls = .cleared :: s.calls) := by
  cases event with
  | publishFrame frame =>
    cases h
    exact .inr (.inl ⟨frame, s.now, rfl, rfl⟩)
  | acquireLatestFrame =>
    cases h
    exact .inr (.inr (.inl ⟨rfl, rfl⟩))
  | acquireFreshFrame maxAge =>
    cases h
    exact .inr (.inr (.inr (.inl ⟨maxAge, s.now, rfl, rfl⟩)))
  | waitForFrameAfter identity timeout =>
    cases h
    exact .inl ⟨rfl, rfl⟩
  | wake index =>
    obtain ⟨wait, -, ht⟩ := Option.map_eq_some_iff.mp h
    split at ht
    · rename_i hw
      subst ht
      exact .inr (.inr (.inr (.inr (.inl ⟨wait.identity, rfl, hw, rfl⟩))))
    · split at ht
      · subst ht
        exact .inr (.inr (.inr (.inr (.inr (.inl ⟨wait.identity, rfl, rfl⟩)))))
      · subst ht
        exact .inl ⟨rfl, rfl⟩
  | clear =>
    cases h
    exact .inr (.inr (.inr (.inr (.inr (.inr ⟨rfl, rfl⟩)))))
  | elapse duration =>
    cases h
    exact .inl ⟨rfl, rfl⟩

end Shared

end NodusVision.Application
