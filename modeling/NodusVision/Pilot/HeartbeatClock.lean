import Mathlib.Algebra.Order.Ring.Int
import Mathlib.Data.List.Pairwise
import NodusVision.Transition.Reach

/-! The time of the next heartbeat, in the 64-bit nanoseconds of the steady clock, and the loop of
`runSession` that waits for it. -/
namespace NodusVision.Pilot
open Transition

/-- What a signed integer of 64 bits keeps of a result. -/
def int64 (value : ℤ) : ℤ := value.bmod (2 ^ 64)

def IsInt64 (value : ℤ) : Prop := -2 ^ 63 ≤ value ∧ value < 2 ^ 63

theorem int64_of_isInt64 {value : ℤ} (h : IsInt64 value) : int64 value = value := by
  obtain ⟨hlow, hhigh⟩ := h
  apply Int.bmod_eq_of_le_mul_two
  · omega
  · omega

/-- `std::chrono::milliseconds(interval)`, as nanoseconds -/
def intervalNs (intervalMs : ℕ) : ℤ := int64 (int64 intervalMs * 1000000)

/-- `std::chrono::steady_clock::now() + std::chrono::milliseconds(interval)` -/
def nextHeartbeat (nowNs : ℤ) (intervalMs : ℕ) : ℤ := int64 (nowNs + intervalNs intervalMs)

/-- The loop of `runSession`. The times at which heartbeats were sent, the newest first, are read by no
step. -/
structure SessionClock where
  nowNs : ℤ
  nextHeartbeatNs : ℤ
  writing : Bool := false
  heartbeats : List ℤ := []

inductive ClockEvent where
  | elapse (ns : ℕ)
  /-- the wait ends at its deadline -/
  | heartbeat
  /-- the wait ends for a pending state -/
  | stateUpdate
  /-- the answer to the lifecycle write -/
  | accepted

namespace SessionClock

def start (intervalMs : ℕ) (nowNs : ℤ) : SessionClock where
  nowNs := nowNs
  nextHeartbeatNs := nextHeartbeat nowNs intervalMs

def step (intervalMs : ℕ) (s : SessionClock) : ClockEvent → Option SessionClock
  | .elapse ns => some { s with nowNs := s.nowNs + ns }
  | .heartbeat =>
    if s.writing = false ∧ s.nextHeartbeatNs ≤ s.nowNs then
      some { s with writing := true, heartbeats := s.nowNs :: s.heartbeats }
    else none
  | .stateUpdate => if s.writing then none else some { s with writing := true }
  | .accepted =>
    if s.writing then
      some { s with writing := false, nextHeartbeatNs := nextHeartbeat s.nowNs intervalMs }
    else none

/-- Between two heartbeats lies the interval at least. -/
def Spaced (intervalMs : ℕ) (s : SessionClock) : Prop :=
  s.heartbeats.Pairwise fun (later earlier : ℤ) => earlier + intervalMs * 1000000 ≤ later

/-- The next heartbeat is not due before the interval is over. -/
structure Inv (intervalMs : ℕ) (s : SessionClock) : Prop where
  spaced : s.Spaced intervalMs
  past : ∀ sent ∈ s.heartbeats, sent ≤ s.nowNs
  due : s.writing = false → ∀ sent ∈ s.heartbeats,
    sent + intervalMs * 1000000 ≤ s.nextHeartbeatNs

section
variable {intervalMs : ℕ} {nowNs : ℤ} {s t : SessionClock}

theorem inv_start : (start intervalMs nowNs).Inv intervalMs := by
  constructor
  · unfold Spaced
    exact List.Pairwise.nil
  · intro sent hsent
    cases hsent
  · intro _ sent hsent
    cases hsent

theorem nowNs_step {e : ClockEvent} (ht : s.step intervalMs e = some t) : s.nowNs ≤ t.nowNs := by
  cases e with
  | elapse ns =>
    cases ht
    show s.nowNs ≤ s.nowNs + ns
    omega
  | heartbeat | accepted =>
    simp only [SessionClock.step] at ht
    split at ht
    · cases ht
      exact le_refl _
    · cases ht
  | stateUpdate =>
    simp only [SessionClock.step] at ht
    split at ht
    · cases ht
    · cases ht
      exact le_refl _

theorem Inv.step {e : ClockEvent} (h : s.Inv intervalMs)
    (hexact : nextHeartbeat s.nowNs intervalMs = s.nowNs + intervalMs * 1000000)
    (ht : s.step intervalMs e = some t) : t.Inv intervalMs := by
  cases e with
  | elapse ns =>
    cases ht
    refine ⟨h.spaced, ?_, h.due⟩
    intro sent hsent
    have hpast := h.past sent hsent
    show sent ≤ s.nowNs + ns
    omega
  | heartbeat =>
    simp only [SessionClock.step] at ht
    split at ht
    · rename_i hdue
      cases ht
      constructor
      · unfold Spaced
        apply List.Pairwise.cons
        · intro earlier hearlier
          exact (h.due hdue.1 earlier hearlier).trans hdue.2
        · exact h.spaced
      · intro sent hsent
        rcases List.mem_cons.mp hsent with rfl | hsent
        · exact Int.le_refl _
        · exact h.past sent hsent
      · intro hwriting
        cases hwriting
    · cases ht
  | stateUpdate =>
    simp only [SessionClock.step] at ht
    split at ht
    · cases ht
    · cases ht
      refine ⟨h.spaced, h.past, ?_⟩
      intro hwriting
      cases hwriting
  | accepted =>
    simp only [SessionClock.step] at ht
    split at ht
    · cases ht
      refine ⟨h.spaced, h.past, ?_⟩
      intro _ sent hsent
      have hpast := h.past sent hsent
      show sent + _ ≤ nextHeartbeat s.nowNs intervalMs
      omega
    · cases ht

end
end SessionClock
end NodusVision.Pilot
