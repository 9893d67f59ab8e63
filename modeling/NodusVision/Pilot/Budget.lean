import Mathlib.Algebra.Order.BigOperators.Group.List
import Mathlib.Algebra.Order.Ring.Int
import Mathlib.Order.Bounds.Basic
import NodusVision.Pilot.RequestSession
import NodusVision.Pilot.Transport
import NodusVision.Transition.Reach

/-! The deadlines that one request runs under. -/
namespace NodusVision.Pilot.Http
open Text Transition Config

/-- The deadline, in milliseconds, of an operation that a session starts. -/
def Operation.deadlineMs (bounds : TransportBounds) : Operation → ℤ
  | resolve | connect => bounds.connectTimeoutMs
  | write | read => bounds.requestTimeoutMs
  | timer | cancel => 0

/-- The sum of the deadlines of what was started so far. -/
def RequestSession.deadlinesMs (bounds : TransportBounds) (s : RequestSession) : ℤ :=
  ((s.log.map Delivery.operation ++ s.outstanding).map (Operation.deadlineMs bounds)).sum

/-- A handler runs, or a cancellation is posted. -/
def sessionStep (s : RequestSession) : Option Delivery → Option RequestSession
  | some d => s.deliver d
  | none => some s.post

def SessionReach : RequestSession → Prop :=
  Reach (· = RequestSession.startRequest {}) sessionStep anyStep

/-- The sums that the deadlines of a request can come to. -/
def budgets (bounds : TransportBounds) : Set ℤ :=
  { budget | ∃ s, SessionReach s ∧ s.deadlinesMs bounds = budget }

/-- The deadlines of the operations that can still follow. -/
def Operation.remainingMs (bounds : TransportBounds) : Operation → ℤ
  | resolve => bounds.connectTimeoutMs + 2 * bounds.requestTimeoutMs
  | connect => 2 * bounds.requestTimeoutMs
  | write => bounds.requestTimeoutMs
  | read | timer | cancel => 0

def RequestSession.allowanceMs (bounds : TransportBounds) (s : RequestSession) : ℤ :=
  s.deadlinesMs bounds + (s.outstanding.map (Operation.remainingMs bounds)).sum

section
variable {bounds : TransportBounds} {s t : RequestSession}

theorem remaining_follows {operation next : Operation} (hconnect : 0 ≤ bounds.connectTimeoutMs)
    (hrequest : 0 ≤ bounds.requestTimeoutMs) (hstage : next.isStage = true)
    (hless : next.weight < operation.weight) :
    next.deadlineMs bounds + next.remainingMs bounds ≤ operation.remainingMs bounds := by
  cases next <;> cases operation <;>
    simp only [Operation.weight, Operation.isStage, Operation.deadlineMs, Operation.remainingMs] at * <;>
    omega

theorem remaining_nonneg (operation : Operation) (hconnect : 0 ≤ bounds.connectTimeoutMs)
    (hrequest : 0 ≤ bounds.requestTimeoutMs) : 0 ≤ operation.remainingMs bounds := by
  cases operation <;> simp only [Operation.remainingMs] <;> omega

/-- What was started is the same after an operation is over. -/
theorem deadlinesMs_receive {d : Delivery} (h : d.operation ∈ s.outstanding) :
    (s.receive d).deadlinesMs bounds = s.deadlinesMs bounds := by
  have hperm : ((s.receive d).log.map Delivery.operation ++ (s.receive d).outstanding).Perm
      (s.log.map Delivery.operation ++ s.outstanding) := by
    show ((s.log ++ [d]).map Delivery.operation ++ s.outstanding.erase d.operation).Perm _
    rw [List.map_append, List.append_assoc]
    exact List.Perm.append_left _ (List.perm_cons_erase h).symm
  unfold RequestSession.deadlinesMs
  exact (hperm.map _).sum_eq

theorem allowanceMs_receive {d : Delivery} (h : d.operation ∈ s.outstanding) :
    (s.receive d).allowanceMs bounds + d.operation.remainingMs bounds = s.allowanceMs bounds := by
  have hperm := ((List.perm_cons_erase h).map (Operation.remainingMs bounds)).sum_eq
  rw [List.map_cons, List.sum_cons] at hperm
  unfold RequestSession.allowanceMs
  rw [deadlinesMs_receive h]
  show s.deadlinesMs bounds + ((s.outstanding.erase d.operation).map _).sum + _ = _
  omega

theorem allowanceMs_asyncStart (operation : Operation) : (s.asyncStart operation).allowanceMs bounds =
    s.allowanceMs bounds + (operation.deadlineMs bounds + operation.remainingMs bounds) := by
  unfold RequestSession.allowanceMs RequestSession.deadlinesMs RequestSession.asyncStart
  simp only [List.map_append, List.map_cons, List.map_nil, List.sum_append, List.sum_cons,
    List.sum_nil]
  omega

/-- No handler raises what the request is allowed in all. -/
theorem allowanceMs_deliver {d : Delivery} (hconnect : 0 ≤ bounds.connectTimeoutMs)
    (hrequest : 0 ≤ bounds.requestTimeoutMs) (h : SessionInv s) (ht : s.deliver d = some t) :
    t.allowanceMs bounds ≤ s.allowanceMs bounds := by
  obtain ⟨hmem, hcases⟩ := deliver_cases h ht
  have hreceive := @allowanceMs_receive bounds s d hmem
  have hnonneg := remaining_nonneg d.operation hconnect hrequest
  rcases hcases with ⟨-, rfl⟩ | ⟨-, hhandled⟩
  · omega
  · cases hhandled with
    | ended result hd hfinished hc hr hl hlate houtstanding =>
      have hsame : t.allowanceMs bounds = (s.receive d).allowanceMs bounds := by
        unfold RequestSession.allowanceMs RequestSession.deadlinesMs
        rw [hl, houtstanding]
      omega
    | started operation hd hstage hless ht =>
      have hstart := @allowanceMs_asyncStart bounds (s.receive d) operation
      have hfollows := remaining_follows hconnect hrequest hstage hless
      rw [ht]
      omega
    | ignored hd htimer ht =>
      rw [ht]
      omega

theorem allowanceMs_post : s.post.allowanceMs bounds = s.allowanceMs bounds := by
  unfold RequestSession.allowanceMs RequestSession.deadlinesMs RequestSession.post
  simp [Operation.deadlineMs, Operation.remainingMs]

theorem sessionReach_inv (h : SessionReach s) : SessionInv s := by
  apply Reach.invariant SessionInv _ _ h
  · rintro s rfl
    exact sessionInv_start
  · intro s e t _ hinv ht _
    cases e with
    | none =>
      cases ht
      exact sessionInv_post hinv
    | some d => exact sessionInv_deliver hinv ht

/-- The deadlines of a request are those of its four operations at most. -/
theorem deadlinesMs_le (hconnect : 0 ≤ bounds.connectTimeoutMs)
    (hrequest : 0 ≤ bounds.requestTimeoutMs) (h : SessionReach s) :
    s.deadlinesMs bounds ≤ 2 * (bounds.connectTimeoutMs + bounds.requestTimeoutMs) := by
  have hallowance : s.allowanceMs bounds ≤
      2 * (bounds.connectTimeoutMs + bounds.requestTimeoutMs) := by
    apply Reach.invariant (fun s => s.allowanceMs bounds ≤ _) _ _ h
    · rintro s rfl
      simp only [RequestSession.startRequest, allowanceMs_asyncStart]
      simp only [RequestSession.allowanceMs, RequestSession.deadlinesMs, Operation.deadlineMs,
        Operation.remainingMs, List.map_nil, List.append_nil, List.sum_nil]
      omega
    · intro s e t hs hle ht _
      cases e with
      | none =>
        cases ht
        rw [allowanceMs_post]
        exact hle
      | some d => exact (allowanceMs_deliver hconnect hrequest (sessionReach_inv hs) ht).trans hle
  have hrest : 0 ≤ (s.outstanding.map (Operation.remainingMs bounds)).sum := by
    apply List.sum_nonneg
    intro remaining hmem
    obtain ⟨operation, -, rfl⟩ := List.mem_map.mp hmem
    exact remaining_nonneg operation hconnect hrequest
  unfold RequestSession.allowanceMs at hallowance
  omega

/-- A request that gets as far as the read has run under all of them. -/
theorem deadlinesMs_attained : ∃ s, SessionReach s ∧
    s.deadlinesMs bounds = 2 * (bounds.connectTimeoutMs + bounds.requestTimeoutMs) := by
  have h0 : SessionReach (RequestSession.startRequest {}) := .start rfl
  have hrun := h0.next (e := some (.resolved none)) rfl trivial
  have hrun := hrun.next (e := some (.connected none)) rfl trivial
  have hrun := hrun.next (e := some (.written none)) rfl trivial
  refine ⟨_, hrun, ?_⟩
  show ([Operation.resolve, .connect, .write, .timer, .read].map (Operation.deadlineMs bounds)).sum = _
  simp only [List.map_cons, List.map_nil, List.sum_cons, List.sum_nil, Operation.deadlineMs]
  omega

theorem isGreatest_budgets (hconnect : 0 ≤ bounds.connectTimeoutMs)
    (hrequest : 0 ≤ bounds.requestTimeoutMs) :
    IsGreatest (budgets bounds) (2 * (bounds.connectTimeoutMs + bounds.requestTimeoutMs)) := by
  constructor
  · exact deadlinesMs_attained
  · rintro budget ⟨s, hs, rfl⟩
    exact deadlinesMs_le hconnect hrequest hs

end
end NodusVision.Pilot.Http
