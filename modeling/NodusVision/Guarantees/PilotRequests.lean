import NodusVision.Pilot.Requests

/-! What the HTTP transport answers to its callers. -/
namespace NodusVision.Guarantees
open Text Transition Pilot.Http

/-- Every request is completed once, by the first handler that ends it. -/
structure CompletedOnce (s : PilotHttpTransport) : Prop where
  /-- What was returned is the one result of the completion. -/
  returned : ∀ (i : ℕ) (result : PilotHttpResult), s.returned[i]? = some result →
    ∃ session : RequestSession, s.sessions[i]? = some session ∧ session.results = [result]
  /-- The completion ran with the result of the first handler that ends the request, if one ran. -/
  first : ∀ session ∈ s.sessions,
    session.results = (session.log.findSome? Delivery.terminal).toList
  /-- A status is that of a JSON response that was read before any handler ended the request. -/
  status : ∀ session ∈ s.sessions, ∀ result ∈ session.results, 0 < result.status →
    ∃ before response after, session.log = before ++ .read (.ok response) :: after ∧
      isJsonContentType response.contentType = true ∧
      result = RequestSession.responseResult response ∧
      ∀ d ∈ before, d.terminal = none
  /-- No operation was started after the completion ran. -/
  late : ∀ session ∈ s.sessions, session.lateStarts = 0
  /-- A cancellation is handled by a request during which it was asked for. -/
  cancelled : ∀ (i : ℕ) (session : RequestSession), s.sessions[i]? = some session →
    .cancel ∈ session.log → i ∈ s.issued

/-- While a request runs, the context has a handler to run or returns, and it does not run for ever. -/
structure Progresses (isVerb : ByteString → Bool) (s : PilotHttpTransport) : Prop where
  enabled : s.phase = .running → (∃ t, s.step isVerb .runReturns = some t) ∨
    ∃ index d t, s.step isVerb (.deliver index d) = some t
  decreases : ∀ index d t, s.step isVerb (.deliver index d) = some t → t.work < s.work

section
variable {isVerb : ByteString → Bool} {s t : PilotHttpTransport}

theorem transportInv_reachable (h : Reach (· = {}) (PilotHttpTransport.step isVerb) anyStep s) :
    TransportInv s := by
  apply Reach.invariant TransportInv _ _ h
  · rintro s rfl
    exact transportInv_constructed
  · intro s e t _ hinv he _
    exact hinv.step he

theorem sum_set_lt {items : List ℕ} {i a b : ℕ} (h : items[i]? = some a) (hlt : b < a) :
    (items.set i b).sum < items.sum := by
  induction items generalizing i with
  | nil => cases h
  | cons first rest ih =>
    cases i with
    | zero =>
      cases h
      simpa using hlt
    | succ i =>
      have hrest := ih h
      simpa using hrest

/-- A handler of an outstanding operation, without an error. -/
def success : Operation → Delivery
  | .resolve => .resolved none
  | .connect => .connected none
  | .write => .written none
  | .read => .read (.error .other)
  | .timer => .timer none
  | .cancel => .cancel

theorem success_operation (operation : Operation) : (success operation).operation = operation := by
  cases operation <;> rfl

theorem progresses (h : TransportInv s) : Progresses isVerb s := by
  constructor
  · intro hphase
    by_cases hdone : ∀ session ∈ s.sessions, session.outstanding = []
    · exact .inl ⟨_, if_pos ⟨hphase, hdone⟩⟩
    · push Not at hdone
      obtain ⟨session, hmem, hne⟩ := hdone
      obtain ⟨operation, hoperation⟩ := List.exists_mem_of_ne_nil _ hne
      obtain ⟨index, hindex⟩ := List.mem_iff_getElem?.mp hmem
      have hdeliver : session.deliver (success operation) =
          some ((session.receive (success operation)).handle (success operation)) := by
        unfold RequestSession.deliver
        rw [success_operation, if_pos hoperation]
      right
      use index, success operation
      simp only [PilotHttpTransport.step]
      rw [if_pos hphase, hindex, Option.bind_some, hdeliver]
      exact ⟨_, rfl⟩
  · intro index d t he
    simp only [PilotHttpTransport.step] at he
    split at he
    · obtain ⟨new, hnew, rfl⟩ := Option.map_eq_some_iff.mp he
      obtain ⟨old, hold, hdeliver⟩ := Option.bind_eq_some_iff.mp hnew
      have hless := deliver_decreases (h.sessions old (List.mem_of_getElem? hold)) hdeliver
      show ((s.sessions.set index new).map RequestSession.work).sum < _
      rw [List.map_set]
      apply sum_set_lt _ hless
      rw [List.getElem?_map, hold]
      rfl
    · cases he

/-- Whatever the order of the handlers and of the cancellations is, a request completes once. -/
theorem requests_complete_once (h : Reach (· = {}) (PilotHttpTransport.step isVerb) anyStep s) :
    CompletedOnce s ∧ Progresses isVerb s := by
  have hinv := transportInv_reachable h
  constructor
  · constructor
    · exact hinv.once
    · intro session hmem
      exact (hinv.sessions session hmem).results
    · intro session hmem result hresult hstatus
      exact status_read (hinv.sessions session hmem) hresult hstatus
    · intro session hmem
      exact (hinv.sessions session hmem).late
    · intro i session hsession hlog
      exact hinv.issued i session hsession (.inl hlog)
  · exact progresses hinv

end

def healthRequest : Pilot.PilotHttpRequest where
  method := ascii "GET"
  target := ascii "/health"
  body := []

/-- A request that is answered, and one during which a cancellation of the first is handled; the first
cancellation was asked for when the context had returned. -/
def answered : List TransportEvent :=
  [.execute healthRequest, .deliver 0 (.resolved none), .deliver 0 (.timer (some .operationAborted)),
    .deliver 0 (.connected none), .deliver 0 (.written none),
    .deliver 0 (.read (.ok ⟨200, jsonContentType, []⟩)), .runReturns, .cancelRequest, .executeReturns,
    .execute healthRequest, .deliver 0 .cancel, .deliver 1 (.resolved (some .other)),
    .deliver 1 (.timer none), .runReturns, .executeReturns]

set_option maxRecDepth 100000 in
theorem requests_complete_once_answered : ∃ s : PilotHttpTransport,
    s.returned.map PilotHttpResult.status = [200, 0] ∧
      CompletedOnce s ∧ Progresses (fun _ => true) s := by
  have h0 : Reach (· = {}) (PilotHttpTransport.step fun _ => true) anyStep ({} : PilotHttpTransport) :=
    .start rfl
  have hrun : (runEvents (PilotHttpTransport.step fun _ => true) (fun _ _ => true) {} answered).any
      (fun s => s.returned.map PilotHttpResult.status == [200, 0]) = true := by
    decide +kernel
  obtain ⟨s, hs, htest⟩ := h0.exists_run_all (fun _ _ _ _ => trivial) hrun
  exact ⟨s, beq_iff_eq.mp htest, requests_complete_once hs⟩

end NodusVision.Guarantees
