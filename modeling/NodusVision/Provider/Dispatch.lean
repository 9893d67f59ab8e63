import NodusVision.Provider.Received

/-! Where `handleRead` takes a request, and what the session answers by itself. -/
namespace NodusVision.Provider
open Text

variable {setup : SessionSetup} {request : HttpRequest}

def Route.method (route : Route) : HttpMethod := if route.isPost then .post else .get

def ProviderStreamKind.target : ProviderStreamKind → ByteString
  | .color => ascii "/stream/color.mjpg"
  | .depth => ascii "/stream/depth.mjpg"

theorem HttpMessage.set_status (m : HttpMessage) (name value : ByteString) :
    (m.set name value).status = m.status := rfl

theorem HttpMessage.closeConnection_status (m : HttpMessage) :
    m.closeConnection.status = m.status := by
  unfold HttpMessage.closeConnection
  split
  · rfl
  · rfl

theorem Connection.setCorsHeaders_status (c : Connection) (m : HttpMessage) :
    (c.setCorsHeaders m).status = m.status := by
  unfold Connection.setCorsHeaders
  split
  · rfl
  · rfl

theorem setHeaders_status (headers : HeaderList) (m : HttpMessage) :
    (headers.foldl (fun m header => m.set header.1 header.2) m).status = m.status := by
  induction headers generalizing m with
  | nil => rfl
  | cons header headers ih => rw [List.foldl_cons, ih, HttpMessage.set_status]

/-- A response goes out with the status of its payload. -/
theorem sendResponse_started (version : ℕ) (payload : ProviderHttpResponse) (c : Connection) :
    ∃ m, (c.sendResponse version payload).started = c.started ++ [.response m] ∧
      m.status = payload.status := by
  refine ⟨_, rfl, ?_⟩
  show (HttpMessage.closeConnection _).status = payload.status
  rw [HttpMessage.closeConnection_status, setHeaders_status, Connection.setCorsHeaders_status]
  rfl

/-- Statuses of the responses of a connection. -/
def Connection.statuses (c : Connection) : List ℕ :=
  c.started.filterMap fun
    | .response m => some m.status
    | _ => none

theorem sendResponse_statuses (version : ℕ) (payload : ProviderHttpResponse) (c : Connection) :
    (c.sendResponse version payload).statuses = c.statuses ++ [payload.status] := by
  obtain ⟨m, hstarted, hstatus⟩ := sendResponse_started version payload c
  rw [Connection.statuses, hstarted, List.filterMap_append, Connection.statuses]
  simp [hstatus]

/-- The session does not say that a route is missing or that a method is wrong. -/
def Finds (status : ℕ) : Prop := status ≠ 404 ∧ status ≠ 405

/-- The statuses are those of the callback, or such that the session found the route. -/
def Answered (answer : Except Unit ProviderHttpResponse) (c : Connection) : Prop :=
  ∀ status ∈ c.statuses, Finds status ∨ ∃ payload, answer = .ok payload ∧ payload.status = status

theorem Answered.sendResponse {answer : Except Unit ProviderHttpResponse} {c : Connection}
    (hc : Answered answer c) {payload : ProviderHttpResponse} (version : ℕ)
    (hpayload : Finds payload.status ∨ answer = .ok payload) :
    Answered answer (c.sendResponse version payload) := by
  intro status hmem
  rw [sendResponse_statuses, List.mem_append, List.mem_singleton] at hmem
  rcases hmem with hmem | rfl
  · exact hc status hmem
  · rcases hpayload with hfinds | hanswer
    · exact .inl hfinds
    · exact .inr ⟨payload, hanswer, rfl⟩

end NodusVision.Provider
