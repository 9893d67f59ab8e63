import Mathlib.Algebra.BigOperators.Group.List.Basic
import NodusVision.Text.Json

/-! One request of the HTTP transport and its asynchronous operations. -/
namespace NodusVision.Pilot.Http
open Text

structure PilotHttpResult where
  status : ℕ := 0
  contentType : ByteString := []
  body : ByteString := []
  error : ByteString := []
  deriving DecidableEq

/-- The errors that the handlers tell apart. -/
inductive ErrorCode where
  | timeout
  | operationAborted
  | other
  deriving DecidableEq

/-- A response that was read completely. -/
structure HttpResponse where
  status : ℕ
  contentType : ByteString
  body : ByteString
  deriving DecidableEq

def jsonContentType : ByteString := ascii "application/json"

def isJsonContentType (contentType : ByteString) : Bool :=
  jsonContentType.isPrefixOf contentType &&
    (contentType.length == jsonContentType.length ||
      contentType[jsonContentType.length]? == some 59)

/-- What is outstanding: an asynchronous operation, a wait, or a cancellation that was posted. -/
inductive Operation where
  | resolve
  | connect
  | write
  | read
  | timer
  | cancel
  deriving DecidableEq

/-- A handler with its arguments. The expiry of a stream is an error of the operation. -/
inductive Delivery where
  | resolved (error : Option ErrorCode)
  | connected (error : Option ErrorCode)
  | written (error : Option ErrorCode)
  | read (outcome : Except ErrorCode HttpResponse)
  | timer (error : Option ErrorCode)
  | cancel
  deriving DecidableEq

def Delivery.operation : Delivery → Operation
  | resolved _ => .resolve
  | connected _ => .connect
  | written _ => .write
  | read _ => .read
  | timer _ => .timer
  | cancel => .cancel

/-- A session, with what is outstanding and a record that no handler reads: the handlers that ran, the
results that the completion was given, and the operations that were started after it. -/
structure RequestSession where
  finished : Bool := false
  cancelled : Bool := false
  timedOut : Bool := false
  hasCompletion : Bool := true
  outstanding : List Operation := []
  log : List Delivery := []
  results : List PilotHttpResult := []
  lateStarts : ℕ := 0
  deriving DecidableEq

namespace RequestSession

/-- `async_resolve` and the others. -/
def asyncStart (operation : Operation) (s : RequestSession) : RequestSession :=
  { s with
    outstanding := s.outstanding ++ [operation]
    lateStarts := if s.finished then s.lateStarts + 1 else s.lateStarts }

/-- The session after its construction, whose timer is armed for the resolution. -/
def startRequest (s : RequestSession) : RequestSession := (s.asyncStart .timer).asyncStart .resolve

/-- The cancellation that `cancelRequest` posts to the I/O context. -/
def post (s : RequestSession) : RequestSession :=
  { s with outstanding := s.outstanding ++ [.cancel] }

def finish (result : PilotHttpResult) (s : RequestSession) : RequestSession :=
  if s.finished then s
  else
    let s := { s with finished := true }
    if s.hasCompletion then { s with hasCompletion := false, results := s.results ++ [result] } else s

def deadlineExceeded : PilotHttpResult := { error := ascii "request deadline exceeded" }

def requestCancelled : PilotHttpResult := { error := ascii "request cancelled" }

/-- Cancelling what is outstanding decides only with which errors the handlers run. -/
def handleError (error : Option ErrorCode) (fallback : String) (s : RequestSession) : RequestSession :=
  if s.finished then s
  else if s.timedOut || error == some .timeout then s.finish deadlineExceeded
  else if s.cancelled || error == some .operationAborted then s.finish requestCancelled
  else s.finish { error := ascii fallback }

def handleTimer (error : Option ErrorCode) (s : RequestSession) : RequestSession :=
  if error.isSome || s.finished then s else { s with timedOut := true }.finish deadlineExceeded

def handleCancel (s : RequestSession) : RequestSession :=
  if s.finished then s else { s with cancelled := true }.finish requestCancelled

def handleResolve (error : Option ErrorCode) (s : RequestSession) : RequestSession :=
  if error.isSome || s.finished then s.handleError error "resolve failed" else s.asyncStart .connect

def handleConnect (error : Option ErrorCode) (s : RequestSession) : RequestSession :=
  if error.isSome || s.finished then s.handleError error "connect failed" else s.asyncStart .write

def handleWrite (error : Option ErrorCode) (s : RequestSession) : RequestSession :=
  if error.isSome || s.finished then s.handleError error "write failed" else s.asyncStart .read

/-- The result of a response that was read. -/
def responseResult (response : HttpResponse) : PilotHttpResult :=
  if isJsonContentType response.contentType then
    { status := response.status, contentType := response.contentType, body := response.body }
  else
    { contentType := response.contentType
      error := ascii "Pilot response content type is not application/json" }

def handleRead (outcome : Except ErrorCode HttpResponse) (s : RequestSession) : RequestSession :=
  match outcome with
  | .error error => s.handleError (some error) "read failed"
  | .ok response =>
    if s.finished then s.handleError none "read failed" else s.finish (responseResult response)

def handle : Delivery → RequestSession → RequestSession
  | .resolved error => handleResolve error
  | .connected error => handleConnect error
  | .written error => handleWrite error
  | .read outcome => handleRead outcome
  | .timer error => handleTimer error
  | .cancel => handleCancel

/-- The operation is over, and its handler is to run. -/
def receive (d : Delivery) (s : RequestSession) : RequestSession :=
  { s with outstanding := s.outstanding.erase d.operation, log := s.log ++ [d] }

/-- Each operation that was started delivers its handler once. -/
def deliver (d : Delivery) (s : RequestSession) : Option RequestSession :=
  if d.operation ∈ s.outstanding then some ((s.receive d).handle d) else none

end RequestSession

/-- The result of a handler that fails. -/
def errorResult (error : ErrorCode) (fallback : String) : PilotHttpResult :=
  match error with
  | .timeout => RequestSession.deadlineExceeded
  | .operationAborted => RequestSession.requestCancelled
  | .other => { error := ascii fallback }

/-- A handler that ends a request ends it with this result. -/
def Delivery.terminal : Delivery → Option PilotHttpResult
  | resolved error => error.map (errorResult · "resolve failed")
  | connected error => error.map (errorResult · "connect failed")
  | written error => error.map (errorResult · "write failed")
  | read (.error error) => some (errorResult error "read failed")
  | read (.ok response) => some (RequestSession.responseResult response)
  | timer none => some RequestSession.deadlineExceeded
  | timer (some _) => none
  | cancel => some RequestSession.requestCancelled

/-- The operations of which one is outstanding until the request ends. -/
def Operation.isStage : Operation → Bool
  | resolve | connect | write | read => true
  | timer | cancel => false

/-- The handlers that can still run because of it. -/
def Operation.weight : Operation → ℕ
  | resolve => 4
  | connect => 3
  | write => 2
  | read | timer | cancel => 1

theorem Operation.weight_pos (operation : Operation) : 0 < operation.weight := by
  cases operation <;> decide

def RequestSession.work (s : RequestSession) : ℕ := (s.outstanding.map Operation.weight).sum

/-- The completion ran if and only if a terminal handler did, with the result of the first. -/
structure SessionInv (s : RequestSession) : Prop where
  results : s.results = (s.log.findSome? Delivery.terminal).toList
  completion : s.hasCompletion = !s.finished
  ended : s.finished = true ↔ s.results ≠ []
  flags : s.finished = false → s.cancelled = false ∧ s.timedOut = false
  stage : s.finished = false → ∃ operation ∈ s.outstanding, operation.isStage = true
  late : s.lateStarts = 0

theorem sessionInv_start : SessionInv (RequestSession.startRequest {}) := by
  constructor
  · rfl
  · rfl
  · decide
  · intro _
    exact ⟨rfl, rfl⟩
  · intro _
    exact ⟨.resolve, by decide, rfl⟩
  · rfl

section
variable {s t : RequestSession}

/-- What a handler does to a session that is not finished. -/
inductive Handled (d : Delivery) (s t : RequestSession) : Prop
  | ended (result : PilotHttpResult) (hd : d.terminal = some result) (hf : t.finished = true)
      (hc : t.hasCompletion = false) (hr : t.results = s.results ++ [result]) (hl : t.log = s.log)
      (hlate : t.lateStarts = s.lateStarts) (ho : t.outstanding = s.outstanding)
  | started (operation : Operation) (hd : d.terminal = none) (hstage : operation.isStage = true)
      (hless : operation.weight < d.operation.weight)
      (ht : t = s.asyncStart operation)
  | ignored (hd : d.terminal = none) (htimer : d.operation = .timer) (ht : t = s)

theorem finish_ended {d : Delivery} {result : PilotHttpResult} (cancelled timedOut : Bool)
    (hf : s.finished = false) (hc : s.hasCompletion = true) (hd : d.terminal = some result) :
    Handled d s ({ s with cancelled := cancelled, timedOut := timedOut }.finish result) := by
  unfold RequestSession.finish
  rw [if_neg (by rw [hf]; exact Bool.false_ne_true)]
  dsimp only
  rw [if_pos hc]
  exact .ended result hd rfl rfl rfl rfl rfl rfl

theorem handleError_ended {d : Delivery} {error : ErrorCode} {fallback : String}
    (hf : s.finished = false) (hc : s.hasCompletion = true) (hcancelled : s.cancelled = false)
    (htimedOut : s.timedOut = false) (hd : d.terminal = some (errorResult error fallback)) :
    Handled d s (s.handleError (some error) fallback) := by
  unfold RequestSession.handleError
  rw [if_neg (by rw [hf]; exact Bool.false_ne_true), hcancelled, htimedOut]
  cases error with
  | timeout => exact finish_ended s.cancelled s.timedOut hf hc hd
  | operationAborted => exact finish_ended s.cancelled s.timedOut hf hc hd
  | other => exact finish_ended s.cancelled s.timedOut hf hc hd

/-- A step of the stages ends the request or starts the next operation. -/
theorem stage_handled {d : Delivery} {error : Option ErrorCode} {fallback : String} {next : Operation}
    (hf : s.finished = false) (hc : s.hasCompletion = true) (hcancelled : s.cancelled = false)
    (htimedOut : s.timedOut = false) (hd : d.terminal = error.map (errorResult · fallback))
    (hnext : next.isStage = true) (hless : next.weight < d.operation.weight) :
    Handled d s (if error.isSome || s.finished then s.handleError error fallback
      else s.asyncStart next) := by
  cases error with
  | none =>
    rw [if_neg (by rw [hf]; exact Bool.false_ne_true)]
    exact .started next hd hnext hless rfl
  | some error =>
    show Handled d s (s.handleError (some error) fallback)
    exact handleError_ended hf hc hcancelled htimedOut hd

theorem handle_handled (d : Delivery) (hf : s.finished = false) (hc : s.hasCompletion = true)
    (hcancelled : s.cancelled = false) (htimedOut : s.timedOut = false) : Handled d s (s.handle d) := by
  cases d with
  | resolved error => exact stage_handled hf hc hcancelled htimedOut rfl rfl (Nat.lt_succ_self _)
  | connected error => exact stage_handled hf hc hcancelled htimedOut rfl rfl (Nat.lt_succ_self _)
  | written error => exact stage_handled hf hc hcancelled htimedOut rfl rfl (Nat.lt_succ_self _)
  | read outcome =>
    cases outcome with
    | error error => exact handleError_ended hf hc hcancelled htimedOut rfl
    | ok response =>
      show Handled _ s (if s.finished then _ else _)
      rw [if_neg (by rw [hf]; exact Bool.false_ne_true)]
      exact finish_ended s.cancelled s.timedOut hf hc rfl
  | timer error =>
    show Handled _ s (if error.isSome || s.finished then s else _)
    cases error with
    | none =>
      rw [if_neg (by rw [hf]; exact Bool.false_ne_true)]
      exact finish_ended s.cancelled true hf hc rfl
    | some error => exact .ignored rfl rfl rfl
  | cancel =>
    show Handled _ s (if s.finished then s else _)
    rw [if_neg (by rw [hf]; exact Bool.false_ne_true)]
    exact finish_ended true s.timedOut hf hc rfl

/-- Handlers that run later do nothing. -/
theorem handle_finished (d : Delivery) (hf : s.finished = true) : s.handle d = s := by
  have herror : ∀ error fallback, s.handleError error fallback = s := fun _ _ => if_pos hf
  have hguard : ∀ error : Option ErrorCode, (error.isSome || s.finished) = true := by
    intro error
    rw [hf, Bool.or_true]
  cases d with
  | resolved error => exact (if_pos (hguard error)).trans (herror _ _)
  | connected error => exact (if_pos (hguard error)).trans (herror _ _)
  | written error => exact (if_pos (hguard error)).trans (herror _ _)
  | read outcome =>
    cases outcome with
    | error error => exact herror _ _
    | ok response => exact (if_pos hf).trans (herror _ _)
  | timer error => exact if_pos (hguard error)
  | cancel => exact if_pos hf

theorem findSome?_append_singleton (log : List Delivery) (d : Delivery) :
    (log ++ [d]).findSome? Delivery.terminal =
      (log.findSome? Delivery.terminal).or d.terminal := by
  rw [List.findSome?_append, List.findSome?_singleton]

/-- Nothing terminal ran while the session is not finished. -/
theorem SessionInv.open (h : SessionInv s) (hf : s.finished = false) :
    s.log.findSome? Delivery.terminal = none ∧ s.results = [] := by
  have hempty : s.results = [] := by
    by_contra hne
    cases hf.symm.trans (h.ended.mpr hne)
  refine ⟨?_, hempty⟩
  rw [← Option.toList_eq_nil_iff, ← h.results]
  exact hempty

theorem SessionInv.answered (h : SessionInv s) (hf : s.finished = true) :
    ∃ first, s.log.findSome? Delivery.terminal = some first := by
  have hne := h.ended.mp hf
  rw [h.results] at hne
  cases hfirst : s.log.findSome? Delivery.terminal with
  | none => exact absurd (by rw [hfirst]; rfl) hne
  | some first => exact ⟨first, rfl⟩

theorem sessionInv_late {d : Delivery} (h : SessionInv s) (hf : s.finished = true) :
    SessionInv (s.receive d) := by
  obtain ⟨first, hfirst⟩ := h.answered hf
  have hlog : (s.receive d).log.findSome? Delivery.terminal = s.log.findSome? Delivery.terminal := by
    show (s.log ++ [d]).findSome? Delivery.terminal = _
    rw [findSome?_append_singleton, hfirst, Option.some_or]
  constructor
  · rw [hlog]
    exact h.results
  · exact h.completion
  · exact h.ended
  · exact h.flags
  · intro hfalse
    cases hf.symm.trans hfalse
  · exact h.late

theorem sessionInv_handled {d : Delivery} (h : SessionInv s) (hf : s.finished = false)
    (ht : Handled d (s.receive d) t) : SessionInv t := by
  obtain ⟨hnone, hempty⟩ := h.open hf
  have hlog : (s.receive d).log.findSome? Delivery.terminal = d.terminal := by
    show (s.log ++ [d]).findSome? Delivery.terminal = _
    rw [findSome?_append_singleton, hnone, Option.none_or]
  cases ht with
  | ended result hd hfinished hc hr hl hlate =>
    have hresults : t.results = [result] := by
      rw [hr]
      show s.results ++ [result] = [result]
      rw [hempty]
      rfl
    constructor
    · rw [hresults, hl, hlog, hd]
      rfl
    · rw [hc, hfinished]
      rfl
    · rw [hfinished, hresults]
      simp
    · intro hfalse
      cases hfinished.symm.trans hfalse
    · intro hfalse
      cases hfinished.symm.trans hfalse
    · rw [hlate]
      exact h.late
  | started operation hd hstage _ ht =>
    rw [ht]
    constructor
    · show s.results = ((s.receive d).log.findSome? Delivery.terminal).toList
      rw [hlog, hd, hempty]
      rfl
    · exact h.completion
    · exact h.ended
    · exact h.flags
    · intro _
      exact ⟨operation, List.mem_append_right _ (List.mem_singleton_self _), hstage⟩
    · show (if s.finished then s.lateStarts + 1 else s.lateStarts) = 0
      rw [hf, if_neg Bool.false_ne_true, h.late]
  | ignored hd htimer ht =>
    rw [ht]
    constructor
    · rw [hlog, hd]
      exact hempty
    · exact h.completion
    · exact h.ended
    · exact h.flags
    · intro _
      obtain ⟨operation, hmem, hstage⟩ := h.stage hf
      refine ⟨operation, ?_, hstage⟩
      show operation ∈ s.outstanding.erase d.operation
      rw [List.mem_erase_of_ne]
      · exact hmem
      · rintro rfl
        rw [htimer] at hstage
        cases hstage
    · exact h.late

theorem errorResult_status (error : ErrorCode) (fallback : String) :
    (errorResult error fallback).status = 0 := by
  cases error with
  | timeout => rfl
  | operationAborted => rfl
  | other => rfl

theorem status_error {error : Option ErrorCode} {fallback : String} {result : PilotHttpResult}
    (h : error.map (errorResult · fallback) = some result) : result.status = 0 := by
  obtain ⟨e, -, rfl⟩ := Option.map_eq_some_iff.mp h
  exact errorResult_status e fallback

/-- A status is reported for a response that was read before anything else ended the request. -/
theorem status_read {result : PilotHttpResult} (h : SessionInv s) (hr : result ∈ s.results)
    (hstatus : 0 < result.status) : ∃ before response after,
      s.log = before ++ .read (.ok response) :: after ∧
      isJsonContentType response.contentType = true ∧
      result = RequestSession.responseResult response ∧
      ∀ d ∈ before, d.terminal = none := by
  rw [h.results, Option.mem_toList, List.findSome?_eq_some_iff] at hr
  obtain ⟨before, d, after, hlog, hd, hbefore⟩ := hr
  cases d with
  | resolved error => exact absurd (status_error hd) (by omega)
  | connected error => exact absurd (status_error hd) (by omega)
  | written error => exact absurd (status_error hd) (by omega)
  | timer error =>
    cases error with
    | none =>
      cases hd
      cases hstatus
    | some error => cases hd
  | cancel =>
    cases hd
    cases hstatus
  | read outcome =>
    cases outcome with
    | error error =>
      cases hd
      rw [errorResult_status] at hstatus
      cases hstatus
    | ok response =>
      cases hd
      refine ⟨before, response, after, hlog, ?_, rfl, hbefore⟩
      unfold RequestSession.responseResult at hstatus
      split at hstatus
      · assumption
      · cases hstatus

theorem sessionInv_post (h : SessionInv s) : SessionInv s.post := by
  constructor
  · exact h.results
  · exact h.completion
  · exact h.ended
  · exact h.flags
  · intro hf
    obtain ⟨operation, hmem, hstage⟩ := h.stage hf
    exact ⟨operation, List.mem_append_left _ hmem, hstage⟩
  · exact h.late

/-- What a handler does, also after the request ended. -/
theorem deliver_cases {d : Delivery} (h : SessionInv s) (ht : s.deliver d = some t) :
    d.operation ∈ s.outstanding ∧
      ((s.finished = true ∧ t = s.receive d) ∨ (s.finished = false ∧ Handled d (s.receive d) t)) := by
  unfold RequestSession.deliver at ht
  split at ht
  · rename_i hmem
    cases ht
    refine ⟨hmem, ?_⟩
    cases hf : s.finished with
    | true => exact .inl ⟨rfl, handle_finished d (s := s.receive d) hf⟩
    | false =>
      obtain ⟨hcancelled, htimedOut⟩ := h.flags hf
      have hcompletion : s.hasCompletion = true := by
        rw [h.completion, hf]
        rfl
      exact .inr ⟨rfl, handle_handled d (s := s.receive d) hf hcompletion hcancelled htimedOut⟩
  · cases ht

theorem sessionInv_deliver {d : Delivery} (h : SessionInv s) (ht : s.deliver d = some t) :
    SessionInv t := by
  rcases (deliver_cases h ht).2 with ⟨hf, rfl⟩ | ⟨hf, hhandled⟩
  · exact sessionInv_late h hf
  · exact sessionInv_handled h hf hhandled

/-- Each handler that runs uses up work that was outstanding. -/
theorem deliver_decreases {d : Delivery} (h : SessionInv s) (ht : s.deliver d = some t) :
    t.work < s.work := by
  obtain ⟨hmem, hcases⟩ := deliver_cases h ht
  have hreceived : d.operation.weight + (s.receive d).work = s.work :=
    List.sum_map_erase Operation.weight hmem
  have hpositive := d.operation.weight_pos
  rcases hcases with ⟨-, rfl⟩ | ⟨-, hhandled⟩
  · omega
  · cases hhandled with
    | ended result hd hfinished hc hr hl hlate houtstanding =>
      have hsame : t.work = (s.receive d).work := by
        unfold RequestSession.work
        rw [houtstanding]
      omega
    | started operation hd hstage hless ht =>
      have hstarted : t.work = (s.receive d).work + operation.weight := by
        rw [ht]
        simp [RequestSession.work, RequestSession.asyncStart]
      omega
    | ignored hd htimer ht =>
      rw [ht]
      omega

/-- A request that ended keeps its result. -/
theorem deliver_finished {d : Delivery} (h : SessionInv s) (ht : s.deliver d = some t)
    (hf : s.finished = true) : t.finished = true ∧ t.results = s.results := by
  rcases (deliver_cases h ht).2 with ⟨-, rfl⟩ | ⟨hopen, -⟩
  · exact ⟨hf, rfl⟩
  · cases hf.symm.trans hopen

def RequestSession.isCancelled (s : RequestSession) : Prop :=
  .cancel ∈ s.log ∨ .cancel ∈ s.outstanding

/-- Only a cancellation that was posted is handled. -/
theorem deliver_isCancelled {d : Delivery} (h : SessionInv s) (ht : s.deliver d = some t)
    (hcancel : t.isCancelled) : s.isCancelled := by
  obtain ⟨hmem, hcases⟩ := deliver_cases h ht
  have hreceive : (s.receive d).isCancelled → s.isCancelled := by
    rintro (hlog | houtstanding)
    · rcases List.mem_append.mp hlog with hlog | hlog
      · exact .inl hlog
      · rw [← List.mem_singleton.mp hlog] at hmem
        exact .inr hmem
    · exact .inr (List.mem_of_mem_erase houtstanding)
  apply hreceive
  rcases hcases with ⟨-, rfl⟩ | ⟨-, hhandled⟩
  · exact hcancel
  · cases hhandled with
    | ended result hd hfinished hc hr hl hlate houtstanding =>
      unfold RequestSession.isCancelled at hcancel ⊢
      rw [hl, houtstanding] at hcancel
      exact hcancel
    | started operation hd hstage hless ht =>
      rw [ht] at hcancel
      rcases hcancel with hlog | houtstanding
      · exact .inl hlog
      · rcases List.mem_append.mp houtstanding with hold | hnew
        · exact .inr hold
        · rw [← List.mem_singleton.mp hnew] at hstage
          cases hstage
    | ignored hd htimer ht =>
      rw [ht] at hcancel
      exact hcancel

end

end NodusVision.Pilot.Http
