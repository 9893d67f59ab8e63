import NodusVision.Provider.Stages

/-! What the handlers of a session tell the server: the end of a session, and its stream. -/
namespace NodusVision.Provider
open Text Recording

/-- The members that the server's counters depend on. -/
structure Account where
  finished : Bool
  streaming : Bool
  streamKind : ProviderStreamKind
  hasClosedHandler : Bool
  closes : ℕ

def Connection.account (c : Connection) : Account where
  finished := c.session.finished
  streaming := c.session.streaming
  streamKind := c.session.streamKind
  hasClosedHandler := c.session.hasClosedHandler
  closes := c.closes

def Account.close (a : Account) : Account :=
  { a with finished := true, hasClosedHandler := false, closes := a.closes + 1 }

def Account.opened (a : Account) (kind : ProviderStreamKind) : Account :=
  { a with streaming := true, streamKind := kind }

theorem closedOnce_of_account {c d : Connection} (hc : ClosedOnce c)
    (ha : d.account = c.account) : ClosedOnce d := by
  have hf : d.session.finished = c.session.finished := congrArg Account.finished ha
  have hh : d.session.hasClosedHandler = c.session.hasClosedHandler :=
    congrArg Account.hasClosedHandler ha
  have hn : d.closes = c.closes := congrArg Account.closes ha
  exact ⟨by rw [hh, hf, hc.handler], by rw [hn, hf, hc.closes]⟩

@[simp] theorem waitForStreamFrame_account (c : Connection) :
    c.waitForStreamFrame.account = c.account := by
  unfold Connection.waitForStreamFrame
  split
  · rfl
  · rfl

@[simp] theorem writeFrame_account (frame : Option ProviderStreamFrame) (c : Connection) :
    (c.writeFrame frame).account = c.account := by
  unfold Connection.writeFrame
  split
  · exact waitForStreamFrame_account c
  · split
    · exact waitForStreamFrame_account c
    · rfl

section
variable {S : Type} {h : Handlers S} {setup : SessionSetup}

/-- A step without a request leaves the account alone or closes the session, and tells the server. -/
inductive Outcome (h : Handlers S) (x y : Hosted S) : Prop
  | same (hc : y.conn.account = x.conn.account) (hh : y.host = x.host)
  | closed (hf : x.conn.session.finished = false) (hc : y.conn.account = x.conn.account.close)
      (hh : y.host = h.closedHandler x.conn.session.streaming x.host)

theorem Outcome.after {x x' y : Hosted S} (hy : Outcome h x' y)
    (hc : x'.conn.account = x.conn.account) (hh : x'.host = x.host) : Outcome h x y := by
  have hf : x'.conn.session.finished = x.conn.session.finished := congrArg Account.finished hc
  have hs : x'.conn.session.streaming = x.conn.session.streaming := congrArg Account.streaming hc
  cases hy with
  | same hc' hh' => exact .same (hc'.trans hc) (hh'.trans hh)
  | closed hf' hc' hh' =>
    refine .closed (hf ▸ hf') ?_ ?_
    · rw [hc', hc]
    · rw [hh', hs, hh]

theorem Outcome.finished {x y : Hosted S} (ho : Outcome h x y)
    (hx : x.conn.session.finished = true) : y.conn.session.finished = true := by
  cases ho with
  | same hc => exact (congrArg Account.finished hc).trans hx
  | closed hf => rw [hx] at hf; cases hf

theorem cancelSession_outcome {x : Hosted S} (hx : ClosedOnce x.conn) :
    Outcome h x (cancelSession h x) := by
  unfold cancelSession
  split
  · exact .same rfl rfl
  · rename_i hf
    have hf : x.conn.session.finished = false := Bool.not_eq_true _ ▸ hf
    simp only
    rw [if_pos (by simp [Connection.cancelTimer, hx.handler, hf])]
    exact .closed hf rfl rfl

theorem writeLatestStreamFrame_outcome {x : Hosted S} (hx : ClosedOnce x.conn) (frame : Acquired) :
    Outcome h x (writeLatestStreamFrame h frame x) := by
  unfold writeLatestStreamFrame
  split
  · exact .same rfl rfl
  · split
    · exact .same (writeFrame_account _ _) rfl
    · split
      · have hfetch : ClosedOnce (x.update Connection.fetch).conn := closedOnce_of_account hx rfl
        exact (cancelSession_outcome hfetch).after rfl rfl
      · exact .same (writeFrame_account _ _) rfl

theorem notifyStreamFrame_outcome {x : Hosted S} (hx : ClosedOnce x.conn)
    (kind : ProviderStreamKind) (frame : Acquired) :
    Outcome h x (notifyStreamFrame h kind frame x) := by
  unfold notifyStreamFrame
  split
  · exact .same rfl rfl
  · split
    · exact .same rfl rfl
    · have hx' : ClosedOnce (x.update Connection.cancelTimer).conn := closedOnce_of_account hx rfl
      exact (writeLatestStreamFrame_outcome hx' frame).after rfl rfl

theorem handleWritten_outcome {x : Hosted S} (hx : ClosedOnce x.conn) (write : Write)
    (failed : Bool) (frame : Acquired) : Outcome h x (handleWritten h write failed frame x) := by
  have hdone : ClosedOnce (x.update fun c =>
      { c with session := { c.session with writeInProgress := false } }).conn :=
    closedOnce_of_account hx rfl
  unfold handleWritten
  split
  · exact cancelSession_outcome hx
  · unfold handleStreamHeaderWritten
    simp only
    split
    · exact (cancelSession_outcome hdone).after rfl rfl
    · exact (writeLatestStreamFrame_outcome hdone frame).after rfl rfl
  · unfold handleStreamPartWritten
    simp only
    split
    · exact (cancelSession_outcome hdone).after rfl rfl
    · split
      · refine (writeLatestStreamFrame_outcome ?_ frame).after rfl rfl
        exact closedOnce_of_account hx rfl
      · exact .same (waitForStreamFrame_account _) rfl

theorem handleWaited_outcome {x : Hosted S} (hx : ClosedOnce x.conn) (wait : Wait) :
    Outcome h x (handleWaited h wait x) := by
  unfold handleWaited
  split
  · exact cancelSession_outcome hx
  · exact .same rfl rfl

/-- Only a request that is read can open a stream. -/
theorem sessionStep_outcome {x y : Hosted S} {provided : Provided} {e : SessionEvent}
    (hx : ClosedOnce x.conn) (hr : e.isRead = false)
    (he : sessionStep h setup provided x e = some y) : Outcome h x y := by
  cases e with
  | read request => cases hr
  | written write failed =>
    simp only [sessionStep] at he
    split at he
    · cases he
      have hx' : ClosedOnce (x.update fun c => { c with writes := c.writes.erase write }).conn :=
        closedOnce_of_account hx rfl
      exact (handleWritten_outcome hx' write failed _).after rfl rfl
    · cases he
  | expire =>
    cases he
    exact .same rfl rfl
  | waited wait =>
    simp only [sessionStep] at he
    split at he
    · cases he
      have hx' : ClosedOnce (x.update fun c => { c with waits := c.waits.erase wait }).conn :=
        closedOnce_of_account hx rfl
      exact (handleWaited_outcome hx' wait).after rfl rfl
    · cases he
  | notify kind =>
    cases he
    exact notifyStreamFrame_outcome hx kind _
  | cancel =>
    cases he
    exact cancelSession_outcome hx

/-- The kind of stream that a request asks for, when a frame can be sent at once. -/
def requestedStream (setup : SessionSetup) (provided : Provided) (request : HttpRequest) :
    Option ProviderStreamKind :=
  match readAction setup request, provided.frame with
  | .startStream kind, .ok (some frame) =>
    if setup.streamRegistered kind = true ∧ frame.image.isSome = true then some kind else none
  | _, _ => none

/-- A request that is read may take a stream slot besides. -/
inductive ReadOutcome (h : Handlers S) (requested : Option ProviderStreamKind) (x y : Hosted S) :
    Prop
  | other (ho : Outcome h x y)
  | refused (kind : ProviderStreamKind) (hc : y.conn.account = x.conn.account)
      (hh : y.host = (h.streamAdmission kind x.host).2)
      (hno : (h.streamAdmission kind x.host).1 = false)
  | admitted (kind : ProviderStreamKind) (hk : requested = some kind)
      (hc : y.conn.account = x.conn.account.opened kind)
      (hh : y.host = (h.streamAdmission kind x.host).2)
      (hyes : (h.streamAdmission kind x.host).1 = true)

theorem startStream_outcome {x : Hosted S} {kind : ProviderStreamKind} {request : HttpRequest}
    (version : ℕ) (provided : Provided)
    (hkind : readAction setup request = .startStream kind) :
    ReadOutcome h (requestedStream setup provided request) x
      (startStream h setup kind version provided.frame x) := by
  unfold startStream
  split
  · exact .other (.same rfl rfl)
  · rename_i hregistered
    cases hframe : provided.frame with
    | error _ => exact .other (.same rfl rfl)
    | ok frame =>
      simp only
      split
      · exact .other (.same rfl rfl)
      · rename_i initial hinitial
        obtain ⟨rfl, himage⟩ := Option.filter_eq_some_iff.mp hinitial
        split
        · rename_i hyes
          refine .admitted kind ?_ rfl rfl hyes
          simp only [requestedStream, hkind, hframe]
          rw [if_pos ⟨by simpa using hregistered, himage⟩]
        · rename_i hno
          exact .refused kind rfl rfl (Bool.not_eq_true _ ▸ hno)

theorem handleRead_outcome {x : Hosted S} {provided : Provided} (hx : ClosedOnce x.conn)
    (request : Option HttpRequest) :
    ReadOutcome h (request.bind (requestedStream setup provided)) x
      (handleRead h setup request provided x) := by
  unfold handleRead
  cases request with
  | none => exact .other (cancelSession_outcome hx)
  | some request =>
    have hx' : (x.update fun c =>
        if isOriginDenied setup request then c
        else { c with session := { c.session with
          allowedOrigin := request.origin.getD c.session.allowedOrigin } }).conn.account =
        x.conn.account := by
      simp only [Hosted.update]
      split
      · rfl
      · rfl
    simp only [Option.bind_some]
    split
    · exact .other (.same hx' rfl)
    · exact .other (.same hx' rfl)
    · rename_i kind hkind
      cases startStream_outcome (h := h) request.version provided hkind with
      | other ho => exact .other (ho.after hx' rfl)
      | refused k hc hh hno => exact .refused k (hc.trans hx') hh hno
      | admitted k hk hc hh hyes => exact .admitted k hk (by rw [hc, hx']) hh hyes
    · split
      · exact .other (.same hx' rfl)
      · exact .other (.same hx' rfl)

end

end NodusVision.Provider
