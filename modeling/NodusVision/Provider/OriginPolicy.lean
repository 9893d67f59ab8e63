import NodusVision.Provider.Stages
import NodusVision.Provider.Preview
import NodusVision.Transition.Reach

/-! Which origins the responses of a session name. -/
namespace NodusVision.Provider
open Text Recording Transition

/-- The values of the fields of a name, which is in lower case. -/
def HttpMessage.values (m : HttpMessage) (name : ByteString) : List ByteString :=
  (m.fields.filter fun f => lowercase f.1 == name).map (·.2)

def allowOriginName : ByteString := ascii "access-control-allow-origin"

def HttpMessage.isAccessControlled (m : HttpMessage) : Bool :=
  m.fields.any fun f => (ascii "access-control-").isPrefixOf (lowercase f.1)

namespace HttpMessage
variable {m : HttpMessage} {name other value : ByteString}

theorem values_set (h : lowercase other = name) : (m.set other value).values name = [value] := by
  have hgone : (m.fields.filter fun f => lowercase f.1 != lowercase other).filter
      (fun f => lowercase f.1 == name) = [] := by
    rw [List.filter_filter, List.filter_eq_nil_iff]
    intro f _
    rw [h]
    simp
  unfold HttpMessage.values HttpMessage.set
  rw [List.filter_append, hgone, List.nil_append, List.filter_cons_of_pos (by simpa using h)]
  rfl

theorem values_set_of_ne (h : lowercase other ≠ name) :
    (m.set other value).values name = m.values name := by
  have hkept : (m.fields.filter fun f => lowercase f.1 != lowercase other).filter
      (fun f => lowercase f.1 == name) = m.fields.filter fun f => lowercase f.1 == name := by
    rw [List.filter_filter]
    apply List.filter_congr
    intro f _
    cases hf : lowercase f.1 == name with
    | false => rfl
    | true =>
      rw [beq_iff_eq.mp hf, Bool.true_and, bne_iff_ne]
      exact h.symm
  unfold HttpMessage.values HttpMessage.set
  rw [List.filter_append, hkept, List.filter_cons_of_neg (by simpa using h), List.filter_nil,
    List.append_nil]

theorem values_closeConnection (h : ascii "connection" ≠ name) :
    m.closeConnection.values name = m.values name := by
  unfold HttpMessage.closeConnection
  split
  · unfold HttpMessage.values
    rw [List.filter_filter]
    congr 1
    apply List.filter_congr
    intro f _
    cases hf : lowercase f.1 == name with
    | false => rfl
    | true =>
      rw [beq_iff_eq.mp hf, Bool.true_and, bne_iff_ne]
      exact h.symm
  · apply values_set_of_ne
    exact h

theorem values_setHeaders {headers : HeaderList} (h : ∀ f ∈ headers, lowercase f.1 ≠ name) :
    (headers.foldl (fun m header => m.set header.1 header.2) m).values name = m.values name := by
  induction headers generalizing m with
  | nil => rfl
  | cons header headers ih =>
    rw [List.foldl_cons, ih (fun f hf => h f (List.mem_cons_of_mem header hf)),
      values_set_of_ne (h header List.mem_cons_self)]

end HttpMessage

/-- The value that `setCorsHeaders` sets, if any. -/
def Connection.namedOrigins (c : Connection) : List ByteString :=
  if c.session.allowedOrigin = [] then [] else [c.session.allowedOrigin]

theorem values_setCorsHeaders {c : Connection} {m : HttpMessage} (h : m.values allowOriginName = []) :
    (c.setCorsHeaders m).values allowOriginName = c.namedOrigins := by
  unfold Connection.setCorsHeaders Connection.namedOrigins
  split
  · exact h
  · rw [HttpMessage.values_set_of_ne (by decide), HttpMessage.values_set_of_ne (by decide),
      HttpMessage.values_set (by decide)]

/-- The response of `sendResponse`. -/
def Connection.responseMessage (version : ℕ) (payload : ProviderHttpResponse) (c : Connection) :
    HttpMessage :=
  let m := (({ version, status := payload.status : HttpMessage }.set
    (ascii "Content-Type") payload.contentType).set (ascii "Cache-Control") (ascii "no-store"))
  let m := payload.headers.foldl (fun m header => m.set header.1 header.2) (c.setCorsHeaders m)
  { m.closeConnection with body := payload.body }

theorem sendResponse_eq (version : ℕ) (payload : ProviderHttpResponse) (c : Connection) :
    c.sendResponse version payload = c.asyncWrite (.response (c.responseMessage version payload)) := rfl

/-- No header of the payload takes the place of the one for the origin. -/
def NamesNoOrigin (payload : ProviderHttpResponse) : Prop :=
  ∀ f ∈ payload.headers, lowercase f.1 ≠ allowOriginName

theorem values_responseMessage {version : ℕ} {payload : ProviderHttpResponse} {c : Connection}
    (h : NamesNoOrigin payload) :
    (c.responseMessage version payload).values allowOriginName = c.namedOrigins := by
  have hplain : (({ version, status := payload.status : HttpMessage }.set
      (ascii "Content-Type") payload.contentType).set (ascii "Cache-Control")
        (ascii "no-store")).values allowOriginName = [] := by
    rw [HttpMessage.values_set_of_ne (by decide), HttpMessage.values_set_of_ne (by decide)]
    rfl
  show (HttpMessage.closeConnection _).values allowOriginName = _
  rw [HttpMessage.values_closeConnection (by decide), HttpMessage.values_setHeaders h,
    values_setCorsHeaders hplain]

theorem values_preflight {version : ℕ} {c : Connection} :
    ((((c.setCorsHeaders { version, status := 204 }).set (ascii "Access-Control-Allow-Methods")
      (ascii "GET, POST, OPTIONS")).set (ascii "Access-Control-Allow-Headers")
        (ascii "Accept, Content-Type")).set (ascii "Access-Control-Max-Age")
          (ascii "600")).closeConnection.values allowOriginName = c.namedOrigins := by
  rw [HttpMessage.values_closeConnection (by decide), HttpMessage.values_set_of_ne (by decide),
    HttpMessage.values_set_of_ne (by decide), HttpMessage.values_set_of_ne (by decide),
    values_setCorsHeaders rfl]

theorem values_streamResponse {version : ℕ} {c : Connection} :
    (c.streamResponse version).values allowOriginName = c.namedOrigins := by
  apply values_setCorsHeaders
  rw [HttpMessage.values_set_of_ne (by decide), HttpMessage.values_set_of_ne (by decide),
    HttpMessage.values_set_of_ne (by decide)]
  rfl

/-- The responses and the stream header that were given to the socket. -/
def Connection.messages (c : Connection) : List HttpMessage :=
  c.started.filterMap fun
    | .response m | .header m => some m
    | .part _ _ => none

/-- Every response names the origins that are given. -/
def Connection.Names (origins : List ByteString) (c : Connection) : Prop :=
  ∀ m ∈ c.messages, m.values allowOriginName = origins

theorem messages_asyncWrite_response (c : Connection) (m : HttpMessage) :
    (c.asyncWrite (.response m)).messages = c.messages ++ [m] := by
  unfold Connection.messages Connection.asyncWrite
  rw [List.filterMap_append]
  rfl

theorem messages_openStream (kind : ProviderStreamKind) (version : ℕ) (initial : ProviderStreamFrame)
    (c : Connection) :
    (c.openStream kind version initial).messages = c.messages ++ [c.streamResponse version] := by
  unfold Connection.messages Connection.openStream Connection.asyncWrite
  rw [List.filterMap_append]
  rfl

theorem names_sendResponse {version : ℕ} {payload : ProviderHttpResponse} {c : Connection}
    (h : NamesNoOrigin payload) (hc : c.messages = []) :
    (c.sendResponse version payload).Names c.namedOrigins := by
  intro m hm
  rw [sendResponse_eq, messages_asyncWrite_response, hc, List.nil_append,
    List.mem_singleton] at hm
  rw [hm]
  exact values_responseMessage h

theorem namesNoOrigin_error (status : ℕ) (code message : ByteString) (retryable : Bool) :
    NamesNoOrigin (makeErrorResponse status code message retryable) := by
  intro f hf
  cases hf

section
variable {S : Type} {h : Handlers S} {setup : SessionSetup}

theorem names_startStream {kind : ProviderStreamKind} {version : ℕ} {frame : Acquired} {x : Hosted S}
    (hx : x.conn.messages = []) :
    (startStream h setup kind version frame x).conn.Names x.conn.namedOrigins := by
  unfold startStream
  split
  · exact names_sendResponse (namesNoOrigin_error _ _ _ _) hx
  · dsimp only
    split
    · exact names_sendResponse (c := x.conn.fetch) (namesNoOrigin_error _ _ _ _) hx
    · split
      · exact names_sendResponse (c := x.conn.fetch) (namesNoOrigin_error _ _ _ _) hx
      · split
        · intro m hm
          have hopened := messages_openStream kind version _ x.conn.fetch ▸ hm
          have hnone : x.conn.fetch.messages = [] := hx
          rw [hnone, List.nil_append, List.mem_singleton] at hopened
          rw [hopened]
          exact values_streamResponse
        · exact names_sendResponse (c := x.conn.fetch) (namesNoOrigin_error _ _ _ _) hx

/-- The session after it has looked at the origin of a request. -/
def Connection.readOrigin (setup : SessionSetup) (request : HttpRequest) (c : Connection) : Connection :=
  if isOriginDenied setup request then c
  else { c with session := { c.session with
    allowedOrigin := request.origin.getD c.session.allowedOrigin } }

/-- The origins that a response to the request may name. -/
def namedFor (setup : SessionSetup) (request : HttpRequest) : List ByteString :=
  if isOriginDenied setup request || request.origin.getD [] == [] then [] else [request.origin.getD []]

theorem namedOrigins_readOrigin {request : HttpRequest} {c : Connection}
    (hc : c.session.allowedOrigin = []) :
    (c.readOrigin setup request).namedOrigins = namedFor setup request := by
  unfold Connection.readOrigin Connection.namedOrigins namedFor
  cases hdenied : isOriginDenied setup request with
  | true =>
    simp only [if_true, Bool.true_or]
    exact if_pos hc
  | false =>
    simp only [Bool.false_eq_true, if_false, Bool.false_or, beq_iff_eq, hc]

/-- What the session answers by itself has no headers of its own. -/
theorem readAction_respond {request : HttpRequest} {payload : ProviderHttpResponse}
    (haction : readAction setup request = .respond payload) : NamesNoOrigin payload := by
  have hmethod : NamesNoOrigin methodNotAllowed := namesNoOrigin_error _ _ _ _
  unfold readAction at haction
  split at haction
  · cases haction
    exact namesNoOrigin_error _ _ _ _
  · split at haction
    · split at haction
      · cases haction
        exact namesNoOrigin_error _ _ _ _
      · cases haction
    · split at haction
      · split at haction
        · cases haction
        · cases haction
          exact hmethod
      · dsimp only at haction
        generalize (if (Route.all.find? fun route => route.target == request.target).any Route.isPost
          then HttpMethod.post else .get) = expected at haction
        split at haction
        · cases haction
          exact hmethod
        · split at haction
          · cases haction
          · cases haction
            exact namesNoOrigin_error _ _ _ _

theorem names_handleRead {request : HttpRequest} {provided : Provided} {x : Hosted S}
    (hx : x.conn.messages = []) (horigin : x.conn.session.allowedOrigin = [])
    (hanswer : ∀ payload, provided.answer = .ok payload → NamesNoOrigin payload) :
    (handleRead h setup (some request) provided x).conn.Names (namedFor setup request) := by
  have hmessages : (x.conn.readOrigin setup request).messages = [] := by
    unfold Connection.readOrigin
    split
    · exact hx
    · exact hx
  rw [← @namedOrigins_readOrigin setup request x.conn horigin]
  unfold handleRead
  dsimp only
  split
  · rename_i payload haction
    exact names_sendResponse (readAction_respond haction) hmessages
  · intro m hm
    have hsent := messages_asyncWrite_response (x.conn.readOrigin setup request) _ ▸ hm
    rw [hmessages, List.nil_append, List.mem_singleton] at hsent
    rw [hsent]
    exact values_preflight
  · exact names_startStream (x := ⟨x.conn.readOrigin setup request, x.host⟩) hmessages
  · split
    · rename_i payload hpayload
      exact names_sendResponse (hanswer payload hpayload) hmessages
    · exact names_sendResponse (namesNoOrigin_error _ _ _ _) hmessages

/-- What the events after the read leave as it is. -/
structure Connection.KeepsResponses (a b : Connection) : Prop where
  reading : b.reading = a.reading
  allowedOrigin : b.session.allowedOrigin = a.session.allowedOrigin
  messages : b.messages = a.messages

theorem Connection.KeepsResponses.refl (c : Connection) : c.KeepsResponses c := ⟨rfl, rfl, rfl⟩

theorem keepsResponses_cancelSession (x : Hosted S) :
    x.conn.KeepsResponses (cancelSession h x).conn := by
  obtain ⟨_, _, _, hcancelled⟩ := cancelSession_conn (h := h) x
  rw [hcancelled]
  exact ⟨rfl, rfl, rfl⟩

theorem keepsResponses_writeFrame (frame : Option ProviderStreamFrame) (c : Connection) :
    c.KeepsResponses (c.writeFrame frame) := by
  have hwait : c.KeepsResponses c.waitForStreamFrame := by
    unfold Connection.waitForStreamFrame
    split
    · exact .refl c
    · exact ⟨rfl, rfl, rfl⟩
  unfold Connection.writeFrame
  split
  · exact hwait
  · split
    · exact hwait
    · refine ⟨rfl, rfl, ?_⟩
      unfold Connection.messages Connection.asyncWrite
      rw [List.filterMap_append]
      exact List.append_nil _

/-- Only the origin, the read and the writes of a session count. -/
theorem Connection.KeepsResponses.of_eq {a b c : Connection} (h : b.KeepsResponses c)
    (hreading : b.reading = a.reading)
    (hsession : b.session.allowedOrigin = a.session.allowedOrigin)
    (hstarted : b.started = a.started) : a.KeepsResponses c := by
  have hmessages : b.messages = a.messages := by
    unfold Connection.messages
    rw [hstarted]
  exact ⟨h.reading.trans hreading, h.allowedOrigin.trans hsession, h.messages.trans hmessages⟩

theorem keepsResponses_writeLatest (frame : Acquired) (x : Hosted S) :
    x.conn.KeepsResponses (writeLatestStreamFrame h frame x).conn := by
  unfold writeLatestStreamFrame
  split
  · exact .refl x.conn
  · split
    · rename_i initial _
      exact (keepsResponses_writeFrame (some initial)
        { x.conn with session := { x.conn.session with initialStreamFrame := none } }).of_eq rfl rfl rfl
    · split
      · exact (keepsResponses_cancelSession (x.update Connection.fetch)).of_eq rfl rfl rfl
      · rename_i frame
        exact (keepsResponses_writeFrame frame x.conn.fetch).of_eq rfl rfl rfl

theorem keepsResponses_handleWritten (write : Write) (failed : Bool) (frame : Acquired) (x : Hosted S) :
    x.conn.KeepsResponses (handleWritten h write failed frame x).conn := by
  cases write with
  | response m => exact keepsResponses_cancelSession x
  | header m =>
    unfold handleWritten handleStreamHeaderWritten
    dsimp only
    split
    · exact (keepsResponses_cancelSession _).of_eq rfl rfl rfl
    · exact (keepsResponses_writeLatest frame _).of_eq rfl rfl rfl
  | part identity bytes =>
    unfold handleWritten handleStreamPartWritten
    dsimp only
    split
    · exact (keepsResponses_cancelSession _).of_eq rfl rfl rfl
    · split
      · exact (keepsResponses_writeLatest frame _).of_eq rfl rfl rfl
      · show x.conn.KeepsResponses (Connection.waitForStreamFrame _)
        unfold Connection.waitForStreamFrame
        split
        · exact ⟨rfl, rfl, rfl⟩
        · exact ⟨rfl, rfl, rfl⟩

theorem keepsResponses_step {provided : Provided} {x y : Hosted S} {event : SessionEvent}
    (hevent : event.isRead = false) (hy : sessionStep h setup provided x event = some y) :
    x.conn.KeepsResponses y.conn := by
  cases event with
  | read request => cases hevent
  | written write failed =>
    simp only [sessionStep] at hy
    split at hy
    · cases hy
      exact (keepsResponses_handleWritten write failed provided.frame _).of_eq rfl rfl rfl
    · cases hy
  | expire =>
    cases hy
    exact ⟨rfl, rfl, rfl⟩
  | waited wait =>
    simp only [sessionStep] at hy
    split at hy
    · cases hy
      unfold handleWaited
      split
      · exact (keepsResponses_cancelSession _).of_eq rfl rfl rfl
      · exact ⟨rfl, rfl, rfl⟩
    · cases hy
  | notify kind =>
    cases hy
    unfold notifyStreamFrame
    split
    · exact .refl x.conn
    · split
      · exact ⟨rfl, rfl, rfl⟩
      · exact (keepsResponses_writeLatest provided.frame _).of_eq rfl rfl rfl
  | cancel =>
    cases hy
    exact keepsResponses_cancelSession x

/-- The session made this response and nothing else. -/
structure Connection.Responds (m : HttpMessage) (c : Connection) : Prop where
  started : c.started = [.response m]
  fetches : c.fetches = 0
  streaming : c.session.streaming = false
  writes : ∀ write ∈ c.writes, write = .response m

theorem Connection.Responds.of_eq {m : HttpMessage} {a b : Connection} (ha : a.Responds m)
    (hstarted : b.started = a.started) (hfetches : b.fetches = a.fetches)
    (hstreaming : b.session.streaming = a.session.streaming) (hwrites : ∀ w ∈ b.writes, w ∈ a.writes) :
    b.Responds m :=
  ⟨hstarted.trans ha.started, hfetches.trans ha.fetches, hstreaming.trans ha.streaming,
    fun w hw => ha.writes w (hwrites w hw)⟩

theorem responds_cancelSession {m : HttpMessage} {x : Hosted S} (hx : x.conn.Responds m) :
    (cancelSession h x).conn.Responds m := by
  obtain ⟨_, _, _, hcancelled⟩ := cancelSession_conn (h := h) x
  rw [hcancelled]
  exact hx.of_eq rfl rfl rfl fun _ => id

theorem responds_step {m : HttpMessage} {provided : Provided} {x y : Hosted S} {event : SessionEvent}
    (hevent : event.isRead = false) (hx : x.conn.Responds m)
    (hy : sessionStep h setup provided x event = some y) : y.conn.Responds m := by
  cases event with
  | read request => cases hevent
  | written write failed =>
    simp only [sessionStep] at hy
    split at hy
    · rename_i hwrite
      cases hy
      have hleft : Connection.Responds m { x.conn with writes := x.conn.writes.erase write } :=
        hx.of_eq rfl rfl rfl fun w hw => List.mem_of_mem_erase hw
      rw [hx.writes write hwrite] at hleft ⊢
      exact responds_cancelSession hleft
    · cases hy
  | expire =>
    cases hy
    exact hx.of_eq rfl rfl rfl fun _ => id
  | waited wait =>
    simp only [sessionStep] at hy
    split at hy
    · cases hy
      have hleft : Connection.Responds m { x.conn with waits := x.conn.waits.erase wait } :=
        hx.of_eq rfl rfl rfl fun _ => id
      unfold handleWaited
      split
      · exact responds_cancelSession hleft
      · exact hleft
    · cases hy
  | notify kind =>
    cases hy
    unfold notifyStreamFrame
    rw [hx.streaming, Bool.not_false, Bool.or_true, Bool.true_or, if_pos rfl]
    exact hx
  | cancel =>
    cases hy
    exact responds_cancelSession hx

/-- Nothing has been started before the request is read. -/
structure Connection.Fresh (c : Connection) : Prop where
  started : c.started = []
  writes : c.writes = []
  fetches : c.fetches = 0
  streaming : c.session.streaming = false

theorem fresh_cancelSession {x : Hosted S} (hx : x.conn.Fresh) : (cancelSession h x).conn.Fresh := by
  obtain ⟨_, _, _, hcancelled⟩ := cancelSession_conn (h := h) x
  rw [hcancelled]
  exact ⟨hx.started, hx.writes, hx.fetches, hx.streaming⟩

theorem fresh_step {provided : Provided} {x y : Hosted S} {event : SessionEvent}
    (hevent : event.isRead = false) (hx : x.conn.Fresh)
    (hy : sessionStep h setup provided x event = some y) : y.conn.Fresh := by
  cases event with
  | read request => cases hevent
  | written write failed =>
    simp only [sessionStep, hx.writes, List.not_mem_nil, if_false] at hy
    cases hy
  | expire =>
    cases hy
    exact ⟨hx.started, hx.writes, hx.fetches, hx.streaming⟩
  | waited wait =>
    simp only [sessionStep] at hy
    split at hy
    · cases hy
      have hleft : Connection.Fresh { x.conn with waits := x.conn.waits.erase wait } :=
        ⟨hx.started, hx.writes, hx.fetches, hx.streaming⟩
      unfold handleWaited
      split
      · exact fresh_cancelSession hleft
      · exact hleft
    · cases hy
  | notify kind =>
    cases hy
    unfold notifyStreamFrame
    rw [hx.streaming, Bool.not_false, Bool.or_true, Bool.true_or, if_pos rfl]
    exact hx
  | cancel =>
    cases hy
    exact fresh_cancelSession hx

theorem responds_sendResponse {c : Connection} (hc : c.Fresh) (version : ℕ)
    (payload : ProviderHttpResponse) :
    (c.sendResponse version payload).Responds (c.responseMessage version payload) := by
  rw [sendResponse_eq]
  constructor
  · show c.started ++ [_] = _
    rw [hc.started, List.nil_append]
  · exact hc.fetches
  · exact hc.streaming
  · show ∀ write ∈ c.writes ++ [_], _
    rw [hc.writes, List.nil_append]
    intro write hwrite
    exact List.mem_singleton.mp hwrite

theorem responseMessage_of_none {c : Connection} (hc : c.session.allowedOrigin = []) (version : ℕ)
    (payload : ProviderHttpResponse) :
    c.responseMessage version payload = ({} : Connection).responseMessage version payload := by
  have hplain (m : HttpMessage) : c.setCorsHeaders m = ({} : Connection).setCorsHeaders m := by
    unfold Connection.setCorsHeaders
    rw [if_pos hc]
    rfl
  unfold Connection.responseMessage
  simp only [hplain]

theorem uncontrolled_set {m : HttpMessage} {name value : ByteString}
    (h : (ascii "access-control-").isPrefixOf (lowercase name) = false)
    (hm : m.isAccessControlled = false) : (m.set name value).isAccessControlled = false := by
  unfold HttpMessage.isAccessControlled HttpMessage.set at *
  rw [List.any_eq_false] at hm ⊢
  intro f hf
  rcases List.mem_append.mp hf with hf | hf
  · exact hm f (List.mem_of_mem_filter hf)
  · rw [List.mem_singleton.mp hf, h]
    exact Bool.false_ne_true

theorem uncontrolled_closeConnection {m : HttpMessage} (hm : m.isAccessControlled = false) :
    m.closeConnection.isAccessControlled = false := by
  unfold HttpMessage.closeConnection
  split
  · unfold HttpMessage.isAccessControlled at *
    rw [List.any_eq_false] at hm ⊢
    intro f hf
    exact hm f (List.mem_of_mem_filter hf)
  · exact uncontrolled_set (by decide) hm

def originDenied : ProviderHttpResponse :=
  makeErrorResponse 403 (ascii "cors_origin_denied") (ascii "Browser origin is not allowed.") false

/-- The answer to a request from an origin that is not allowed. -/
def deniedResponse (version : ℕ) : HttpMessage := ({} : Connection).responseMessage version originDenied

theorem deniedResponse_plain (version : ℕ) :
    (deniedResponse version).status = 403 ∧ (deniedResponse version).isAccessControlled = false := by
  constructor
  · unfold deniedResponse Connection.responseMessage HttpMessage.closeConnection
    dsimp only
    split
    · rfl
    · rfl
  · show (HttpMessage.closeConnection _).isAccessControlled = false
    apply uncontrolled_closeConnection
    apply uncontrolled_set (by decide)
    apply uncontrolled_set (by decide)
    rfl

theorem readAction_denied {request : HttpRequest} (hdenied : isOriginDenied setup request = true) :
    readAction setup request = .respond originDenied := by
  unfold readAction
  rw [if_pos hdenied]
  rfl

theorem handleRead_respond {request : HttpRequest} {payload : ProviderHttpResponse} {x : Hosted S}
    (provided : Provided) (haction : readAction setup request = .respond payload) :
    handleRead h setup (some request) provided x =
      x.update fun c => (c.readOrigin setup request).sendResponse request.version payload := by
  unfold handleRead
  dsimp only
  rw [haction]
  rfl

/-- A denied request is answered without a look at the application or the state of the server. -/
theorem handleRead_denied {request : HttpRequest} {x : Hosted S} (provided : Provided)
    (hx : x.conn.session.allowedOrigin = []) (hdenied : isOriginDenied setup request = true) :
    handleRead h setup (some request) provided x =
      x.update fun c => c.asyncWrite (.response (deniedResponse request.version)) := by
  have hsame : x.conn.readOrigin setup request = x.conn := if_pos hdenied
  rw [handleRead_respond provided (readAction_denied hdenied)]
  unfold Hosted.update
  dsimp only
  rw [hsame, sendResponse_eq, responseMessage_of_none hx]
  rfl

theorem responds_handleRead {request : HttpRequest} {payload : ProviderHttpResponse} {x : Hosted S}
    (provided : Provided) (hx : x.conn.Fresh) (haction : readAction setup request = .respond payload) :
    (handleRead h setup (some request) provided x).conn.Responds
      ((x.conn.readOrigin setup request).responseMessage request.version payload) := by
  have hfresh : (x.conn.readOrigin setup request).Fresh := by
    unfold Connection.readOrigin
    split
    · exact hx
    · exact ⟨hx.started, hx.writes, hx.fetches, hx.streaming⟩
  have hresponds := responds_sendResponse hfresh request.version payload
  rw [handleRead_respond provided haction]
  exact hresponds

theorem startStream_reading (kind : ProviderStreamKind) (version : ℕ) (frame : Acquired) (x : Hosted S) :
    (startStream h setup kind version frame x).conn.reading = x.conn.reading := by
  unfold startStream
  split
  · rfl
  · dsimp only
    split
    · rfl
    · split
      · rfl
      · split
        · rfl
        · rfl

theorem handleRead_reading (request : HttpRequest) (provided : Provided) (x : Hosted S) :
    (handleRead h setup (some request) provided x).conn.reading = x.conn.reading := by
  have horigin : (x.conn.readOrigin setup request).reading = x.conn.reading := by
    unfold Connection.readOrigin
    split
    · rfl
    · rfl
  unfold handleRead
  dsimp only
  split
  · exact horigin
  · exact horigin
  · exact (startStream_reading _ _ _ ⟨x.conn.readOrigin setup request, x.host⟩).trans horigin
  · split
    · exact horigin
    · exact horigin

end

end NodusVision.Provider
