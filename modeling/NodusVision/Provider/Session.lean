import NodusVision.Provider.Contracts

/-! One HTTP session and its asynchronous operations. The handlers given by the server act on a
state of the server that the session does not see. -/
namespace NodusVision.Provider
open Text Recording

inductive HttpMethod where
  | get
  | post
  | options
  | other
  deriving DecidableEq

/-- The parts of a parsed request that `handleRead` consults. -/
structure HttpRequest where
  method : HttpMethod
  target : ByteString
  version : ℕ
  origin : Option ByteString
  body : ByteString
  deriving DecidableEq

/-- A response given to `async_write`; `prepare_payload` adds the length of the body. -/
structure HttpMessage where
  version : ℕ
  status : ℕ
  fields : HeaderList := []
  body : ByteString := []
  deriving DecidableEq

def lowercase (name : ByteString) : ByteString :=
  name.map fun b => if 65 ≤ b && b ≤ 90 then b + 32 else b

/-- `http::fields::set` replaces the fields of the same name. -/
def HttpMessage.set (m : HttpMessage) (name value : ByteString) : HttpMessage :=
  { m with fields := m.fields.filter (fun f => lowercase f.1 != lowercase name) ++ [(name, value)] }

/-- `keep_alive(false)` -/
def HttpMessage.closeConnection (m : HttpMessage) : HttpMessage :=
  if m.version < 11 then
    { m with fields := m.fields.filter fun f => lowercase f.1 != ascii "connection" }
  else m.set (ascii "Connection") (ascii "close")

inductive Route where
  | roiDepth
  | pixelPoint
  | recordingStart
  | recordingStop
  | recordingCurrent
  | health
  | metadata
  | colorSnapshot
  | depthSnapshot
  | pointcloudSnapshot
  deriving DecidableEq

namespace Route

def all : List Route :=
  [roiDepth, pixelPoint, recordingStart, recordingStop, recordingCurrent, health, metadata,
    colorSnapshot, depthSnapshot, pointcloudSnapshot]

def target : Route → ByteString
  | roiDepth => ascii "/query/roi_depth"
  | pixelPoint => ascii "/query/pixel_to_point"
  | recordingStart => ascii "/recordings/start"
  | recordingStop => ascii "/recordings/stop"
  | recordingCurrent => ascii "/recordings/current"
  | health => ascii "/health"
  | metadata => ascii "/metadata"
  | colorSnapshot => ascii "/snapshot/color"
  | depthSnapshot => ascii "/snapshot/depth"
  | pointcloudSnapshot => ascii "/snapshot/pointcloud.bin"

def isPost : Route → Bool
  | roiDepth | pixelPoint | recordingStart | recordingStop => true
  | _ => false

end Route

/-- The origins, the callbacks and the limits of a request that the server was built with. -/
structure SessionSetup where
  allowedOrigins : List ByteString
  registered : Route → Bool
  streamRegistered : ProviderStreamKind → Bool
  maxHeaderBytes : ℕ
  maxBodyBytes : ℕ

def streamTarget (target : ByteString) : Option ProviderStreamKind :=
  if target = ascii "/stream/color.mjpg" then some .color
  else if target = ascii "/stream/depth.mjpg" then some .depth
  else none

inductive ReadAction where
  | respond (payload : ProviderHttpResponse)
  | preflight
  | startStream (kind : ProviderStreamKind)
  | callRoute (route : Route)
  deriving DecidableEq

def methodNotAllowed : ProviderHttpResponse :=
  makeErrorResponse 405 (ascii "method_not_allowed") (ascii "Method is not allowed.") false

def isOriginDenied (setup : SessionSetup) (request : HttpRequest) : Bool :=
  request.origin.any fun origin => !setup.allowedOrigins.contains origin

/-- The branches of `handleRead` for a request that was read. -/
def readAction (setup : SessionSetup) (request : HttpRequest) : ReadAction :=
  if isOriginDenied setup request then
    .respond (makeErrorResponse 403 (ascii "cors_origin_denied")
      (ascii "Browser origin is not allowed.") false)
  else if request.method = .options then
    if request.origin.getD [] = [] then
      .respond (makeErrorResponse 403 (ascii "cors_origin_required")
        (ascii "Browser preflight origin is required.") false)
    else .preflight
  else
    match streamTarget request.target with
    | some kind => if request.method = .get then .startStream kind else .respond methodNotAllowed
    | none =>
      let route := Route.all.find? fun route => route.target == request.target
      let expected := if route.any Route.isPost then HttpMethod.post else .get
      if request.method ≠ expected then .respond methodNotAllowed
      else
        match route.filter setup.registered with
        | some route => .callRoute route
        | none => .respond (makeErrorResponse 404 (ascii "route_not_found")
            (ascii "Route is not available.") false)

/-- The operations whose handlers start a write. -/
inductive Write where
  | response (message : HttpMessage)
  | header (message : HttpMessage)
  | part (identity : FrameIdentity) (bytes : ByteString)
  deriving DecidableEq

/-- A wait on the idle timer. Cancelling the timer does not reach a wait that has expired. -/
inductive Wait where
  | armed
  | expired
  | cancelled
  deriving DecidableEq

def Wait.cancel : Wait → Wait
  | .armed => .cancelled
  | w => w

def Wait.expire : Wait → Wait
  | .armed => .expired
  | w => w

structure HttpSession where
  allowedOrigin : ByteString := []
  hasClosedHandler : Bool := true
  streamKind : ProviderStreamKind := .color
  streaming : Bool := false
  finished : Bool := false
  writeInProgress : Bool := false
  refreshPending : Bool := false
  hasSentFrame : Bool := false
  lastSentIdentity : FrameIdentity := {}
  initialStreamFrame : Option ProviderStreamFrame := none
  pendingStreamFrame : Option ProviderStreamFrame := none
  pendingPart : Option ByteString := none
  deriving DecidableEq

/-- A session, its outstanding operations, and a record of what it did that no handler reads. -/
structure Connection where
  session : HttpSession := {}
  reading : Bool := true
  writes : List Write := []
  waits : List Wait := []
  started : List Write := []
  fetches : ℕ := 0
  closes : ℕ := 0
  deriving DecidableEq

namespace Connection

/-- Some operation will run a handler, which holds the session. -/
def isAlive (c : Connection) : Bool := c.reading || !c.writes.isEmpty || !c.waits.isEmpty

def asyncWrite (c : Connection) (w : Write) : Connection :=
  { c with writes := c.writes ++ [w], started := c.started ++ [w] }

def cancelTimer (c : Connection) : Connection := { c with waits := c.waits.map Wait.cancel }

def fetch (c : Connection) : Connection := { c with fetches := c.fetches + 1 }

def setCorsHeaders (c : Connection) (m : HttpMessage) : HttpMessage :=
  if c.session.allowedOrigin = [] then m
  else
    ((m.set (ascii "Access-Control-Allow-Origin") c.session.allowedOrigin).set
      (ascii "Vary") (ascii "Origin")).set (ascii "Access-Control-Expose-Headers")
      (ascii ("X-Nodus-Capture-Generation, X-Nodus-Frame-Number, " ++
        "X-Nodus-Capture-Timestamp-Ns, X-Nodus-Capture-Unix-Epoch-Ns, " ++
        "X-Nodus-Sensor-Frame, X-Nodus-Mount-Frame, X-Nodus-Calibration-Id"))

def sendResponse (version : ℕ) (payload : ProviderHttpResponse) (c : Connection) : Connection :=
  let m := (({ version, status := payload.status : HttpMessage }.set
    (ascii "Content-Type") payload.contentType).set (ascii "Cache-Control") (ascii "no-store"))
  let m := payload.headers.foldl (fun m header => m.set header.1 header.2) (c.setCorsHeaders m)
  c.asyncWrite (.response { m.closeConnection with body := payload.body })

def sendPreflightResponse (version : ℕ) (c : Connection) : Connection :=
  let m := c.setCorsHeaders { version, status := 204 }
  let m := m.set (ascii "Access-Control-Allow-Methods") (ascii "GET, POST, OPTIONS")
  let m := m.set (ascii "Access-Control-Allow-Headers") (ascii "Accept, Content-Type")
  let m := m.set (ascii "Access-Control-Max-Age") (ascii "600")
  c.asyncWrite (.response m.closeConnection)

/-- Rearming the timer cancels the waits that are still armed. -/
def waitForStreamFrame (c : Connection) : Connection :=
  if c.session.finished then c
  else { c.cancelTimer with waits := c.cancelTimer.waits ++ [.armed] }

/-- The end of `writeLatestStreamFrame`, with the frame it took. -/
def writeFrame (frame : Option ProviderStreamFrame) (c : Connection) : Connection :=
  match frame.bind fun frame => frame.image.map fun jpeg => (frame, jpeg) with
  | none => c.waitForStreamFrame
  | some (frame, jpeg) =>
    if c.session.hasSentFrame && !isNewerIdentity frame.identity c.session.lastSentIdentity then
      c.waitForStreamFrame
    else
      { c with session := { c.session with
          pendingStreamFrame := some frame
          pendingPart := some (buildMjpegPart frame jpeg)
          writeInProgress := true
          refreshPending := false } }.asyncWrite
        (.part frame.identity (buildMjpegPart frame jpeg))

end Connection

/-- `m_stream_admission` and `m_closed_handler`, over the state of the server. -/
structure Handlers (S : Type) where
  streamAdmission : ProviderStreamKind → S → Bool × S
  closedHandler : Bool → S → S

/-- A connection beside the state of its server. -/
structure Hosted (S : Type) where
  conn : Connection
  host : S

/-- What the callbacks of the application answer, should a handler call them. -/
structure Provided where
  frame : Acquired
  answer : Except Unit ProviderHttpResponse

section
variable {S : Type} (h : Handlers S) (setup : SessionSetup)

def Hosted.update (f : Connection → Connection) (x : Hosted S) : Hosted S :=
  { x with conn := f x.conn }

def cancelSession (x : Hosted S) : Hosted S :=
  if x.conn.session.finished then x
  else
    let c := { x.conn with session := { x.conn.session with finished := true } }.cancelTimer
    if c.session.hasClosedHandler then
      { conn := { c with session := { c.session with hasClosedHandler := false }
                         closes := c.closes + 1 }
        host := h.closedHandler c.session.streaming x.host }
    else { x with conn := c }

def writeLatestStreamFrame (frame : Acquired) (x : Hosted S) : Hosted S :=
  if x.conn.session.finished || x.conn.session.writeInProgress then x
  else
    match x.conn.session.initialStreamFrame with
    | some initial =>
      x.update fun c => Connection.writeFrame (some initial)
        { c with session := { c.session with initialStreamFrame := none } }
    | none =>
      match frame with
      | .error _ => cancelSession h (x.update Connection.fetch)
      | .ok frame => x.update fun c => c.fetch.writeFrame frame

def notifyStreamFrame (kind : ProviderStreamKind) (frame : Acquired) (x : Hosted S) : Hosted S :=
  if x.conn.session.finished || !x.conn.session.streaming ||
      kind != x.conn.session.streamKind then x
  else if x.conn.session.writeInProgress then
    x.update fun c => { c with session := { c.session with refreshPending := true } }
  else writeLatestStreamFrame h frame (x.update Connection.cancelTimer)

def handleStreamHeaderWritten (failed : Bool) (frame : Acquired) (x : Hosted S) : Hosted S :=
  let x := x.update fun c => { c with session := { c.session with writeInProgress := false } }
  if failed || x.conn.session.finished then cancelSession h x
  else writeLatestStreamFrame h frame x

/-- A part whose write succeeded is the last sent. -/
def Connection.partSent (c : Connection) : Connection :=
  { c with session := { c.session with
      lastSentIdentity :=
        (c.session.pendingStreamFrame.map ProviderStreamFrame.identity).getD
          c.session.lastSentIdentity
      hasSentFrame := true
      pendingStreamFrame := none
      pendingPart := none } }

def handleStreamPartWritten (failed : Bool) (frame : Acquired) (x : Hosted S) : Hosted S :=
  let x := x.update fun c => { c with session := { c.session with writeInProgress := false } }
  if failed || x.conn.session.finished then cancelSession h x
  else if x.conn.session.refreshPending then
    writeLatestStreamFrame h frame (x.update fun c =>
      { c.partSent with session := { c.partSent.session with refreshPending := false } })
  else x.update fun c => c.partSent.waitForStreamFrame

/-- `m_p_stream_response` -/
def Connection.streamResponse (version : ℕ) (c : Connection) : HttpMessage :=
  let m := { version, status := 200 : HttpMessage }.set (ascii "Content-Type")
    (ascii "multipart/x-mixed-replace; boundary=" ++ mjpegBoundary)
  let m := m.set (ascii "Cache-Control") (ascii "no-store")
  c.setCorsHeaders (m.set (ascii "Connection") (ascii "close"))

/-- The end of `startStream`, for a client that is served. -/
def Connection.openStream (kind : ProviderStreamKind) (version : ℕ) (initial : ProviderStreamFrame)
    (c : Connection) : Connection :=
  { c with session := { c.session with
      streaming := true
      streamKind := kind
      initialStreamFrame := some initial
      writeInProgress := true } }.asyncWrite (.header (c.streamResponse version))

def startStream (kind : ProviderStreamKind) (version : ℕ) (frame : Acquired) (x : Hosted S) :
    Hosted S :=
  if setup.streamRegistered kind = false then
    x.update (Connection.sendResponse version
      (makeErrorResponse 409 (ascii "stream_disabled") (ascii "Stream is disabled.") false))
  else
    let x := x.update Connection.fetch
    match frame with
    | .error _ =>
      x.update (Connection.sendResponse version
        (makeErrorResponse 500 (ascii "provider_failure") (ascii "Provider stream failed.") true))
    | .ok frame =>
      match frame.filter fun frame => frame.image.isSome with
      | none =>
        x.update (Connection.sendResponse version
          (makeErrorResponse 503 (ascii "no_fresh_frame")
            (ascii "No captured frame is available.") true))
      | some initial =>
        let admitted := h.streamAdmission kind x.host
        let x := { x with host := admitted.2 }
        if admitted.1 then x.update (Connection.openStream kind version initial)
        else
          x.update (Connection.sendResponse version
            (makeErrorResponse 429 (ascii "stream_limit_reached")
              (ascii "Stream client limit is reached.") true))

/-- A failed read has no request. -/
def handleRead (request : Option HttpRequest) (provided : Provided) (x : Hosted S) : Hosted S :=
  match request with
  | none => cancelSession h x
  | some request =>
    let x := x.update fun c =>
      if isOriginDenied setup request then c
      else { c with session := { c.session with
        allowedOrigin := request.origin.getD c.session.allowedOrigin } }
    match readAction setup request with
    | .respond payload => x.update (Connection.sendResponse request.version payload)
    | .preflight => x.update (Connection.sendPreflightResponse request.version)
    | .startStream kind => startStream h setup kind request.version provided.frame x
    | .callRoute _ =>
      match provided.answer with
      | .ok payload => x.update (Connection.sendResponse request.version payload)
      | .error _ =>
        x.update (Connection.sendResponse request.version
          (makeErrorResponse 500 (ascii "provider_failure")
            (ascii "Provider request failed.") true))

inductive SessionEvent where
  | read (request : Option HttpRequest)
  | written (write : Write) (failed : Bool)
  | expire
  | waited (wait : Wait)
  | notify (kind : ProviderStreamKind)
  | cancel

def SessionEvent.isRead : SessionEvent → Bool
  | read _ => true
  | _ => false

/-- The handler of a write, once the write is no longer outstanding. -/
def handleWritten (write : Write) (failed : Bool) (frame : Acquired) (x : Hosted S) : Hosted S :=
  match write with
  | .response _ => cancelSession h x
  | .header _ => handleStreamHeaderWritten h failed frame x
  | .part _ _ => handleStreamPartWritten h failed frame x

/-- The handler of a wait on the idle timer. -/
def handleWaited (wait : Wait) (x : Hosted S) : Hosted S :=
  if wait = .expired then cancelSession h x else x

/-- An event is enabled when its operation is outstanding. -/
def sessionStep (provided : Provided) (x : Hosted S) : SessionEvent → Option (Hosted S)
  | .read request =>
    if x.conn.reading then
      some (handleRead h setup request provided (x.update fun c => { c with reading := false }))
    else none
  | .written write failed =>
    if write ∈ x.conn.writes then
      some (handleWritten h write failed provided.frame
        (x.update fun c => { c with writes := c.writes.erase write }))
    else none
  | .expire => some (x.update fun c => { c with waits := c.waits.map Wait.expire })
  | .waited wait =>
    if wait ∈ x.conn.waits ∧ wait ≠ .armed then
      some (handleWaited h wait (x.update fun c => { c with waits := c.waits.erase wait }))
    else none
  | .notify kind => some (notifyStreamFrame h kind provided.frame x)
  | .cancel => some (cancelSession h x)

end

end NodusVision.Provider
