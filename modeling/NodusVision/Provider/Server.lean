import NodusVision.Provider.Accounts

/-! The HTTP server: its counters, the sessions it accepted, and its start and stop. -/
namespace NodusVision.Provider
open Text Recording Transition

/-- Accepted configurations have positive limits. -/
structure ServerSetup where
  maxConnections : ℕ
  maxStreamClients : ℕ
  session : SessionSetup

/-- Members of `ProviderHttpServer::Impl`; `accepts` counts outstanding accept operations. -/
structure ServerImpl where
  acceptorOpen : Bool := false
  accepts : ℕ := 0
  sessions : List ℕ := []
  activeConnections : ℤ := 0
  activeStreamClients : ℤ := 0
  nextSessionId : ℕ := 0
  deriving DecidableEq

namespace ServerImpl

def admitStream (setup : ServerSetup) (m : ServerImpl) : Bool × ServerImpl :=
  if (setup.maxStreamClients : ℤ) ≤ m.activeStreamClients then (false, m)
  else (true, { m with activeStreamClients := m.activeStreamClients + 1 })

def closeSession (sessionId : ℕ) (wasStreaming : Bool) (m : ServerImpl) : ServerImpl :=
  { m with
    sessions := m.sessions.filter (· ≠ sessionId)
    activeConnections :=
      if 0 < m.activeConnections then m.activeConnections - 1 else m.activeConnections
    activeStreamClients :=
      if wasStreaming && decide (0 < m.activeStreamClients) then m.activeStreamClients - 1
      else m.activeStreamClients }

end ServerImpl

/-- The two closures that the session of an id is built with. -/
def sessionHandlers (setup : ServerSetup) (sessionId : ℕ) : Handlers ServerImpl where
  streamAdmission := fun _ m => m.admitStream setup
  closedHandler := fun wasStreaming m => m.closeSession sessionId wasStreaming

/-- An accepted session; `late` if `stopOnIoThread` had run in its server run. -/
structure Slot where
  conn : Connection := {}
  run : ℕ
  late : Bool
  deriving DecidableEq

/-- Where the thread that starts and stops the server stands. -/
inductive Phase where
  | stopped
  | running
  | stopping
  | draining
  deriving DecidableEq

/-- The session of id `n + 1` is at index `n`; `run` counts the server runs. -/
structure Server where
  impl : ServerImpl := {}
  slots : List Slot := []
  phase : Phase := .stopped
  run : ℕ := 0
  deriving DecidableEq

/-- Calls of `startServer` that may fail, in their order. -/
inductive StartFailure where
  | address
  | openAcceptor
  | option
  | bind
  | listen
  deriving DecidableEq

inductive ServerEvent where
  | startServer (failure : Option StartFailure)
  | stopServer
  | stopOnIoThread
  | stopReturns
  | accepted (failed : Bool)
  | session (index : ℕ) (provided : Provided) (event : SessionEvent)
  | sweep (kind : ProviderStreamKind) (frames : ℕ → Acquired)

/-- Notifications and cancellations reach a session through the server only. -/
def SessionEvent.isCompletion : SessionEvent → Bool
  | .notify _ | .cancel => false
  | _ => true

namespace Server

/-- Run a handler of one session on the state it shares with the server. -/
def withSession (s : Server) (index : ℕ)
    (f : Hosted ServerImpl → Option (Hosted ServerImpl)) : Option Server :=
  s.slots[index]?.bind fun slot =>
    (f ⟨slot.conn, s.impl⟩).map fun x =>
      { s with impl := x.host, slots := s.slots.set index { slot with conn := x.conn } }

/-- `weak_ptr::lock` succeeds. -/
def isHeld (s : Server) (sessionId : ℕ) : Bool :=
  s.slots[sessionId - 1]?.any fun slot => slot.conn.isAlive

/-- A session for the socket that was accepted. -/
def acceptSession (s : Server) : Server :=
  { s with
    impl := { s.impl with
      nextSessionId := s.impl.nextSessionId + 1
      activeConnections := s.impl.activeConnections + 1
      sessions := s.impl.sessions ++ [s.impl.nextSessionId + 1] }
    slots := s.slots ++ [{ run := s.run, late := s.phase == .draining }] }

/-- The acceptor and its outstanding operations. -/
def withAcceptor (s : Server) (acceptorOpen : Bool) (accepts : ℕ) : Server :=
  { s with impl := { s.impl with acceptorOpen := acceptorOpen, accepts := accepts } }

/-- Beyond the limit the socket is closed at once. -/
def handleAccept (setup : ServerSetup) (failed : Bool) (s : Server) : Server :=
  let s := s.withAcceptor s.impl.acceptorOpen (s.impl.accepts - 1)
  let s := if failed || decide (setup.maxConnections ≤ s.impl.activeConnections) then s
    else s.acceptSession
  if s.impl.acceptorOpen then s.withAcceptor true (s.impl.accepts + 1) else s

def cancelOne (setup : ServerSetup) (s : Server) (sessionId : ℕ) : Server :=
  (s.withSession (sessionId - 1)
    fun x => some (cancelSession (sessionHandlers setup sessionId) x)).getD s

def clearSessions (s : Server) : Server := { s with impl := { s.impl with sessions := [] } }

def stopOnIoThread (setup : ServerSetup) (s : Server) : Server :=
  let s := s.withAcceptor false s.impl.accepts
  ((s.impl.sessions.filter s.isHeld).foldl (cancelOne setup) s).clearSessions

def notifyOne (setup : ServerSetup) (kind : ProviderStreamKind) (frames : ℕ → Acquired)
    (s : Server) (sessionId : ℕ) : Server :=
  if s.isHeld sessionId then
    (s.withSession (sessionId - 1) fun x =>
      some (notifyStreamFrame (sessionHandlers setup sessionId) kind (frames sessionId) x)).getD s
  else
    { s with impl := { s.impl with sessions := s.impl.sessions.filter (· ≠ sessionId) } }

/-- The sweep is over the sessions there are when it starts. -/
def notifySessions (setup : ServerSetup) (kind : ProviderStreamKind) (frames : ℕ → Acquired)
    (s : Server) : Server :=
  s.impl.sessions.foldl (notifyOne setup kind frames) s

/-- A start that fails after the acceptor was opened leaves it open. -/
def startServer (failure : Option StartFailure) (s : Server) : Server :=
  match failure with
  | some .address => s
  | some .openAcceptor => s
  | some _ =>
    if s.impl.acceptorOpen then s else s.withAcceptor true s.impl.accepts
  | none =>
    if s.impl.acceptorOpen then s
    else
      { s with
        impl := { s.impl with
          acceptorOpen := true
          activeConnections := 0
          activeStreamClients := 0
          accepts := s.impl.accepts + 1 }
        phase := .running
        run := s.run + 1 }

/-- Handlers run while there is a thread that runs the I/O context, or drains it. -/
def step (setup : ServerSetup) (s : Server) : ServerEvent → Option Server
  | .startServer failure =>
    if s.phase = .stopped then some (s.startServer failure)
    else if s.phase = .running then some s
    else none
  | .stopServer =>
    if s.phase = .running then some { s with phase := .stopping }
    else if s.phase = .stopped then some s
    else none
  | .stopOnIoThread =>
    if s.phase = .stopping then some { s.stopOnIoThread setup with phase := .draining } else none
  | .stopReturns =>
    if s.phase = .draining then
      some { s with
        impl := { s.impl with sessions := [], activeConnections := 0, activeStreamClients := 0 }
        phase := .stopped }
    else none
  | .accepted failed =>
    if s.phase ≠ .stopped ∧ 0 < s.impl.accepts then some (s.handleAccept setup failed) else none
  | .session index provided event =>
    if s.phase ≠ .stopped ∧ event.isCompletion = true then
      s.withSession index
        fun x => sessionStep (sessionHandlers setup (index + 1)) setup.session provided x event
    else none
  | .sweep kind frames =>
    if s.phase ≠ .stopped then some (s.notifySessions setup kind frames) else none

end Server

end NodusVision.Provider
