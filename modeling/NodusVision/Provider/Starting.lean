import NodusVision.Provider.Server
import NodusVision.Program.Startup

/-! Starting the HTTP server, where a step of the start can throw. -/
namespace NodusVision.Provider
open Storage Program

/-- What `startServer` and `stopServer` write of `ProviderHttpServer::Impl`, the sessions apart. -/
structure ServerObject where
  started : Bool := false
  acceptorOpen : Bool := false
  boundPort : ℕ := 0
  /-- `m_worker` is joinable. -/
  hasWorker : Bool := false

/-- What a call of `startServer` meets. -/
structure ServerAttempt where
  fails : StartFailure → Bool := fun _ => false
  port : ℕ := 0
  threadThrows : Option Exception := none

def StartFailure.exception : StartFailure → Exception
  | .address => .invalidArgument "Provider bind_host is not a valid IP address."
  | .openAcceptor => .runtimeError "Provider acceptor open failed."
  | .option => .runtimeError "Provider acceptor option failed."
  | .bind => .runtimeError "Provider bind failed."
  | .listen => .runtimeError "Provider listen failed."

namespace ServerAttempt

/-- What the step of the start throws. -/
def throws (a : ServerAttempt) (failure : StartFailure) : Option Exception :=
  if a.fails failure then some failure.exception else none

/-- Nothing that the start does after it opened the acceptor throws. -/
def OpenedSucceeds (a : ServerAttempt) : Prop :=
  a.fails .option = false ∧ a.fails .bind = false ∧ a.fails .listen = false ∧ a.threadThrows = none

/-- No step of the start throws. -/
def Succeeds (a : ServerAttempt) : Prop :=
  a.fails .address = false ∧ a.fails .openAcceptor = false ∧ a.OpenedSucceeds

@[simp] theorem throws_eq_none {a : ServerAttempt} {failure : StartFailure} :
    a.throws failure = none ↔ a.fails failure = false := by
  unfold throws
  cases a.fails failure <;> simp

end ServerAttempt

namespace ServerObject
variable (a : ServerAttempt)

/-- An acceptor that is open cannot be opened. -/
def openAcceptor (s : ServerObject) : Except Exception ServerObject :=
  if s.acceptorOpen then .error StartFailure.openAcceptor.exception
  else stageOr (a.throws .openAcceptor) { s with acceptorOpen := true }

def startStages : List (StartStage ServerObject Exception) :=
  [fun s => stageOr (a.throws .address) s,
    fun s => s.openAcceptor a,
    fun s => stageOr (a.throws .option) s,
    fun s => stageOr (a.throws .bind) s,
    fun s => stageOr (a.throws .listen) { s with boundPort := a.port, started := true },
    fun s => stageOr a.threadThrows { s with hasWorker := true }]

def startServer (s : ServerObject) : Except Exception Unit × ServerObject :=
  if s.started then (.ok (), s) else runStages (startStages a) s

/-- `stopServer` has joined the worker; the acceptor was closed on it. -/
def stopServer (s : ServerObject) : ServerObject :=
  if s.started then
    { s with started := false, acceptorOpen := false, boundPort := 0, hasWorker := false }
  else s

/-- Not started, without a worker and with the acceptor closed. -/
def IsIdle (s : ServerObject) : Prop :=
  s.started = false ∧ s.hasWorker = false ∧ s.acceptorOpen = false

def IsRunning (s : ServerObject) : Prop :=
  s.started = true ∧ s.hasWorker = true ∧ s.acceptorOpen = true

end ServerObject

end NodusVision.Provider
