import NodusVision.Pilot.Client
import NodusVision.Program.Startup

/-! Starting the Pilot client, where a step of the start can throw. -/
namespace NodusVision.Pilot
open Text Storage Program

/-- What `startClient` and `stopClient` write of `PilotIntegrationClient::Impl`. -/
structure ClientObject where
  started : Bool := false
  currentState : ProviderState := .starting
  pendingState : Option ProviderState := none
  /-- As a start leaves it. -/
  snapshot : PilotIntegrationSnapshot := {}
  catalog : Option VisionEndpointCatalog := none
  identity : ClientIdentity := ⟨[], 0⟩
  stopRequested : Bool := false
  hasTransport : Bool := false
  /-- `m_worker` is joinable. -/
  hasWorker : Bool := false

/-- What a call of `startClient` meets. -/
structure ClientAttempt where
  initialState : ProviderState := .starting
  catalogThrows : Option Exception := none
  /-- The injected generator or the random device throws. -/
  generatorThrows : Option Exception := none
  injectedId : Option ByteString := none
  randomBytes : List UInt8 := []
  startedAtNs : ℕ := 0
  transportThrows : Option Exception := none
  threadThrows : Option Exception := none

namespace ClientAttempt

def instanceId (a : ClientAttempt) : Except Exception ByteString :=
  match a.generatorThrows with
  | some e => .error e
  | none => generateInstanceId a.injectedId a.randomBytes

/-- No step of the start throws. -/
def Succeeds (a : ClientAttempt) : Prop :=
  a.catalogThrows = none ∧ Program.Succeeds a.instanceId ∧ a.transportThrows = none ∧
    a.threadThrows = none

end ClientAttempt

namespace ClientObject
variable (setup : ClientSetup) (a : ClientAttempt)

def withTransport (c : ClientObject) : ClientObject := { c with hasTransport := true }

def withWorker (c : ClientObject) : ClientObject := { c with hasWorker := true }

/-- The steps of `startClient` with the integration enabled. -/
def startStages : List (StartStage ClientObject Exception) :=
  [fun c => stageOr a.catalogThrows { c with catalog := some setup.catalog },
    fun c => a.instanceId.map fun instanceId =>
      { c with identity := ⟨instanceId, a.startedAtNs⟩, stopRequested := false },
    fun c => stageOr a.transportThrows c.withTransport,
    fun c => stageOr a.threadThrows c.withWorker]

/-- What `startClient` writes before its first step that can throw. -/
def begin (c : ClientObject) : ClientObject :=
  { c with
    started := true
    currentState := a.initialState
    pendingState := none
    snapshot := { enabled := setup.config.pilot.enabled, state := .disabled } }

def startClient (c : ClientObject) : Except Exception Unit × ClientObject :=
  if c.started then (.ok (), c)
  else if setup.config.pilot.enabled then runStages (startStages setup a) (c.begin setup a)
  else (.ok (), c.begin setup a)

/-- `stopClient` has joined the worker, if there is one. -/
def stopClient (c : ClientObject) : ClientObject :=
  if c.started then
    { c with stopRequested := true, hasTransport := false, hasWorker := false, started := false }
  else c

/-- Not started, and without a worker. -/
def IsIdle (c : ClientObject) : Prop := c.started = false ∧ c.hasWorker = false

/-- Started; an enabled integration has its transport and its worker. -/
def IsRunning (c : ClientObject) : Prop :=
  c.started = true ∧
    (setup.config.pilot.enabled = true → c.hasTransport = true ∧ c.hasWorker = true)

end ClientObject

end NodusVision.Pilot
