import NodusVision.Pilot.Messages

/-! The Pilot client: its worker, its callers and the transport between them. Every access to what they
share is a step of its own: a load of the stop flag, a section under the mutex of the client, a section
under the mutex of the transport. Waiting ends at any time. -/
namespace NodusVision.Pilot
open Text

inductive PilotIntegrationState where
  | disabled
  | registering
  | online
  | recovering
  | contractFault
  | stopping
  | stopped
  deriving DecidableEq

structure PilotIntegrationSnapshot where
  enabled : Bool := false
  state : PilotIntegrationState := .disabled
  serverInstanceId : ByteString := []
  catalogGeneration : ℕ := 0
  descriptorCount : ℕ := 0
  retryCount : ℕ := 0
  lastError : String := ""
  deriving DecidableEq

/-- The variables of `publishCatalog`. -/
structure Publication where
  serverInstanceId : ByteString
  message : PilotMessage
  retryCount : ℕ := 0

/-- What the worker sends a request for. -/
inductive Purpose where
  | register (state : ProviderState)
  | catalog (publication : Publication)
  | lifecycle (pending : Option ProviderState)
  | disconnect

/-- Where the worker is. -/
inductive WorkerPc where
  /-- at the head of the loop of `runWorker` -/
  | loop
  /-- before `setSnapshot(REGISTERING)` -/
  | registering
  /-- before `m_current_state` is read -/
  | readingState
  /-- about to call `executeRequest` -/
  | starting (purpose : Purpose) (message : PilotMessage)
  /-- in `executeRequest` -/
  | awaiting (purpose : Purpose)
  /-- before the stop flag is checked after an answer -/
  | answered (purpose : Purpose) (result : PilotHttpResult)
  | judging (purpose : Purpose) (result : PilotHttpResult)
  /-- at the head of the loop of `publishCatalog` -/
  | catalogLoop (publication : Publication)
  /-- before `updateOnlineSuccess` -/
  | goingOnline
  /-- at the head of the loop of `runSession` -/
  | sessionLoop
  /-- waiting for a pending state or for the time of the next heartbeat -/
  | sessionWait
  /-- in the handler of `runWorker` -/
  | caught
  /-- before the next retry is counted -/
  | retrying
  /-- after the loop of `runWorker` -/
  | leaving
  /-- after the disconnect -/
  | disconnected
  /-- returned -/
  | done
  /-- terminated by an exception outside of the handler -/
  | crashed

/-- The thread and the local variables of `runWorker`. -/
structure Worker where
  pc : WorkerPc
  sessionId : ByteString := []
  sequence : ℕ := 1
  retryCount : ℕ := 0

/-- Where `stopClient` is. -/
inductive StopperPc where
  | idle
  /-- before `cancelRequest` -/
  | cancelling
  /-- before `join` -/
  | joining
  deriving DecidableEq

/-- What the worker and Pilot exchange, as a trace. -/
inductive Exchange where
  | sent (message : PilotMessage)
  /-- a 201 answer that parses -/
  | registered (response : PilotRegistrationResponse)
  | catalogAccepted (response : PilotCatalogAcceptedResponse)
  | catalogReplaced
  | lifecycleAccepted
  | lifecycleFailed

structure Client where
  snapshot : PilotIntegrationSnapshot := {}
  pendingState : Option ProviderState := none
  currentState : ProviderState := .starting
  identity : ClientIdentity := ⟨[], 0⟩
  started : Bool := false
  stopRequested : Bool := false
  /-- The active session of the transport, and whether it was cancelled. -/
  active : Option (PilotMessage × Bool) := none
  /-- `m_worker` while it is joinable -/
  worker : Option Worker := none
  stopper : StopperPc := .idle
  /-- Since `startClient`, the newest first. No code reads it. -/
  exchanges : List Exchange := []

namespace Client

def setSnapshot (setup : ClientSetup) (c : Client) (state : PilotIntegrationState) (error : String) :
    Client :=
  { c with snapshot :=
      { c.snapshot with enabled := setup.config.pilot.enabled, state := state, lastError := error } }

def note (c : Client) (exchange : Exchange) : Client :=
  { c with exchanges := exchange :: c.exchanges }

def setWorker (c : Client) (w : Worker) : Client := { c with worker := some w }

end Client

def Worker.at (w : Worker) (pc : WorkerPc) : Worker := { w with pc := pc }

section
variable (setup : ClientSetup) (c : Client) (w : Worker)

/-- Build the request: go on with `executeRequest`, or with the handler of the exception. -/
def compose (purpose : Purpose) (message : PilotMessage) (handler : WorkerPc) : WorkerPc :=
  match message.render setup.formatDouble with
  | .ok _ => .starting purpose message
  | .error _ => handler

/-- The rest of `runWorker` after a register answer. -/
def afterRegister (result : PilotHttpResult) : Client :=
  match judgeRegister setup result with
  | .accepted response =>
    let message := catalogMessage setup c.identity response.sessionId
    let publication : Publication := { serverInstanceId := response.serverInstanceId, message }
    let next := match message.render setup.formatDouble with
      | .ok _ => .catalogLoop publication
      | .error _ => .caught
    { c with
      snapshot :=
        { c.snapshot with
          serverInstanceId := response.serverInstanceId
          retryCount := w.retryCount
          catalogGeneration := 0
          descriptorCount := 0 }
      worker := some { w with pc := next, sessionId := response.sessionId, sequence := 1 } }
  | .recovering error => (c.setSnapshot setup .recovering error).setWorker (w.at .retrying)
  | .contractFault =>
    (c.setSnapshot setup .contractFault "registration_contract_error").setWorker (w.at .done)

/-- The rest of `publishCatalog` after a catalog answer, and what `runWorker` does with its result. -/
def afterCatalog (publication : Publication) (result : PilotHttpResult) : Client :=
  match judgeCatalog setup publication.serverInstanceId result with
  | .published response =>
    { c with
      snapshot :=
        { c.snapshot with
          serverInstanceId := response.serverInstanceId
          catalogGeneration := response.catalogGeneration
          descriptorCount := response.descriptorCount }
      worker := some (w.at .goingOnline)
      exchanges := .catalogAccepted response :: c.exchanges }
  | .replaceSession error =>
    ((c.setSnapshot setup .recovering error).note .catalogReplaced).setWorker
      { w with pc := .retrying, sessionId := [] }
  | .contractFault error => (c.setSnapshot setup .contractFault error).setWorker (w.at .done)
  | .retry =>
    let publication := { publication with retryCount := publication.retryCount + 1 }
    { c with
      snapshot := { c.snapshot with retryCount := publication.retryCount }
      worker := some (w.at (.catalogLoop publication)) }

def updateOnlineSuccess : Client :=
  { c with snapshot := { c.snapshot with state := .online, lastError := "" } }

/-- The rest of the loop of `runSession` after the answer to a lifecycle write. -/
def afterLifecycle (result : PilotHttpResult) : Client :=
  match judgeLifecycle setup c.snapshot.serverInstanceId result with
  | none => ((updateOnlineSuccess c).note .lifecycleAccepted).setWorker (w.at .sessionLoop)
  | some error =>
    ((c.setSnapshot setup .recovering error).note .lifecycleFailed).setWorker (w.at .retrying)

/-- Take the pending state, if there is one, and build the next lifecycle write. -/
def takePending : Client :=
  let message := lifecycleMessage w.sessionId w.sequence c.pendingState
  { c with
    pendingState := none
    worker := some
      { w with
        pc := compose setup (.lifecycle c.pendingState) message .caught
        sequence := w.sequence + 1 } }

/-- One step of the worker outside of `executeRequest`. -/
def workerStep : Option Client :=
  match w.pc with
  | .loop => some (c.setWorker (w.at (if c.stopRequested then .leaving else .registering)))
  | .registering => some ((c.setSnapshot setup .registering "").setWorker (w.at .readingState))
  | .readingState =>
    let message := registerMessage setup c.identity c.currentState
    some (c.setWorker (w.at (compose setup (.register c.currentState) message .crashed)))
  | .starting purpose message =>
    some { c with
      active := some (message, false)
      worker := some (w.at (.awaiting purpose))
      exchanges := .sent message :: c.exchanges }
  | .awaiting _ => none
  | .answered purpose result =>
    some (c.setWorker (w.at (if c.stopRequested then .leaving else .judging purpose result)))
  | .judging (.register _) result => some (afterRegister setup c w result)
  | .judging (.catalog publication) result => some (afterCatalog setup c w publication result)
  | .judging (.lifecycle _) result => some (afterLifecycle setup c w result)
  | .judging .disconnect _ => none
  | .catalogLoop publication =>
    some (c.setWorker (w.at
      (if c.stopRequested then .leaving else .starting (.catalog publication) publication.message)))
  | .goingOnline =>
    some ((updateOnlineSuccess c).setWorker { w with pc := .sessionLoop, retryCount := 0 })
  | .sessionLoop => some (c.setWorker (w.at (if c.stopRequested then .leaving else .sessionWait)))
  | .sessionWait => some (if c.stopRequested then c.setWorker (w.at .leaving) else takePending setup c w)
  | .caught =>
    some ((c.setSnapshot setup .recovering "invalid_registration_response").setWorker
      (w.at .retrying))
  | .retrying =>
    some { c with
      snapshot := { c.snapshot with retryCount := w.retryCount + 1 }
      worker := some { w with pc := .loop, retryCount := w.retryCount + 1 } }
  | .leaving =>
    if w.sessionId = [] then some ((c.setSnapshot setup .stopped "").setWorker (w.at .done))
    else
      some ((c.setSnapshot setup .stopping "").setWorker
        (w.at (.starting .disconnect (.disconnect w.sessionId))))
  | .disconnected => some ((c.setSnapshot setup .stopped "").setWorker (w.at .done))
  | .done => none
  | .crashed => none

/-- A registration is accepted when its answer arrives. -/
def arrived (purpose : Purpose) (result : PilotHttpResult) (exchanges : List Exchange) :
    List Exchange :=
  match purpose with
  | .register _ =>
    match judgeRegister setup result with
    | .accepted response => .registered response :: exchanges
    | _ => exchanges
  | _ => exchanges

/-- `executeRequest` returns. A cancelled request may have got any answer before. -/
def requestDone (result : PilotHttpResult) : Option Client :=
  match w.pc with
  | .awaiting purpose =>
    some { c with
      active := none
      worker := some (w.at (match purpose with
        | .disconnect => .disconnected
        | _ => .answered purpose result))
      exchanges := arrived setup purpose result c.exchanges }
  | _ => none

end

inductive Event where
  | startClient (identity : ClientIdentity) (initialState : ProviderState)
  | updateProviderState (state : ProviderState)
  /-- the first section of `stopClient` -/
  | stopClient
  | cancelRequest
  /-- `join` and the last section of `stopClient` -/
  | joinWorker
  | worker
  | requestDone (result : PilotHttpResult)

/-- A start that is not ignored. -/
def startClient (setup : ClientSetup) (c : Client) (identity : ClientIdentity)
    (initialState : ProviderState) : Client :=
  let fresh : Client :=
    { c with
      snapshot := { enabled := setup.config.pilot.enabled }
      pendingState := none
      currentState := initialState
      started := true
      exchanges := [] }
  if setup.config.pilot.enabled then
    { fresh with
      identity := identity
      stopRequested := false
      active := none
      worker := some { pc := .loop } }
  else fresh

def cancelActive (c : Client) : Client :=
  { c with active := c.active.map fun a => (a.1, true), stopper := .joining }

def isJoinable : Option Worker → Bool
  | some { pc := .done, .. } => true
  | some _ => false
  | none => true

/-- Instance ids are generated in the format that the codec checks. -/
def step (setup : ClientSetup) (c : Client) : Event → Option Client
  | .startClient identity initialState =>
    if c.started then some c
    else if isInstanceIdValid identity.instanceId && decide (identity.startedAtNs ≤ maxInt64Value)
    then some (startClient setup c identity initialState)
    else none
  | .updateProviderState state =>
    if c.started && setup.config.pilot.enabled then
      some { c with currentState := state, pendingState := some state }
    else some c
  | .stopClient =>
    if c.started && c.stopper == .idle then some { c with stopRequested := true, stopper := .cancelling }
    else none
  | .cancelRequest => if c.stopper = .cancelling then some (cancelActive c) else none
  | .joinWorker =>
    if c.stopper = .joining && isJoinable c.worker then
      some { c with worker := none, started := false, stopper := .idle }
    else none
  | .worker => c.worker.bind fun w => workerStep setup c w
  | .requestDone result => c.worker.bind fun w => requestDone setup c w result

end NodusVision.Pilot
