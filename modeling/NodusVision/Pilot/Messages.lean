import NodusVision.Pilot.Catalog

/-! What the client sends to Pilot, and what it reads out of the answers. -/
namespace NodusVision.Pilot
open Text Storage Config

inductive ProviderState where
  | starting
  | ready
  | degraded
  | stopping
  deriving DecidableEq

def makePilotState : ProviderState → PilotCommonState
  | .ready => { health := ascii "ready", reason := [] }
  | .degraded => { health := ascii "degraded", reason := ascii "camera_degraded" }
  | .stopping => { health := ascii "stopping", reason := ascii "provider_stopping" }
  | .starting => { health := ascii "starting", reason := [] }

structure PilotHttpRequest where
  method : ByteString
  target : ByteString
  body : ByteString
  deriving DecidableEq

/-- The content type is checked by the transport, which answers status 0 when it is another one. -/
structure PilotHttpResult where
  status : ℕ
  body : ByteString := []
  error : ByteString := []
  deriving DecidableEq

/-- What a client is built with: the configuration, the camera transform and the JSON library. -/
structure ClientSetup where
  config : VisionConfig
  geometry : CameraGeometry
  parse : JsonParser
  formatDouble : ℚ → ByteString

/-- `m_instance_id` and `m_started_at_ns` -/
structure ClientIdentity where
  instanceId : ByteString
  startedAtNs : ℕ

def ClientSetup.catalog (setup : ClientSetup) : VisionEndpointCatalog :=
  buildCatalog setup.geometry setup.config

def isUnreserved (c : UInt8) : Bool :=
  (97 ≤ c && c ≤ 122) || (65 ≤ c && c ≤ 90) || (48 ≤ c && c ≤ 57) || c == 45 || c == 95 ||
    c == 46 || c == 126

def upperHexDigit (n : ℕ) : UInt8 :=
  if n < 10 then UInt8.ofNat (48 + n) else UInt8.ofNat (55 + n)

def encodePathByte (c : UInt8) : ByteString :=
  if isUnreserved c then [c]
  else [37, upperHexDigit (c.toNat / 16), upperHexDigit (c.toNat % 16)]

def encodePathSegment (input : ByteString) : ByteString := input.flatMap encodePathByte

/-- A request before it is serialized. Those after a registration carry the session they belong to. -/
inductive PilotMessage where
  | register (request : PilotRegistrationRequest)
  | catalog (sessionId publicationId : ByteString) (descriptors : List PilotEndpointDescriptor)
  | heartbeat (sessionId : ByteString) (sequence : ℕ)
  | stateUpdate (sessionId : ByteString) (sequence : ℕ) (state : PilotCommonState)
  | disconnect (sessionId : ByteString)

def sessionPath (sessionId : ByteString) (resource : String) : ByteString :=
  ascii "/api/v1/components/" ++ encodePathSegment sessionId ++ ascii resource

def PilotMessage.method : PilotMessage → ByteString
  | .catalog .. => ascii "PUT"
  | _ => ascii "POST"

def PilotMessage.target : PilotMessage → ByteString
  | .register _ => ascii "/api/v1/components/register"
  | .catalog sessionId _ _ => sessionPath sessionId "/endpoint-catalog"
  | .heartbeat sessionId _ => sessionPath sessionId "/heartbeat"
  | .stateUpdate sessionId _ _ => sessionPath sessionId "/state"
  | .disconnect sessionId => sessionPath sessionId "/disconnect"

/-- The first publication of a session expects catalog generation 0. -/
def PilotMessage.body (formatDouble : ℚ → ByteString) :
    PilotMessage → Except Exception ByteString
  | .register request => do
    let object ← serializeRegistrationRequest request
    .ok ((JsonValue.object object).serialize formatDouble)
  | .catalog _ publicationId descriptors => do
    let object ← serializeCatalogPublicationRequest publicationId 0 descriptors
    .ok ((JsonValue.object object).serialize formatDouble)
  | .heartbeat _ sequence => do
    let object ← serializeHeartbeatRequest sequence
    .ok ((JsonValue.object object).serialize formatDouble)
  | .stateUpdate _ sequence state => do
    let object ← serializeStateUpdateRequest sequence state
    .ok ((JsonValue.object object).serialize formatDouble)
  | .disconnect _ => .ok serializeDisconnectRequest

/-- The request given to `executeRequest`. -/
def PilotMessage.render (formatDouble : ℚ → ByteString) (message : PilotMessage) :
    Except Exception PilotHttpRequest := do
  let body ← message.body formatDouble
  .ok { method := message.method, target := message.target, body }

def registrationMetadata (setup : ClientSetup) : JsonObject :=
  buildVisionStaticMetadata setup.geometry setup.config ++
    [(ascii "provider_api_version", .string (ascii "1.3.0"))]

def registrationRequest (setup : ClientSetup) (identity : ClientIdentity) (state : ProviderState) :
    PilotRegistrationRequest where
  componentId := setup.config.componentId
  instanceId := identity.instanceId
  capabilities := setup.catalog.capabilities
  initialState := makePilotState state
  startedAtNs := identity.startedAtNs
  metadata := registrationMetadata setup
  clockDomain := setup.config.pilot.clockDomain

def registerMessage (setup : ClientSetup) (identity : ClientIdentity) (state : ProviderState) :
    PilotMessage :=
  .register (registrationRequest setup identity state)

def publicationId (identity : ClientIdentity) : ByteString :=
  ascii "catalog-" ++ identity.instanceId ++ ascii "-1"

def catalogMessage (setup : ClientSetup) (identity : ClientIdentity) (sessionId : ByteString) :
    PilotMessage :=
  .catalog sessionId (publicationId identity) setup.catalog.descriptors

/-- A state update when a state is pending, and else a heartbeat. -/
def lifecycleMessage (sessionId : ByteString) (sequence : ℕ) :
    Option ProviderState → PilotMessage
  | some state => .stateUpdate sessionId sequence (makePilotState state)
  | none => .heartbeat sessionId sequence

def isContractStatus (status : ℕ) : Bool := status == 400 || status == 413 || status == 415

inductive CatalogConflictDisposition where
  | replaceSession
  | contractFault
  | unknown
  deriving DecidableEq

def classifyCatalogConflict (errorCode : ByteString) : CatalogConflictDisposition :=
  if errorCode = ascii "stale_catalog_generation" ∨ errorCode = ascii "session_expired" ∨
      errorCode = ascii "stale_sequence" then .replaceSession
  else if errorCode = ascii "idempotency_conflict" ∨ errorCode = ascii "duplicate_descriptor_id" ∨
      errorCode = ascii "undeclared_endpoint_capability" then .contractFault
  else .unknown

def getErrorCode (parse : JsonParser) (body : ByteString) : ByteString :=
  let code := do
    let object ← (← parse body).asObject
    let error ← (← object.find? (ascii "error")).asObject
    (← error.find? (ascii "code")).asString
  code.getD []

/-- What `runWorker` makes of the answer to a registration. -/
inductive RegisterVerdict where
  | accepted (response : PilotRegistrationResponse)
  | recovering (error : String)
  | contractFault
  deriving DecidableEq

def RegisterVerdict.isAccepted : RegisterVerdict → Bool
  | .accepted _ => true
  | _ => false

def judgeRegister (setup : ClientSetup) (result : PilotHttpResult) : RegisterVerdict :=
  if result.status = 201 then
    match parseRegistrationResponse setup.parse result.body with
    | .ok response => .accepted response
    | .error _ => .recovering "invalid_registration_response"
  else if isContractStatus result.status then .contractFault
  else if result.error = [] then .recovering "registration_unavailable"
  else .recovering "registration_transport_error"

/-- What `publishCatalog` makes of the answer to a publication. -/
inductive CatalogVerdict where
  | published (response : PilotCatalogAcceptedResponse)
  | replaceSession (error : String)
  | contractFault (error : String)
  | retry
  deriving DecidableEq

def CatalogVerdict.isFault : CatalogVerdict → Bool
  | .contractFault _ => true
  | _ => false

def judgeCatalog (setup : ClientSetup) (serverInstanceId : ByteString) (result : PilotHttpResult) :
    CatalogVerdict :=
  let errorCode := getErrorCode setup.parse result.body
  if result.status = 200 then
    match parseCatalogAcceptedResponse setup.parse result.body setup.config.componentId
        serverInstanceId setup.catalog.descriptors.length with
    | .ok response => .published response
    | .error _ => .replaceSession "invalid_catalog_response"
  else if result.status = 409 then
    match classifyCatalogConflict errorCode with
    | .replaceSession =>
      .replaceSession (if errorCode = ascii "stale_catalog_generation" then
        "stale_catalog_generation" else "catalog_session_replaced")
    | .contractFault => .contractFault "catalog_contract_conflict"
    | .unknown => .contractFault "catalog_unknown_conflict"
  else if isContractStatus result.status then .contractFault "catalog_contract_error"
  else if result.status = 404 then .replaceSession "catalog_session_replaced"
  else .retry

/-- What `runSession` makes of the answer to a lifecycle write: accepted, or an error. -/
def judgeLifecycle (setup : ClientSetup) (serverInstanceId : ByteString)
    (result : PilotHttpResult) : Option String :=
  if result.status ≠ 200 then
    some (if result.error = [] then "lifecycle_write_rejected" else "lifecycle_transport_error")
  else
    match parseLifecycleAcceptedResponse setup.parse result.body with
    | .ok response =>
      if response.serverInstanceId = serverInstanceId then none
      else some "lifecycle_server_instance_mismatch"
    | .error _ => some "invalid_lifecycle_response"

end NodusVision.Pilot
