import NodusVision.Program.Throw
import NodusVision.Storage.Disk
import NodusVision.Text.JsonValue

/-! The messages of the Pilot contract, as JSON values. -/
namespace NodusVision.Pilot
open Text Storage Program

structure PilotCommonState where
  health : ByteString
  reason : ByteString
  details : JsonObject := []

structure PilotServiceContract where
  method : ByteString := []
  requestSchemaId : ByteString := []
  responseSchemaId : ByteString := []

structure PilotStreamContract where
  clockDomain : ByteString := []
  streamGroupId : ByteString := []

/-- The member `kind` is not serialized; the kind follows from `isStream`. -/
structure PilotEndpointDescriptor where
  descriptorId : ByteString
  capability : ByteString
  contractVersion : ℕ := 1
  endpoint : ByteString
  mediaType : ByteString
  schemaId : ByteString
  metadata : JsonObject
  isStream : Bool := false
  service : PilotServiceContract := {}
  stream : PilotStreamContract := {}

structure PilotRegistrationRequest where
  componentId : ByteString
  instanceId : ByteString
  capabilities : List ByteString
  initialState : PilotCommonState
  startedAtNs : ℕ
  metadata : JsonObject
  clockDomain : ByteString

structure PilotRegistrationResponse where
  sessionId : ByteString
  serverInstanceId : ByteString
  heartbeatIntervalMs : ℕ
  leaseTimeoutMs : ℕ
  serverTimeNs : ℕ
  deriving DecidableEq

structure PilotCatalogAcceptedResponse where
  serverInstanceId : ByteString
  componentId : ByteString
  catalogGeneration : ℕ
  descriptorCount : ℕ
  deriving DecidableEq

structure PilotLifecycleAcceptedResponse where
  serverInstanceId : ByteString
  deriving DecidableEq

def identifierMaxBytes : ℕ := 128

def maxInt64Value : ℕ := 9223372036854775807

/-- A `std::invalid_argument` with this text. -/
def invalid {α : Type} (what : String) : Except Exception α := .error (.invalidArgument what)

/-- Throw unless the condition holds. -/
def ensure (condition : Bool) (what : String) : Except Exception Unit :=
  if condition then .ok () else invalid what

@[simp] theorem ensure_eq_ok {condition : Bool} {what : String} {u : Unit} :
    ensure condition what = .ok u ↔ condition = true := by
  cases condition <;> simp [ensure, invalid]

@[simp] theorem invalid_ne_ok {α : Type} {what : String} {a : α} : invalid what ≠ .ok a := by
  simp [invalid]

def validateIdentifier (value : ByteString) (field : String) : Except Exception Unit :=
  ensure (!value.isEmpty && decide (value.length ≤ identifierMaxBytes))
    (field ++ " must be a bounded non-empty identifier.")

theorem validateIdentifier_eq_ok {value : ByteString} {field : String} {u : Unit} :
    validateIdentifier value field = .ok u ↔ value ≠ [] ∧ value.length ≤ identifierMaxBytes := by
  simp [validateIdentifier]

/-- `operator<` of `std::string` -/
def byteLess : ByteString → ByteString → Bool
  | _, [] => false
  | [], _ :: _ => true
  | a :: s, b :: t => decide (a < b) || (a == b && byteLess s t)

/-- `std::is_sorted` and no equal neighbours -/
def isStableSorted : List ByteString → Bool
  | a :: b :: rest => !byteLess b a && a != b && isStableSorted (b :: rest)
  | _ => true

def stringOrNull (value : ByteString) : JsonValue :=
  if value.isEmpty then .null else .string value

def serializeCommonState (state : PilotCommonState) : Except Exception JsonObject := do
  ensure ([ascii "starting", ascii "ready", ascii "degraded", ascii "faulted",
      ascii "stopping"].contains state.health)
    "Pilot health must be a public CommonState value."
  ensure (decide (state.reason.length ≤ 256)) "Pilot state reason exceeds the public bound."
  .ok [(ascii "health", .string state.health), (ascii "reason", stringOrNull state.reason),
    (ascii "details", .object state.details)]

def serializeServiceContract (service : PilotServiceContract) : JsonObject :=
  [(ascii "method", .string service.method),
    (ascii "request_schema_id", stringOrNull service.requestSchemaId),
    (ascii "response_schema_id", stringOrNull service.responseSchemaId)]

def serializeStreamContract (stream : PilotStreamContract) : JsonObject :=
  [(ascii "clock_domain", .string stream.clockDomain),
    (ascii "stream_group_id", stringOrNull stream.streamGroupId)]

def descriptorObject (d : PilotEndpointDescriptor) : JsonObject :=
  [(ascii "descriptor_id", .string d.descriptorId),
    (ascii "kind", .string (if d.isStream then ascii "stream" else ascii "service")),
    (ascii "capability", .string d.capability),
    (ascii "contract_version", .uint64 d.contractVersion),
    (ascii "protocol", .string (ascii "http")),
    (ascii "endpoint", .string d.endpoint),
    (ascii "media_type", .string d.mediaType),
    (ascii "schema_id", .string d.schemaId),
    (ascii "metadata", .object d.metadata),
    (ascii "service", if d.isStream then .null else .object (serializeServiceContract d.service)),
    (ascii "stream", if d.isStream then .object (serializeStreamContract d.stream) else .null)]

def serializeDescriptor (d : PilotEndpointDescriptor) : Except Exception JsonObject := do
  validateIdentifier d.descriptorId "descriptor_id"
  validateIdentifier d.capability "capability"
  ensure (d.contractVersion != 0 && decide (d.contractVersion ≤ maxInt64Value) &&
      !d.endpoint.isEmpty && !d.mediaType.isEmpty && !d.schemaId.isEmpty)
    "Pilot endpoint descriptor is incomplete."
  .ok (descriptorObject d)

def isLowercaseHex (c : UInt8) : Bool := (48 ≤ c && c ≤ 57) || (97 ≤ c && c ≤ 102)

def isInstanceIdValid (value : ByteString) : Bool :=
  decide (value.length = 39) && (ascii "vision-").isPrefixOf value &&
    (value.drop 7).all isLowercaseHex

def lowerHexDigit (n : ℕ) : UInt8 :=
  if n < 10 then UInt8.ofNat (48 + n) else UInt8.ofNat (87 + n)

/-- An injected id, or one from 16 random bytes. -/
def generateInstanceId (injected : Option ByteString) (bytes : List UInt8) :
    Except Exception ByteString :=
  match injected with
  | some value =>
    if isInstanceIdValid value then .ok value
    else invalid "Injected Pilot instance ID has an invalid format."
  | none =>
    .ok (ascii "vision-" ++ bytes.flatMap fun b =>
      [lowerHexDigit (b.toNat / 16), lowerHexDigit (b.toNat % 16)])

theorem lowerHexDigit_isLowercaseHex {n : ℕ} (h : n < 16) :
    isLowercaseHex (lowerHexDigit n) = true := by
  have hall : ∀ n < 16, isLowercaseHex (lowerHexDigit n) = true := by decide
  exact hall n h

theorem generateInstanceId_valid {injected : Option ByteString} {bytes value : ByteString}
    (hbytes : bytes.length = 16) (h : generateInstanceId injected bytes = .ok value) :
    isInstanceIdValid value = true := by
  unfold generateInstanceId at h
  split at h
  · split at h
    · cases h
      assumption
    · cases h
  · cases h
    have hascii : ascii "vision-" = [118, 105, 115, 105, 111, 110, 45] := by decide +kernel
    have hlength : (bytes.flatMap fun b =>
        [lowerHexDigit (b.toNat / 16), lowerHexDigit (b.toNat % 16)]).length = 32 := by
      simp [List.length_flatMap, hbytes]
    simp only [isInstanceIdValid, hascii, Bool.and_eq_true, decide_eq_true_eq, List.length_append,
      hlength]
    refine ⟨⟨rfl, ?_⟩, ?_⟩
    · simp [List.isPrefixOf]
    · simp only [List.cons_append, List.nil_append, List.drop_succ_cons, List.drop_zero,
        List.all_flatMap, List.all_eq_true]
      intro b _ c hc
      have hb := b.toNat_lt
      simp only [List.mem_cons, List.not_mem_nil, or_false] at hc
      rcases hc with rfl | rfl
      · exact lowerHexDigit_isLowercaseHex (by omega)
      · exact lowerHexDigit_isLowercaseHex (by omega)

def registrationObject (request : PilotRegistrationRequest) (initialState : JsonObject) :
    JsonObject :=
  [(ascii "component_id", .string request.componentId),
    (ascii "instance_id", .string request.instanceId),
    (ascii "component_type", .string (ascii "camera")),
    (ascii "protocol_version", .int64 1),
    (ascii "supported_schema_versions", .array [.int64 1]),
    (ascii "capabilities", .array (request.capabilities.map .string)),
    (ascii "service_endpoints", .object []),
    (ascii "initial_state", .object initialState),
    (ascii "started_at", .uint64 request.startedAtNs),
    (ascii "metadata", .object request.metadata),
    (ascii "clock_domain", .string request.clockDomain)]

def serializeRegistrationRequest (request : PilotRegistrationRequest) :
    Except Exception JsonObject := do
  validateIdentifier request.componentId "component_id"
  ensure (isInstanceIdValid request.instanceId &&
      request.clockDomain == ascii "monotonic_same_host")
    "Pilot registration identity or clock domain is invalid."
  ensure (isStableSorted request.capabilities)
    "Pilot registration capabilities must be stable sorted and unique."
  let _ ← request.capabilities.mapM fun capability => validateIdentifier capability "capability"
  let initialState ← serializeCommonState request.initialState
  .ok (registrationObject request initialState)

/-- Descriptors after one with id `previous`, which is empty before the first. -/
def serializeDescriptors (previous : ByteString) :
    List PilotEndpointDescriptor → Except Exception (List JsonValue)
  | [] => .ok []
  | d :: rest => do
    ensure (previous.isEmpty || byteLess previous d.descriptorId)
      "Pilot catalog descriptors must be stable sorted and unique."
    let value ← serializeDescriptor d
    let values ← serializeDescriptors d.descriptorId rest
    .ok (.object value :: values)

def publicationObject (publicationId : ByteString) (expectedCatalogGeneration : ℕ)
    (descriptors : List JsonValue) : JsonObject :=
  [(ascii "schema_version", .int64 1),
    (ascii "publication_id", .string publicationId),
    (ascii "expected_catalog_generation", .uint64 expectedCatalogGeneration),
    (ascii "descriptors", .array descriptors)]

def serializeCatalogPublicationRequest (publicationId : ByteString)
    (expectedCatalogGeneration : ℕ) (descriptors : List PilotEndpointDescriptor) :
    Except Exception JsonObject := do
  validateIdentifier publicationId "publication_id"
  ensure (decide (expectedCatalogGeneration ≤ maxInt64Value))
    "Expected catalog generation exceeds the public range."
  let values ← serializeDescriptors [] descriptors
  .ok (publicationObject publicationId expectedCatalogGeneration values)

def serializeHeartbeatRequest (sequence : ℕ) : Except Exception JsonObject := do
  ensure (decide (sequence ≤ maxInt64Value)) "Heartbeat sequence exceeds the public range."
  .ok [(ascii "sequence", .uint64 sequence)]

def serializeStateUpdateRequest (sequence : ℕ) (state : PilotCommonState) :
    Except Exception JsonObject := do
  ensure (decide (sequence ≤ maxInt64Value)) "State sequence exceeds the public range."
  let state ← serializeCommonState state
  .ok [(ascii "sequence", .uint64 sequence), (ascii "state", .object state)]

def serializeDisconnectRequest : ByteString := ascii "\x7b\x7d"

def requireNonNegativeInteger (object : JsonObject) (key : String) : Except Exception ℕ :=
  match object.find? (ascii key) with
  | some (.int64 value) =>
    if value < 0 then invalid (key ++ " must be non-negative.")
    else if maxInt64Value < value.toNat then invalid (key ++ " exceeds the public integer range.")
    else .ok value.toNat
  | some (.uint64 value) =>
    if maxInt64Value < value then invalid (key ++ " exceeds the public integer range.")
    else .ok value
  | _ => invalid (key ++ " must be a non-negative integer.")

def requireIdentifier (object : JsonObject) (key : String) : Except Exception ByteString :=
  match object.find? (ascii key) with
  | some (.string value) => do
    validateIdentifier value key
    .ok value
  | _ => invalid (key ++ " must be an identifier.")

def requireJsonObject (parse : JsonParser) (body : ByteString) (what : String) :
    Except Exception JsonObject :=
  match (parse body).bind JsonValue.asObject with
  | some object => .ok object
  | none => invalid what

theorem requireIdentifier_eq_ok {object : JsonObject} {key : String} {value : ByteString} :
    requireIdentifier object key = .ok value ↔
      object.find? (ascii key) = some (.string value) ∧ value ≠ [] ∧
        value.length ≤ identifierMaxBytes := by
  unfold requireIdentifier
  split
  · rename_i found hfound
    simp only [bind_eq_ok, validateIdentifier_eq_ok, hfound, Option.some.injEq,
      JsonValue.string.injEq, Except.ok.injEq]
    constructor
    · rintro ⟨_, h, rfl⟩
      exact ⟨rfl, h⟩
    · rintro ⟨rfl, h⟩
      exact ⟨(), h, rfl⟩
  · rename_i hnone
    constructor
    · intro h
      cases h
    · rintro ⟨h, -⟩
      exact absurd h (hnone value)

/-- Whether the accepted versions include 1; each must be an integer of at most 16. -/
def acceptsSchemaOne : List JsonValue → Except Exception Bool
  | [] => .ok false
  | version :: rest => do
    let numeric ← match version with
      | .int64 value =>
        if value < 0 then invalid "Pilot accepted schema versions are invalid."
        else .ok value.toNat
      | .uint64 value => .ok value
      | _ => invalid "Pilot accepted schema versions are invalid."
    ensure (decide (numeric ≤ 16)) "Pilot accepted schema versions are invalid."
    let accepted ← acceptsSchemaOne rest
    .ok (numeric == 1 || accepted)

def requireSchemaVersions (object : JsonObject) : Except Exception (List JsonValue) :=
  match object.find? (ascii "accepted_schema_versions") with
  | some (.array (version :: rest)) => .ok (version :: rest)
  | _ => invalid "Pilot accepted schema versions are invalid."

def parseRegistrationResponse (parse : JsonParser) (body : ByteString) :
    Except Exception PilotRegistrationResponse := do
  let object ← requireJsonObject parse body
    "Pilot registration response must be a JSON object."
  ensure (object.length == 7) "Pilot registration response has unknown or missing fields."
  let protocol ← requireNonNegativeInteger object "accepted_protocol_version"
  ensure (protocol == 1) "Pilot did not accept protocol version 1."
  let versions ← requireSchemaVersions object
  let acceptedSchemaOne ← acceptsSchemaOne versions
  let sessionId ← requireIdentifier object "session_id"
  let serverInstanceId ← requireIdentifier object "server_instance_id"
  let heartbeatIntervalMs ← requireNonNegativeInteger object "heartbeat_interval_ms"
  let leaseTimeoutMs ← requireNonNegativeInteger object "lease_timeout_ms"
  let serverTimeNs ← requireNonNegativeInteger object "server_time"
  ensure (acceptedSchemaOne && heartbeatIntervalMs != 0 && leaseTimeoutMs != 0 &&
      decide (heartbeatIntervalMs < leaseTimeoutMs))
    "Pilot registration response has an invalid lease configuration."
  .ok { sessionId, serverInstanceId, heartbeatIntervalMs, leaseTimeoutMs, serverTimeNs }

theorem parseRegistrationResponse_sessionId {parse : JsonParser} {body : ByteString}
    {response : PilotRegistrationResponse}
    (h : parseRegistrationResponse parse body = .ok response) : response.sessionId ≠ [] := by
  simp only [parseRegistrationResponse, bind_eq_ok, requireIdentifier_eq_ok] at h
  obtain ⟨_, _, _, _, _, _, _, _, _, _, _, _, sessionId, ⟨_, hne, _⟩, _, _, _, _, _, _, _, _, _, _, h⟩ := h
  cases h
  exact hne

/-- The member `status` is there and says `accepted`. -/
def isAccepted (object : JsonObject) : Bool :=
  (object.find? (ascii "status")).bind JsonValue.asString == some (ascii "accepted")

def parseCatalogAcceptedResponse (parse : JsonParser) (body componentId serverInstanceId : ByteString)
    (descriptorCount : ℕ) : Except Exception PilotCatalogAcceptedResponse := do
  let object ← requireJsonObject parse body "Pilot catalog response must be a JSON object."
  ensure (object.length == 7 && isAccepted object) "Pilot catalog response is invalid."
  let server ← requireIdentifier object "server_instance_id"
  let component ← requireIdentifier object "component_id"
  let catalogGeneration ← requireNonNegativeInteger object "catalog_generation"
  let parsedCount ← requireNonNegativeInteger object "descriptor_count"
  let sessionGeneration ← requireNonNegativeInteger object "session_generation"
  let catalogRevision ← requireNonNegativeInteger object "catalog_revision"
  ensure (component == componentId && server == serverInstanceId && catalogGeneration != 0 &&
      sessionGeneration != 0 && catalogRevision != 0 && parsedCount == descriptorCount)
    "Pilot catalog response does not match the publication."
  .ok { serverInstanceId := server, componentId := component, catalogGeneration, descriptorCount }

theorem parseCatalogAcceptedResponse_spec {parse : JsonParser}
    {body componentId serverInstanceId : ByteString} {descriptorCount : ℕ}
    {response : PilotCatalogAcceptedResponse}
    (h : parseCatalogAcceptedResponse parse body componentId serverInstanceId descriptorCount =
      .ok response) :
    response.serverInstanceId = serverInstanceId ∧ 1 ≤ response.catalogGeneration ∧
      response.descriptorCount = descriptorCount := by
  simp only [parseCatalogAcceptedResponse, bind_eq_ok, ensure_eq_ok, Bool.and_eq_true, bne_iff_ne,
    beq_iff_eq] at h
  obtain ⟨_, _, _, _, server, _, _, _, generation, _, _, _, _, _, _, _, _, h, heq⟩ := h
  cases heq
  obtain ⟨⟨⟨⟨⟨_, hserver⟩, hgeneration⟩, _⟩, _⟩, _⟩ := h
  exact ⟨hserver, Nat.one_le_iff_ne_zero.mpr hgeneration, rfl⟩

def requireMember {α : Type} (object : JsonObject) (key : String) (read : JsonValue → Option α)
    (what : String) : Except Exception α :=
  match (object.find? (ascii key)).bind read with
  | some value => .ok value
  | none => invalid what

def JsonValue.asArray : JsonValue → Option (List JsonValue)
  | .array items => some items
  | _ => none

def JsonValue.asBool : JsonValue → Option Bool
  | .bool value => some value
  | _ => none

/-- Null, or an object. -/
def JsonValue.asProjection : JsonValue → Option Unit
  | .null => some ()
  | .object _ => some ()
  | _ => none

def parseLifecycleAcceptedResponse (parse : JsonParser) (body : ByteString) :
    Except Exception PilotLifecycleAcceptedResponse := do
  let object ← requireJsonObject parse body "Pilot lifecycle response must be a JSON object."
  ensure (object.length == 2 && isAccepted object) "Pilot lifecycle response is not accepted."
  let snapshot ← requireMember object "snapshot" JsonValue.asObject
    "Pilot lifecycle response has no snapshot."
  ensure (snapshot.length == 6) "Pilot lifecycle snapshot has unknown or missing fields."
  let serverInstanceId ← requireIdentifier snapshot "server_instance_id"
  let _ ← requireNonNegativeInteger snapshot "revision"
  let _ ← requireNonNegativeInteger snapshot "created_at_ns"
  let shape := "Pilot lifecycle snapshot shape is invalid."
  let readiness ← requireMember snapshot "readiness" JsonValue.asObject shape
  let _ ← requireMember snapshot "components" JsonValue.asArray shape
  let control ← requireMember snapshot "control" JsonValue.asObject shape
  ensure (readiness.length == 7) "Pilot lifecycle readiness has unknown or missing fields."
  let _ ← ["api_ready", "control_connected", "component_registry_ready", "active_source_ready",
      "required_observations_ready", "command_forwarding_enabled"].mapM fun key =>
    requireMember readiness key JsonValue.asBool "Pilot lifecycle readiness flag is invalid."
  let reasons ← requireMember readiness "degraded_reasons" JsonValue.asArray
    "Pilot lifecycle degraded reasons are invalid."
  ensure (reasons.all fun reason => reason.asString.isSome)
    "Pilot lifecycle degraded reason is invalid."
  ensure (control.length == 5) "Pilot lifecycle control has unknown or missing fields."
  let _ ← ["gateway", "robot_state", "status", "last_delivery", "last_external_operation"].mapM
    fun key => requireMember control key JsonValue.asProjection
      "Pilot lifecycle control projection is invalid."
  .ok { serverInstanceId }

end NodusVision.Pilot
