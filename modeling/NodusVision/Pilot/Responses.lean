import NodusVision.Pilot.Contract
import NodusVision.Text.ClosedObject

/-! What the responses of Pilot have to look like, and which of them the codec accepts. -/
namespace NodusVision.Pilot
open Text Storage Program

/-- `ComponentRegistrationResponse` -/
def componentRegistrationResponse : Schema :=
  .object [(ascii "session_id", identifierSchema),
    (ascii "server_instance_id", identifierSchema),
    (ascii "accepted_protocol_version", .integer 1 1),
    (ascii "accepted_schema_versions", .array 1 (some 16) (.integer 1 1)),
    (ascii "heartbeat_interval_ms", positiveInt64),
    (ascii "lease_timeout_ms", positiveInt64),
    (ascii "server_time", nonNegativeInt64)]

def acceptedStatus : Schema := .choice [ascii "accepted"]

/-- `EndpointCatalogAcceptedResponse` -/
def endpointCatalogAcceptedResponse : Schema :=
  .object [(ascii "status", acceptedStatus),
    (ascii "server_instance_id", identifierSchema),
    (ascii "component_id", identifierSchema),
    (ascii "session_generation", positiveInt64),
    (ascii "catalog_generation", positiveInt64),
    (ascii "catalog_revision", positiveInt64),
    (ascii "descriptor_count", nonNegativeInt64)]

def readinessSchema : Schema :=
  .object [(ascii "api_ready", .boolean),
    (ascii "control_connected", .boolean),
    (ascii "component_registry_ready", .boolean),
    (ascii "active_source_ready", .boolean),
    (ascii "required_observations_ready", .boolean),
    (ascii "command_forwarding_enabled", .boolean),
    (ascii "degraded_reasons", .array 0 none .string)]

/-- The fields of the projections of a snapshot, each of which is a closed object. -/
structure ControlProjections where
  gateway : List (ByteString × Schema)
  robotState : List (ByteString × Schema)
  status : List (ByteString × Schema)
  lastDelivery : List (ByteString × Schema)
  lastExternalOperation : List (ByteString × Schema)

def nullable (fields : List (ByteString × Schema)) : Schema := .oneOf (.object fields) .null

def controlProjection (control : ControlProjections) : Schema :=
  .object [(ascii "gateway", nullable control.gateway),
    (ascii "robot_state", nullable control.robotState),
    (ascii "status", nullable control.status),
    (ascii "last_delivery", nullable control.lastDelivery),
    (ascii "last_external_operation", nullable control.lastExternalOperation)]

def pilotSnapshot (publicComponent : Schema) (control : ControlProjections) : Schema :=
  .object [(ascii "server_instance_id", identifierSchema),
    (ascii "revision", nonNegativeInt64),
    (ascii "created_at_ns", nonNegativeInt64),
    (ascii "readiness", readinessSchema),
    (ascii "components", .array 0 none publicComponent),
    (ascii "control", controlProjection control)]

/-- `LifecycleAcceptedResponse`, for any schema of the components. -/
def lifecycleAcceptedResponse (publicComponent : Schema) (control : ControlProjections) : Schema :=
  .object [(ascii "status", acceptedStatus),
    (ascii "snapshot", pilotSnapshot publicComponent control)]

/-- The member is an identifier of this value. -/
def HasIdentifier (object : JsonObject) (key : String) (value : ByteString) : Prop :=
  object.find? (ascii key) = some (.string value) ∧ 1 ≤ value.length ∧ value.length ≤ 128

/-- The member is an integer of the range. -/
def HasIntegerIn (object : JsonObject) (key : String) (minimum maximum : ℤ) : Prop :=
  ∃ n, HasInteger object key n ∧ minimum ≤ n ∧ n ≤ maximum

def IsAccepted (object : JsonObject) : Prop :=
  object.find? (ascii "status") = some (.string (ascii "accepted"))

def registrationKeys : List String :=
  ["session_id", "server_instance_id", "accepted_protocol_version", "accepted_schema_versions",
    "heartbeat_interval_ms", "lease_timeout_ms", "server_time"]

def catalogKeys : List String :=
  ["status", "server_instance_id", "component_id", "session_generation", "catalog_generation",
    "catalog_revision", "descriptor_count"]

def snapshotKeys : List String :=
  ["server_instance_id", "revision", "created_at_ns", "readiness", "components", "control"]

def readinessFlags : List String :=
  ["api_ready", "control_connected", "component_registry_ready", "active_source_ready",
    "required_observations_ready", "command_forwarding_enabled"]

def controlKeys : List String :=
  ["gateway", "robot_state", "status", "last_delivery", "last_external_operation"]

/-- The members of a registration response apart from the accepted schema versions. -/
structure Registers (object : JsonObject) (response : PilotRegistrationResponse) : Prop where
  keys : HasKeys object registrationKeys
  protocol : HasInteger object "accepted_protocol_version" 1
  sessionId : HasIdentifier object "session_id" response.sessionId
  serverInstanceId : HasIdentifier object "server_instance_id" response.serverInstanceId
  heartbeatIntervalMs : HasInteger object "heartbeat_interval_ms" response.heartbeatIntervalMs
  leaseTimeoutMs : HasInteger object "lease_timeout_ms" response.leaseTimeoutMs
  serverTimeNs : HasInteger object "server_time" response.serverTimeNs
  positive : 1 ≤ response.heartbeatIntervalMs
  lease : response.heartbeatIntervalMs < response.leaseTimeoutMs
  leaseRange : response.leaseTimeoutMs ≤ 9223372036854775807
  timeRange : response.serverTimeNs ≤ 9223372036854775807

/-- The accepted schema versions are integers from 0 on, and 1 is one of them. -/
structure AcceptsSchemaOne (object : JsonObject) (versions : List JsonValue) : Prop where
  found : object.find? (ascii "accepted_schema_versions") = some (.array versions)
  integers : ∀ version ∈ versions, ∃ n : ℕ, version.asInteger = some (n : ℤ)
  one : ∃ version ∈ versions, version.asInteger = some 1

/-- An accepted publication of a catalog. -/
structure AcceptsCatalog (object : JsonObject) (componentId serverInstanceId : ByteString)
    (descriptorCount : ℕ) : Prop where
  keys : HasKeys object catalogKeys
  status : IsAccepted object
  serverInstanceId : HasIdentifier object "server_instance_id" serverInstanceId
  componentId : HasIdentifier object "component_id" componentId
  sessionGeneration : HasIntegerIn object "session_generation" 1 9223372036854775807
  catalogGeneration : HasIntegerIn object "catalog_generation" 1 9223372036854775807
  catalogRevision : HasIntegerIn object "catalog_revision" 1 9223372036854775807
  count : HasInteger object "descriptor_count" descriptorCount
  countRange : descriptorCount ≤ 9223372036854775807

structure IsReadiness (readiness : JsonObject) : Prop where
  keys : HasKeys readiness (readinessFlags ++ ["degraded_reasons"])
  flags : ∀ key ∈ readinessFlags, ∃ value, readiness.find? (ascii key) = some (.bool value)
  reasons : ∃ reasons, readiness.find? (ascii "degraded_reasons") = some (.array reasons) ∧
    ∀ reason ∈ reasons, ∃ text, reason = .string text

structure IsControl (control : JsonObject) : Prop where
  keys : HasKeys control controlKeys
  members : ∀ key ∈ controlKeys, control.find? (ascii key) = some .null ∨
    ∃ projection, control.find? (ascii key) = some (.object projection)

structure IsSnapshot (snapshot : JsonObject) (serverInstanceId : ByteString) : Prop where
  keys : HasKeys snapshot snapshotKeys
  serverInstanceId : HasIdentifier snapshot "server_instance_id" serverInstanceId
  revision : HasIntegerIn snapshot "revision" 0 9223372036854775807
  createdAtNs : HasIntegerIn snapshot "created_at_ns" 0 9223372036854775807
  readiness : ∃ readiness, snapshot.find? (ascii "readiness") = some (.object readiness) ∧
    IsReadiness readiness
  components : ∃ components, snapshot.find? (ascii "components") = some (.array components)
  control : ∃ control, snapshot.find? (ascii "control") = some (.object control) ∧ IsControl control

/-- An accepted lifecycle write. -/
structure AcceptsLifecycle (object : JsonObject) (serverInstanceId : ByteString) : Prop where
  keys : HasKeys object ["status", "snapshot"]
  status : IsAccepted object
  snapshot : ∃ snapshot, object.find? (ascii "snapshot") = some (.object snapshot) ∧
    IsSnapshot snapshot serverInstanceId

section
variable {object : JsonObject} {key : String} {parse : JsonParser} {body : ByteString}

theorem hasIdentifier_iff {value : ByteString} :
    HasIdentifier object key value ↔ requireIdentifier object key = .ok value := by
  rw [requireIdentifier_eq_ok, HasIdentifier, ← List.length_pos_iff]
  rfl

theorem requireNonNegativeInteger_eq_ok {n : ℕ} : requireNonNegativeInteger object key = .ok n ↔
    HasInteger object key n ∧ n ≤ maxInt64Value := by
  unfold requireNonNegativeInteger HasInteger
  cases object.find? (ascii key) with
  | none => simp
  | some value =>
    cases value with
    | int64 value =>
      simp only [Option.bind_some, JsonValue.asInteger, Option.some.injEq]
      split
      · rename_i hneg
        constructor
        · intro h
          cases h
        · rintro ⟨rfl, -⟩
          omega
      · split
        · rename_i hbig
          constructor
          · intro h
            cases h
          · rintro ⟨rfl, hn⟩
            omega
        · rename_i hneg hbig
          constructor
          · intro h
            cases h
            omega
          · rintro ⟨rfl, -⟩
            rfl
    | uint64 value =>
      simp only [Option.bind_some, JsonValue.asInteger, Option.some.injEq, Int.natCast_inj]
      split
      · rename_i hbig
        constructor
        · intro h
          cases h
        · rintro ⟨rfl, hn⟩
          omega
      · rename_i hbig
        constructor
        · intro h
          cases h
          omega
        · rintro ⟨rfl, -⟩
          rfl
    | _ => simp [JsonValue.asInteger]

theorem requireJsonObject_eq_ok {what : String} : requireJsonObject parse body what = .ok object ↔
    parse body = some (.object object) := by
  unfold requireJsonObject
  cases parse body with
  | none => simp
  | some value => cases value <;> simp [JsonValue.asObject]

theorem isAccepted_iff : isAccepted object = true ↔ IsAccepted object := by
  unfold isAccepted IsAccepted
  cases object.find? (ascii "status") with
  | none => simp
  | some value => cases value <;> simp [JsonValue.asString]

theorem requireMember_eq_ok {α : Type} {read : JsonValue → Option α} {what : String} {a : α} :
    requireMember object key read what = .ok a ↔
      ∃ value, object.find? (ascii key) = some value ∧ read value = some a := by
  unfold requireMember
  cases object.find? (ascii key) with
  | none => simp
  | some value =>
    rw [Option.bind_some]
    cases hread : read value with
    | none => simp [hread]
    | some b => simp [hread]

theorem requireObject_eq_ok {what : String} {inner : JsonObject} :
    requireMember object key JsonValue.asObject what = .ok inner ↔
      object.find? (ascii key) = some (.object inner) := by
  rw [requireMember_eq_ok]
  constructor
  · rintro ⟨value, hfound, hread⟩
    cases value <;> cases hread
    exact hfound
  · intro hfound
    exact ⟨_, hfound, rfl⟩

theorem requireArray_eq_ok {what : String} {items : List JsonValue} :
    requireMember object key JsonValue.asArray what = .ok items ↔
      object.find? (ascii key) = some (.array items) := by
  rw [requireMember_eq_ok]
  constructor
  · rintro ⟨value, hfound, hread⟩
    cases value <;> cases hread
    exact hfound
  · intro hfound
    exact ⟨_, hfound, rfl⟩

theorem requireBool_succeeds {what : String} :
    Succeeds (requireMember object key JsonValue.asBool what) ↔
      ∃ value, object.find? (ascii key) = some (.bool value) := by
  constructor
  · rintro ⟨flag, h⟩
    obtain ⟨value, hfound, hread⟩ := requireMember_eq_ok.mp h
    cases value <;> cases hread
    exact ⟨flag, hfound⟩
  · rintro ⟨value, hfound⟩
    exact ⟨value, requireMember_eq_ok.mpr ⟨_, hfound, rfl⟩⟩

theorem requireProjection_succeeds {what : String} :
    Succeeds (requireMember object key JsonValue.asProjection what) ↔
      object.find? (ascii key) = some .null ∨
        ∃ projection, object.find? (ascii key) = some (.object projection) := by
  constructor
  · rintro ⟨_, h⟩
    obtain ⟨value, hfound, hread⟩ := requireMember_eq_ok.mp h
    cases value with
    | null => exact .inl hfound
    | object projection => exact .inr ⟨projection, hfound⟩
    | _ => cases hread
  · rintro (hfound | ⟨projection, hfound⟩)
    · exact ⟨(), requireMember_eq_ok.mpr ⟨_, hfound, rfl⟩⟩
    · exact ⟨(), requireMember_eq_ok.mpr ⟨_, hfound, rfl⟩⟩

/-- A list of reads succeeds where each of them does. -/
theorem mapM_succeeds {α β : Type} {f : α → Except Exception β} {items : List α} :
    Succeeds (items.mapM f) ↔ ∀ item ∈ items, Succeeds (f item) := by
  induction items with
  | nil =>
    constructor
    · intro _ item hitem
      cases hitem
    · intro _
      exact ⟨[], rfl⟩
  | cons item rest ih =>
    rw [List.mapM_cons, succeeds_bind, List.forall_mem_cons]
    constructor
    · rintro ⟨b, hb, hrest⟩
      obtain ⟨bs, hbs, -⟩ := succeeds_bind.mp hrest
      exact ⟨⟨b, hb⟩, ih.mp ⟨bs, hbs⟩⟩
    · rintro ⟨⟨b, hb⟩, hrest⟩
      obtain ⟨bs, hbs⟩ := ih.mpr hrest
      exact ⟨b, hb, succeeds_bind.mpr ⟨bs, hbs, succeeds_ok _⟩⟩

/-- The number of an accepted schema version. -/
def readVersion : JsonValue → Except Exception ℕ
  | .int64 value =>
    if value < 0 then invalid "Pilot accepted schema versions are invalid." else .ok value.toNat
  | .uint64 value => .ok value
  | _ => invalid "Pilot accepted schema versions are invalid."

theorem readVersion_eq_ok {version : JsonValue} {n : ℕ} :
    readVersion version = .ok n ↔ version.asInteger = some (n : ℤ) := by
  cases version with
  | int64 value =>
    simp only [readVersion, JsonValue.asInteger, Option.some.injEq]
    split
    · rename_i hneg
      constructor
      · intro h
        cases h
      · rintro rfl
        omega
    · constructor
      · intro h
        cases h
        omega
      · rintro rfl
        rfl
  | uint64 value => simp [readVersion, JsonValue.asInteger]
  | _ => simp [readVersion, JsonValue.asInteger]

theorem acceptsSchemaOne_cons {version : JsonValue} {rest : List JsonValue} {accepted : Bool} :
    acceptsSchemaOne (version :: rest) = .ok accepted ↔
      ∃ n, readVersion version = .ok n ∧ n ≤ 16 ∧
        ∃ others, acceptsSchemaOne rest = .ok others ∧ (n == 1 || others) = accepted := by
  have heq : acceptsSchemaOne (version :: rest) = readVersion version >>= fun n =>
      ensure (decide (n ≤ 16)) "Pilot accepted schema versions are invalid." >>= fun _ =>
        acceptsSchemaOne rest >>= fun others => .ok (n == 1 || others) := by
    cases version with
    | int64 value =>
      simp only [acceptsSchemaOne, readVersion]
      split
      · rfl
      · rfl
    | _ => rfl
  simp [heq, bind_eq_ok]

theorem acceptsSchemaOne_eq_ok {versions : List JsonValue} {accepted : Bool} :
    acceptsSchemaOne versions = .ok accepted ↔
      (∀ version ∈ versions, ∃ n : ℕ, version.asInteger = some (n : ℤ) ∧ n ≤ 16) ∧
        (accepted = true ↔ ∃ version ∈ versions, version.asInteger = some 1) := by
  induction versions generalizing accepted with
  | nil => cases accepted <;> simp [acceptsSchemaOne]
  | cons version rest ih =>
    have hone : ∀ n : ℕ, version.asInteger = some (n : ℤ) →
        (version.asInteger = some 1 ↔ n = 1) := by
      intro n hn
      rw [hn, Option.some.injEq]
      omega
    rw [acceptsSchemaOne_cons, List.forall_mem_cons, List.exists_mem_cons_iff]
    constructor
    · rintro ⟨n, hn, hn16, others, hothers, rfl⟩
      have hinteger := readVersion_eq_ok.mp hn
      obtain ⟨hall, hrest⟩ := ih.mp hothers
      refine ⟨⟨⟨n, hinteger, hn16⟩, hall⟩, ?_⟩
      rw [Bool.or_eq_true, hrest, hone n hinteger, beq_iff_eq]
    · rintro ⟨⟨⟨n, hinteger, hn16⟩, hall⟩, haccepted⟩
      classical
      refine ⟨n, readVersion_eq_ok.mpr hinteger, hn16,
        decide (∃ v ∈ rest, v.asInteger = some 1), ?_, ?_⟩
      · rw [ih]
        exact ⟨hall, decide_eq_true_iff⟩
      · rw [Bool.eq_iff_iff, haccepted, Bool.or_eq_true, decide_eq_true_eq, hone n hinteger,
          beq_iff_eq]

theorem requireSchemaVersions_eq_ok {versions : List JsonValue} :
    requireSchemaVersions object = .ok versions ↔
      object.find? (ascii "accepted_schema_versions") = some (.array versions) ∧ versions ≠ [] := by
  unfold requireSchemaVersions
  split
  · rename_i version rest hfound
    rw [hfound]
    constructor
    · intro h
      cases h
      exact ⟨rfl, List.cons_ne_nil _ _⟩
    · rintro ⟨heq, -⟩
      cases heq
      rfl
  · rename_i hother
    constructor
    · intro h
      cases h
    · rintro ⟨hfound, hne⟩
      obtain ⟨version, rest, rfl⟩ := List.exists_cons_of_ne_nil hne
      exact absurd hfound (hother version rest)

end
end NodusVision.Pilot
