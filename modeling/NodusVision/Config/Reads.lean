import NodusVision.Config.Schema

/-! How the parser reads a document that it does not read by the schema: which numbers it wants stored
how, and which reads throw something else than `std::invalid_argument`. -/
namespace NodusVision.Config
open Text

def isStoredInteger (value : JsonValue) : Bool := value.asInteger.isSome

/-- The finite doubles round to `float`, and the infinities stay. -/
def floatOf (rounding : Rounding) : JsonValue → Option FloatingPoint
  | .double value => some (rounding.toFloat value)
  | .infinity negative => some (infinite negative)
  | _ => none

def isStoredDouble : JsonValue → Bool
  | .double _ => true
  | .infinity _ => true
  | _ => false

def isFinite (value : JsonValue) : Bool := (numberOf value).isSome

/-- An integer of the schema that is also stored as one. -/
def isStoredIn (minimum maximum : ℤ) (value : JsonValue) : Bool :=
  isInteger minimum maximum value && isStoredInteger value

def storesIntegers (object : JsonObject) (keys : List String) : Bool :=
  keys.all fun key => has object key isStoredInteger

/-- The numbers of the selected device, with its depth range in `float`. -/
def isDevicePlain (rounding : Rounding) (device : JsonObject) : Bool :=
  let d435 := memberOf device "intel_d435"
  if has device "adapter" (isOneOf ["fake"]) then storesIntegers (memberOf device "fake") fakeKeys
  else
    storesIntegers d435 (d435Profile.map Prod.fst) && has d435 "depth_min_m" isStoredDouble &&
      has d435 "depth_max_m" isStoredDouble && isDepthRange (floatOf rounding) device

def providerIntegers : List String :=
  ["port", "max_connections", "max_stream_clients", "request_timeout_ms", "max_header_bytes",
    "max_body_bytes", "max_frame_age_ms"]

def pilotIntegers : List String :=
  ["connect_timeout_ms", "request_timeout_ms", "max_response_bytes", "retry_initial_delay_ms",
    "retry_max_delay_ms", "shutdown_timeout_ms"]

def recordingIntegers : List String :=
  ["queue_capacity_frames", "max_duration_ms", "minimum_free_bytes", "finalize_timeout_ms",
    "bit_rate_bps"]

/-- The base URL has no control characters. -/
def isPilotPlain (pilot : JsonObject) : Bool :=
  storesIntegers pilot pilotIntegers && has pilot "base_url" (isString isPlain)

/-- The rotation is finite. -/
def isCalibrationPlain (calibration : JsonObject) : Bool :=
  ["r1", "r2", "r3"].all fun key => has (memberOf calibration "mount_local_transform") key isFinite

/-- The integers are stored as integers and the depth bounds as doubles, the range holds in `float`,
the rotation is finite, and the base URL of Pilot has no control characters. -/
def isConfigPlain (rounding : Rounding) (root : JsonObject) : Bool :=
  has root "schema_version" isStoredInteger && isDevicePlain rounding (memberOf root "device") &&
    isCalibrationPlain (memberOf root "calibration") &&
    storesIntegers (memberOf root "provider") providerIntegers &&
    isPilotPlain (memberOf root "pilot") &&
    storesIntegers (memberOf root "recording") recordingIntegers

/-- `std::stoi` takes the port of a URL that is otherwise well formed. -/
def isPortRead (url : ByteString) : Bool :=
  !hasUrlForm url || decide (portNumber url ≤ 2147483647)

/-- The members of the D435 in order, up to the reads that throw on another kind. -/
def isD435Read (o : JsonObject) : Bool :=
  !(hasOnly o d435Keys &&
      has o "serial_number" (isString fun value => decide (value.length ≤ 128) && isPlain value) &&
      d435Profile.all fun field => has o field.1 (isStoredIn 1 field.2)) ||
    mayHave o "enable_color" isBoolean && (!has o "enable_color" isBoolean ||
      mayHave o "depth_min_m" isStoredDouble && (!has o "depth_min_m" isStoredDouble ||
        mayHave o "depth_max_m" isStoredDouble))

def isDeviceRead (device : JsonObject) : Bool :=
  !(hasOnly device ["adapter", "fake", "intel_d435"] &&
      has device "adapter" (isOneOf ["intel_d435"]) && mayHave device "fake" fun _ => false) ||
    isD435Read (memberOf device "intel_d435")

/-- The origins after those in `seen`, up to one that is refused. -/
def areOriginsRead (seen : List ByteString) : List JsonValue → Bool
  | [] => true
  | .string origin :: rest =>
    !(isBounded origin && isPlain origin) || isPortRead origin &&
      (!(meetsUrlRule origin && !(origin.drop httpPrefix.length).contains 47 &&
          !seen.contains origin) ||
        areOriginsRead (seen ++ [origin]) rest)
  | _ :: _ => true

/-- The entries of an array that is not too long. -/
def isOriginsRead : JsonValue → Bool
  | .array items => !decide (items.length ≤ 16) || areOriginsRead [] items
  | _ => true

def isUrlRead (value : JsonValue) : Bool := !isBoundedString value || isString isPortRead value

def isProviderRead (o : JsonObject) : Bool :=
  !(hasOnly o providerKeys && has o "bind_host" isBoundedString &&
      has o "port" (isStoredIn 1 65535)) ||
    mayHave o "advertised_base_url" isUrlRead &&
      (!(has o "advertised_base_url" (fun value => isBoundedString value && isString meetsUrlRule value) &&
          has o "max_connections" (isStoredIn 1 1024) &&
          has o "max_stream_clients" (isStoredIn 1 1024) &&
          isOrdered o "max_stream_clients" "max_connections" &&
          has o "request_timeout_ms" (isStoredIn 1000 60000) &&
          has o "max_header_bytes" (isStoredIn 1 1048576) &&
          has o "max_body_bytes" (isStoredIn 1 10485760) &&
          has o "max_frame_age_ms" (isStoredIn 1 60000)) ||
        mayHave o "allowed_origins" isOriginsRead)

def isPilotRead (o : JsonObject) : Bool :=
  !(hasOnly o pilotKeys && has o "enabled" isBoolean) || mayHave o "base_url" isUrlRead

/-- No read that throws another exception is reached. A read is reached when the members before it are
accepted. -/
def isConfigRead (rounding : Rounding) (root : JsonObject) : Bool :=
  let device := memberOf root "device"
  let provider := memberOf root "provider"
  !(rootHead root && has root "schema_version" isStoredInteger) || isDeviceRead device &&
    (!(has root "device" deviceSchema && isDevicePlain rounding device &&
        has root "calibration" calibrationSchema &&
        isCalibrationPlain (memberOf root "calibration")) || isProviderRead provider &&
      (!(has root "provider" providerSchema && storesIntegers provider providerIntegers) ||
        isPilotRead (memberOf root "pilot")))

end NodusVision.Config
