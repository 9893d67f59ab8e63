import Mathlib.Algebra.Order.Monoid.Unbundled.WithTop
import Mathlib.Algebra.Order.Ring.Unbundled.Rat
import Mathlib.Algebra.Ring.Rat
import NodusVision.Program.Throw
import NodusVision.Text.JsonValue

/-! The strict parser of the Vision configuration. -/
namespace NodusVision.Config
open Text Program

structure ProviderConfig where
  bindHost : ByteString
  port : ℤ
  advertisedBaseUrl : ByteString
  maxConnections : ℤ
  maxStreamClients : ℤ
  requestTimeoutMs : ℤ
  maxHeaderBytes : ℤ
  maxBodyBytes : ℤ
  maxFrameAgeMs : ℤ
  allowedOrigins : List ByteString

structure PilotConfig where
  enabled : Bool
  baseUrl : ByteString
  clockDomain : ByteString
  connectTimeoutMs : ℤ
  requestTimeoutMs : ℤ
  maxResponseBytes : ℤ
  retryInitialDelayMs : ℤ
  retryMaxDelayMs : ℤ
  shutdownTimeoutMs : ℤ

structure RecordingConfig where
  enabled : Bool
  root : ByteString
  queueCapacityFrames : ℤ
  maxDurationMs : ℤ
  minimumFreeBytes : ℕ
  finalizeTimeoutMs : ℤ
  bitRateBps : ℤ
  preset : ByteString
  tune : ByteString

/-- A floating-point number other than NaN, which no text is parsed to. -/
abbrev FloatingPoint := WithBot (WithTop ℚ)

/-- The doubles are finite. -/
structure MountLocalTransform where
  x : ℚ
  y : ℚ
  z : ℚ
  r1 : ℚ
  r2 : ℚ
  r3 : ℚ
  eulerType : ByteString

structure CalibrationConfig where
  calibrationId : ByteString
  sensorFrame : ByteString
  mountFrame : ByteString
  mountLocalTransform : MountLocalTransform

structure FakeCameraAdapterConfig where
  width : ℤ
  height : ℤ
  fps : ℤ
  startFrameNumber : ℤ
  patternSeed : ℤ

structure IntelD435AdapterConfig where
  serialNumber : ByteString
  depthWidth : ℤ
  depthHeight : ℤ
  depthFps : ℤ
  enableColor : Bool
  colorWidth : ℤ
  colorHeight : ℤ
  colorFps : ℤ
  depthMinM : FloatingPoint
  depthMaxM : FloatingPoint

/-- The member of `device` that the configuration selects. -/
inductive DeviceConfig where
  | fake (config : FakeCameraAdapterConfig)
  | intelD435 (config : IntelD435AdapterConfig)

structure VisionConfig where
  schemaVersion : ℤ
  deviceId : ByteString
  componentId : ByteString
  device : DeviceConfig
  calibration : CalibrationConfig
  provider : ProviderConfig
  pilot : PilotConfig
  recording : RecordingConfig

/-- What the parser throws: `std::invalid_argument`, the `boost::system::system_error` of `as_bool` and
`as_double`, or the `std::out_of_range` of `std::stoi`. -/
inductive ConfigError where
  | invalidArgument (what : String)
  | systemError
  | outOfRange
  deriving DecidableEq

abbrev Parsed (α : Type) := Except ConfigError α

def reject {α : Type} (path reason : String) : Parsed α :=
  .error (.invalidArgument (path ++ ": " ++ reason))

/-- Reject unless the condition holds. -/
def check (condition : Bool) (path reason : String) : Parsed Unit :=
  if condition then .ok () else reject path reason

def requireField (object : JsonObject) (key path : String) : Parsed JsonValue :=
  match object.find? (ascii key) with
  | some value => .ok value
  | none => reject path "required field is missing."

def requireObject (object : JsonObject) (key path : String) : Parsed JsonObject := do
  match (← requireField object key path).asObject with
  | some value => .ok value
  | none => reject path "must be an object."

def isControl (c : UInt8) : Bool := c < 32 || c == 127

def requireString (object : JsonObject) (key path : String) : Parsed ByteString := do
  match (← requireField object key path).asString with
  | some value =>
    if value.isEmpty || decide (128 < value.length) then
      reject path "must be a non-empty bounded string."
    else if value.any isControl then reject path "must not contain control characters."
    else .ok value
  | none => reject path "must be a non-empty bounded string."

def requireStringAllowEmpty (object : JsonObject) (key path : String) : Parsed ByteString := do
  match (← requireField object key path).asString with
  | some value =>
    if 128 < value.length then reject path "must be a bounded string."
    else if value.any isControl then reject path "must not contain control characters."
    else .ok value
  | none => reject path "must be a bounded string."

/-- `static_cast<std::int64_t>` of an unsigned 64-bit number. -/
def toInt64 (value : ℕ) : ℤ := if value < 2 ^ 63 then value else (value : ℤ) - 2 ^ 64

def requireBoundedInt (object : JsonObject) (key path : String) (minimum maximum : ℤ) :
    Parsed ℤ := do
  let parsed ← match ← requireField object key path with
    | .int64 value => .ok value
    | .uint64 value => .ok (toInt64 value)
    | _ => reject path "must be an integer."
  if parsed < minimum ∨ maximum < parsed then reject path "is outside the allowed range."
  else .ok parsed

def requireBoundedUint64 (object : JsonObject) (key path : String) (minimum maximum : ℕ) :
    Parsed ℕ := do
  let parsed ← match ← requireField object key path with
    | .int64 value => if value < 0 then reject path "must be non-negative." else .ok value.toNat
    | .uint64 value => .ok value
    | _ => reject path "must be an integer."
  if parsed < minimum ∨ maximum < parsed then reject path "is outside the allowed range."
  else .ok parsed

def requireBool (object : JsonObject) (key path : String) : Parsed Bool := do
  match ← requireField object key path with
  | .bool value => .ok value
  | _ => reject path "must be a boolean."

def showBytes (bytes : ByteString) : String := String.ofList (bytes.map fun b => Char.ofNat b.toNat)

def rejectUnknownFields (object : JsonObject) (allowed : List String) (path : String) :
    Parsed Unit :=
  match List.find? (fun member => !(allowed.map ascii).contains member.1) object with
  | some member => reject (path ++ "/" ++ showBytes member.1) "unknown field."
  | none => .ok ()

def isDigit (c : UInt8) : Bool := 48 ≤ c && c ≤ 57

/-- `std::stoi` of decimal digits. -/
def stoi (digits : ByteString) : Parsed ℕ :=
  let value := digits.foldl (fun n c => 10 * n + (c.toNat - 48)) 0
  if value ≤ 2147483647 then .ok value else .error .outOfRange

def httpPrefix : ByteString := ascii "http://"

/-- The text between the scheme and the path. -/
def authority (url : ByteString) : ByteString := (url.drop httpPrefix.length).takeWhile (· != 47)

/-- The text after the last ':', if there is one. -/
def portText (authority : ByteString) : ByteString :=
  (authority.reverse.takeWhile (· != 58)).reverse

def isAdvertisedUrlValid (url : ByteString) : Parsed Bool :=
  if !httpPrefix.isPrefixOf url || url.tails.any (ascii "0.0.0.0").isPrefixOf ||
      (ascii "*@?#").any url.contains then .ok false
  else
    let digits := portText (authority url)
    if !(authority url).contains 58 || digits.length + 1 == (authority url).length ||
        digits.isEmpty || !digits.all isDigit then .ok false
    else do
      let port ← stoi digits
      .ok (decide (1 ≤ port) && decide (port ≤ 65535))

def getUrlPort (url : ByteString) : Parsed ℕ := stoi (portText (authority url))

/-- Entries after those in `seen`. -/
def requireOrigins (path : String) (seen : List ByteString) :
    List JsonValue → Parsed (List ByteString)
  | [] => .ok seen
  | item :: rest => do
    let origin ← match item.asString with
      | some value =>
        if value.isEmpty || decide (128 < value.length) then
          reject path "entries must be non-empty bounded strings."
        else if value.any isControl then
          reject path "entries must not contain control characters."
        else .ok value
      | none => reject path "entries must be non-empty bounded strings."
    check ((← isAdvertisedUrlValid origin) && !(origin.drop httpPrefix.length).contains 47) path
      "entries must be exact non-wildcard HTTP origins with an explicit port."
    check (!seen.contains origin) path "duplicate origin is not allowed."
    requireOrigins path (seen ++ [origin]) rest

def requireAllowedOrigins (object : JsonObject) (key path : String) :
    Parsed (List ByteString) := do
  match ← requireField object key path with
  | .array items =>
    check (decide (items.length ≤ 16)) path "must be a bounded array."
    requireOrigins path [] items
  | _ => reject path "must be a bounded array."

/-- The origins are optional. -/
def parseAllowedOrigins (provider : JsonObject) : Parsed (List ByteString) :=
  if (provider.find? (ascii "allowed_origins")).isSome then
    requireAllowedOrigins provider "allowed_origins" "/provider/allowed_origins"
  else .ok []

def supportedEulerTypes : List ByteString :=
  ["XYZ", "XZY", "YXZ", "YZX", "ZXY", "ZYX", "ZXZ", "ZYZ"].map ascii

def isEulerTypeSupported (eulerType : ByteString) : Bool := supportedEulerTypes.contains eulerType

/-- Conversions between number formats, which round. -/
structure Rounding where
  /-- `to_number<double>` of an integer. -/
  toDouble : ℤ → ℚ
  /-- `static_cast<float>` of a finite double, which may overflow. -/
  toFloat : ℚ → FloatingPoint

/-- `std::isfinite` fails for the infinities. -/
def requireFiniteNumber (rounding : Rounding) (object : JsonObject) (key path : String) :
    Parsed ℚ := do
  match ← requireField object key path with
  | .double value => .ok value
  | .int64 value => .ok (rounding.toDouble value)
  | .uint64 value => .ok (rounding.toDouble value)
  | _ => reject path "must be a finite number."

def infinite (negative : Bool) : FloatingPoint := if negative then ⊥ else ⊤

/-- `as_double` throws on every other kind, integers included. -/
def requireFloat (rounding : Rounding) (object : JsonObject) (key path : String) :
    Parsed FloatingPoint := do
  match ← requireField object key path with
  | .double value => .ok (rounding.toFloat value)
  | .infinity negative => .ok (infinite negative)
  | _ => .error .systemError

/-- `as_bool` throws on every other kind. -/
def requireAsBool (object : JsonObject) (key path : String) : Parsed Bool := do
  match ← requireField object key path with
  | .bool value => .ok value
  | _ => .error .systemError

def validateIntelD435AdapterConfig (config : IntelD435AdapterConfig) : Parsed Unit :=
  if config.depthWidth ≤ 0 ∨ config.depthHeight ≤ 0 ∨ config.depthFps ≤ 0 ∨
      (config.enableColor = true ∧
        (config.colorWidth ≤ 0 ∨ config.colorHeight ≤ 0 ∨ config.colorFps ≤ 0)) ∨
      config.depthMinM < 0 ∨ config.depthMaxM ≤ 0 ∨ config.depthMaxM < config.depthMinM then
    .error (.invalidArgument "Intel D435 stream profile or depth range is invalid.")
  else .ok ()

def parseFake (device : JsonObject) : Parsed FakeCameraAdapterConfig := do
  check (device.find? (ascii "intel_d435")).isNone "/device/intel_d435"
    "inactive adapter configuration is not allowed."
  let fake ← requireObject device "fake" "/device/fake"
  rejectUnknownFields fake ["width", "height", "fps", "start_frame_number", "pattern_seed"]
    "/device/fake"
  let width ← requireBoundedInt fake "width" "/device/fake/width" 1 4096
  let height ← requireBoundedInt fake "height" "/device/fake/height" 1 4096
  let fps ← requireBoundedInt fake "fps" "/device/fake/fps" 1 240
  let startFrameNumber ← requireBoundedInt fake "start_frame_number"
    "/device/fake/start_frame_number" 1 1000000000
  let patternSeed ← requireBoundedInt fake "pattern_seed" "/device/fake/pattern_seed" 0 255
  .ok { width, height, fps, startFrameNumber, patternSeed }

def parseIntelD435 (rounding : Rounding) (device : JsonObject) : Parsed IntelD435AdapterConfig := do
  check (device.find? (ascii "fake")).isNone "/device/fake"
    "inactive adapter configuration is not allowed."
  let d435 ← requireObject device "intel_d435" "/device/intel_d435"
  rejectUnknownFields d435 ["serial_number", "depth_width", "depth_height", "depth_fps",
    "color_width", "color_height", "color_fps", "enable_color", "depth_min_m", "depth_max_m"]
    "/device/intel_d435"
  let bounded (key : String) (maximum : ℤ) : Parsed ℤ :=
    requireBoundedInt d435 key ("/device/intel_d435/" ++ key) 1 maximum
  let serialNumber ← requireStringAllowEmpty d435 "serial_number"
    "/device/intel_d435/serial_number"
  let depthWidth ← bounded "depth_width" 4096
  let depthHeight ← bounded "depth_height" 4096
  let depthFps ← bounded "depth_fps" 240
  let colorWidth ← bounded "color_width" 4096
  let colorHeight ← bounded "color_height" 4096
  let colorFps ← bounded "color_fps" 240
  let enableColor ← requireAsBool d435 "enable_color" "/device/intel_d435/enable_color"
  let depthMinM ← requireFloat rounding d435 "depth_min_m" "/device/intel_d435/depth_min_m"
  let depthMaxM ← requireFloat rounding d435 "depth_max_m" "/device/intel_d435/depth_max_m"
  let config : IntelD435AdapterConfig :=
    { serialNumber, depthWidth, depthHeight, depthFps, enableColor, colorWidth, colorHeight,
      colorFps, depthMinM, depthMaxM }
  validateIntelD435AdapterConfig config
  .ok config

def parseDevice (rounding : Rounding) (root : JsonObject) : Parsed DeviceConfig := do
  let device ← requireObject root "device" "/device"
  rejectUnknownFields device ["adapter", "fake", "intel_d435"] "/device"
  let adapter ← requireString device "adapter" "/device/adapter"
  if adapter = ascii "fake" then do
    let config ← parseFake device
    .ok (.fake config)
  else if adapter = ascii "intel_d435" then do
    let config ← parseIntelD435 rounding device
    .ok (.intelD435 config)
  else reject "/device/adapter" "unsupported adapter."

def maxMountTranslationM : ℚ := 10

def isTranslationAllowed (value : ℚ) : Bool :=
  decide (-maxMountTranslationM ≤ value) && decide (value ≤ maxMountTranslationM)

def parseMountLocalTransform (rounding : Rounding) (calibration : JsonObject) :
    Parsed MountLocalTransform := do
  let path := "/calibration/mount_local_transform"
  let object ← requireObject calibration "mount_local_transform" path
  rejectUnknownFields object ["x", "y", "z", "r1", "r2", "r3", "euler_type"] path
  let number (key : String) : Parsed ℚ := requireFiniteNumber rounding object key (path ++ "/" ++ key)
  let x ← number "x"
  let y ← number "y"
  let z ← number "z"
  let r1 ← number "r1"
  let r2 ← number "r2"
  let r3 ← number "r3"
  let eulerType ← requireString object "euler_type" (path ++ "/euler_type")
  check (isTranslationAllowed x && isTranslationAllowed y && isTranslationAllowed z) path
    "translation is outside the allowed range."
  check (isEulerTypeSupported eulerType) (path ++ "/euler_type") "unsupported Euler convention."
  .ok { x, y, z, r1, r2, r3, eulerType }

def parseCalibration (rounding : Rounding) (root : JsonObject) : Parsed CalibrationConfig := do
  let calibration ← requireObject root "calibration" "/calibration"
  rejectUnknownFields calibration
    ["calibration_id", "sensor_frame", "mount_frame", "mount_local_transform"] "/calibration"
  let calibrationId ← requireString calibration "calibration_id" "/calibration/calibration_id"
  let sensorFrame ← requireString calibration "sensor_frame" "/calibration/sensor_frame"
  let mountFrame ← requireString calibration "mount_frame" "/calibration/mount_frame"
  let mountLocalTransform ← parseMountLocalTransform rounding calibration
  .ok { calibrationId, sensorFrame, mountFrame, mountLocalTransform }

def parseProvider (root : JsonObject) : Parsed ProviderConfig := do
  let provider ← requireObject root "provider" "/provider"
  rejectUnknownFields provider ["bind_host", "port", "advertised_base_url", "max_connections",
    "max_stream_clients", "request_timeout_ms", "max_header_bytes", "max_body_bytes",
    "max_frame_age_ms", "allowed_origins"] "/provider"
  let bounded (key : String) (minimum maximum : ℤ) : Parsed ℤ :=
    requireBoundedInt provider key ("/provider/" ++ key) minimum maximum
  let bindHost ← requireString provider "bind_host" "/provider/bind_host"
  let port ← bounded "port" 1 65535
  let advertisedBaseUrl ← requireString provider "advertised_base_url"
    "/provider/advertised_base_url"
  check (← isAdvertisedUrlValid advertisedBaseUrl) "/provider/advertised_base_url"
    "must be an absolute non-wildcard HTTP URL."
  let maxConnections ← bounded "max_connections" 1 1024
  let maxStreamClients ← bounded "max_stream_clients" 1 maxConnections
  let requestTimeoutMs ← bounded "request_timeout_ms" 1000 60000
  let maxHeaderBytes ← bounded "max_header_bytes" 1 1048576
  let maxBodyBytes ← bounded "max_body_bytes" 1 10485760
  let maxFrameAgeMs ← bounded "max_frame_age_ms" 1 60000
  let allowedOrigins ← parseAllowedOrigins provider
  let urlPort ← getUrlPort advertisedBaseUrl
  check (decide ((urlPort : ℤ) = port)) "/provider/advertised_base_url"
    "port must match /provider/port."
  .ok { bindHost, port, advertisedBaseUrl, maxConnections, maxStreamClients, requestTimeoutMs,
        maxHeaderBytes, maxBodyBytes, maxFrameAgeMs, allowedOrigins }

def parsePilot (root : JsonObject) : Parsed PilotConfig := do
  let pilot ← requireObject root "pilot" "/pilot"
  rejectUnknownFields pilot ["enabled", "base_url", "clock_domain", "connect_timeout_ms",
    "request_timeout_ms", "max_response_bytes", "retry_initial_delay_ms", "retry_max_delay_ms",
    "shutdown_timeout_ms"] "/pilot"
  let bounded (key : String) (minimum maximum : ℤ) : Parsed ℤ :=
    requireBoundedInt pilot key ("/pilot/" ++ key) minimum maximum
  let enabled ← requireBool pilot "enabled" "/pilot/enabled"
  let baseUrl ← requireString pilot "base_url" "/pilot/base_url"
  check (← isAdvertisedUrlValid baseUrl) "/pilot/base_url"
    "must be an absolute HTTP URL without userinfo, query, or fragment."
  let clockDomain ← requireString pilot "clock_domain" "/pilot/clock_domain"
  check (clockDomain == ascii "monotonic_same_host") "/pilot/clock_domain"
    "only monotonic_same_host is supported."
  let connectTimeoutMs ← bounded "connect_timeout_ms" 1000 60000
  let requestTimeoutMs ← bounded "request_timeout_ms" 1000 60000
  let maxResponseBytes ← bounded "max_response_bytes" 1 10485760
  let retryInitialDelayMs ← bounded "retry_initial_delay_ms" 1 60000
  let retryMaxDelayMs ← bounded "retry_max_delay_ms" 1 60000
  let shutdownTimeoutMs ← bounded "shutdown_timeout_ms" 1000 60000
  check (decide (retryInitialDelayMs ≤ retryMaxDelayMs)) "/pilot/retry_initial_delay_ms"
    "must not exceed /pilot/retry_max_delay_ms."
  .ok { enabled, baseUrl, clockDomain, connectTimeoutMs, requestTimeoutMs, maxResponseBytes,
        retryInitialDelayMs, retryMaxDelayMs, shutdownTimeoutMs }

/-- On the target platform a path is absolute when it starts with '/'. -/
def isAbsolutePath (path : ByteString) : Bool := path.head? == some 47

def parseRecording (root : JsonObject) : Parsed RecordingConfig := do
  let recording ← requireObject root "recording" "/recording"
  rejectUnknownFields recording ["enabled", "root", "queue_capacity_frames", "max_duration_ms",
    "minimum_free_bytes", "finalize_timeout_ms", "bit_rate_bps", "preset", "tune"] "/recording"
  let bounded (key : String) (minimum maximum : ℤ) : Parsed ℤ :=
    requireBoundedInt recording key ("/recording/" ++ key) minimum maximum
  let enabled ← requireBool recording "enabled" "/recording/enabled"
  let recordingRoot ← requireString recording "root" "/recording/root"
  check (isAbsolutePath recordingRoot) "/recording/root"
    "must be an absolute config-owned path."
  let queueCapacityFrames ← bounded "queue_capacity_frames" 1 4096
  let maxDurationMs ← bounded "max_duration_ms" 1 3600000
  let minimumFreeBytes ← requireBoundedUint64 recording "minimum_free_bytes"
    "/recording/minimum_free_bytes" 1 1099511627776
  let finalizeTimeoutMs ← bounded "finalize_timeout_ms" 1000 600000
  let bitRateBps ← bounded "bit_rate_bps" 1 100000000
  let preset ← requireString recording "preset" "/recording/preset"
  let tune ← requireString recording "tune" "/recording/tune"
  check (preset == ascii "veryfast" && tune == ascii "zerolatency") "/recording"
    "only the Phase 5 veryfast/zerolatency codec profile is supported."
  .ok { enabled, root := recordingRoot, queueCapacityFrames, maxDurationMs, minimumFreeBytes,
        finalizeTimeoutMs, bitRateBps, preset, tune }

/-- An enabled RGB profile with even dimensions. -/
def DeviceConfig.isRecordable : DeviceConfig → Bool
  | .fake config => config.width % 2 == 0 && config.height % 2 == 0
  | .intelD435 config =>
    config.enableColor && config.colorWidth % 2 == 0 && config.colorHeight % 2 == 0

def parseVisionConfig (parse : JsonParser) (rounding : Rounding) (jsonText : ByteString) :
    Parsed VisionConfig := do
  let root ← match (parse jsonText).bind JsonValue.asObject with
    | some root => .ok root
    | none => reject "/" "must be a JSON object."
  rejectUnknownFields root ["schema_version", "device_id", "component_id", "device", "calibration",
    "provider", "pilot", "recording"] "/"
  let schemaVersion ← requireBoundedInt root "schema_version" "/schema_version" 1 1
  let deviceId ← requireString root "device_id" "/device_id"
  let componentId ← requireString root "component_id" "/component_id"
  let device ← parseDevice rounding root
  let calibration ← parseCalibration rounding root
  let provider ← parseProvider root
  let pilot ← parsePilot root
  let recording ← parseRecording root
  check (!recording.enabled || device.isRecordable) "/recording/enabled"
    "requires an enabled even-dimension RGB color profile."
  .ok { schemaVersion, deviceId, componentId, device, calibration, provider, pilot, recording }

/-- A string that `requireString` returns. -/
structure BoundedText (value : ByteString) : Prop where
  ne_nil : value ≠ []
  length_le : value.length ≤ 128
  plain : value.any isControl = false

/-- What the parser guarantees about the strings that reach Pilot. -/
structure VisionConfig.Bounded (config : VisionConfig) : Prop where
  deviceId : BoundedText config.deviceId
  componentId : BoundedText config.componentId
  calibrationId : BoundedText config.calibration.calibrationId
  sensorFrame : BoundedText config.calibration.sensorFrame
  mountFrame : BoundedText config.calibration.mountFrame
  advertisedBaseUrl : BoundedText config.provider.advertisedBaseUrl
  clockDomain : config.pilot.clockDomain = ascii "monotonic_same_host"

@[simp] theorem reject_ne_ok {α : Type} {path reason : String} {a : α} :
    reject path reason ≠ .ok a := by
  simp [reject]

@[simp] theorem check_eq_ok {condition : Bool} {path reason : String} {u : Unit} :
    check condition path reason = .ok u ↔ condition = true := by
  cases condition <;> simp [check]

theorem requireString_bounded {object : JsonObject} {key path : String} {value : ByteString}
    (h : requireString object key path = .ok value) : BoundedText value := by
  simp only [requireString, bind_eq_ok] at h
  obtain ⟨found, -, h⟩ := h
  split at h
  · simp only [ite_eq_ok, reject_ne_ok, and_false, false_or] at h
    obtain ⟨hlength, hplain, heq⟩ := h
    cases heq
    simp only [Bool.or_eq_true, List.isEmpty_iff, decide_eq_true_eq, not_or, Nat.not_lt] at hlength
    exact ⟨hlength.1, hlength.2, by simpa using hplain⟩
  · simp at h

theorem parseCalibration_bounded {rounding : Rounding} {root : JsonObject}
    {calibration : CalibrationConfig} (h : parseCalibration rounding root = .ok calibration) :
    BoundedText calibration.calibrationId ∧ BoundedText calibration.sensorFrame ∧
      BoundedText calibration.mountFrame := by
  simp only [parseCalibration, bind_eq_ok] at h
  obtain ⟨_, _, _, _, calibrationId, hid, sensorFrame, hsensor, mountFrame, hmount, _, _, h⟩ := h
  cases h
  exact ⟨requireString_bounded hid, requireString_bounded hsensor, requireString_bounded hmount⟩

theorem parseProvider_bounded {root : JsonObject} {provider : ProviderConfig}
    (h : parseProvider root = .ok provider) : BoundedText provider.advertisedBaseUrl := by
  simp only [parseProvider, bind_eq_ok] at h
  obtain ⟨_, _, _, _, _, _, _, _, url, hurl, h⟩ := h
  obtain ⟨_, _, _, _, _, _, _, _, _, _, _, _, _, _, _, _, _, _, _, _, _, _, h⟩ := h
  cases h
  exact requireString_bounded hurl

theorem parsePilot_clockDomain {root : JsonObject} {pilot : PilotConfig}
    (h : parsePilot root = .ok pilot) : pilot.clockDomain = ascii "monotonic_same_host" := by
  simp only [parsePilot, bind_eq_ok, check_eq_ok] at h
  obtain ⟨_, _, _, _, _, _, _, _, _, _, _, _, clockDomain, _, _, hclock, h⟩ := h
  obtain ⟨_, _, _, _, _, _, _, _, _, _, _, _, _, _, h⟩ := h
  cases h
  simpa using hclock

theorem parseVisionConfig_bounded {parse : JsonParser} {rounding : Rounding} {jsonText : ByteString}
    {config : VisionConfig} (h : parseVisionConfig parse rounding jsonText = .ok config) :
    config.Bounded := by
  unfold parseVisionConfig at h
  split at h
  · simp only [bind_eq_ok] at h
    obtain ⟨_, _, _, _, _, _, deviceId, hdevice, componentId, hcomponent, h⟩ := h
    obtain ⟨_, _, calibration, hcalibration, provider, hprovider, pilot, hpilot, _, _, _, _, h⟩ := h
    cases h
    obtain ⟨hid, hsensor, hmount⟩ := parseCalibration_bounded hcalibration
    exact ⟨requireString_bounded hdevice, requireString_bounded hcomponent, hid, hsensor, hmount,
      parseProvider_bounded hprovider, parsePilot_clockDomain hpilot⟩
  · cases h

end NodusVision.Config
