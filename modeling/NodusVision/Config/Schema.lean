import NodusVision.Config.VisionConfig
import NodusVision.Text.Schema

/-! The configuration schema and the parser's additional rules, as tests of a JSON document. Patterns
and lengths are over bytes. -/
namespace NodusVision.Config
open Text

/-- A member that is there and passes the test. -/
def has (object : JsonObject) (key : String) (test : JsonValue → Bool) : Bool :=
  (object.find? (ascii key)).any test

/-- A member that is not there or passes the test. -/
def mayHave (object : JsonObject) (key : String) (test : JsonValue → Bool) : Bool :=
  (object.find? (ascii key)).all test

/-- `"additionalProperties": false` -/
def hasOnly (object : JsonObject) (allowed : List String) : Bool :=
  object.all fun member => (allowed.map ascii).contains member.1

def isObject (test : JsonObject → Bool) : JsonValue → Bool
  | .object members => test members
  | _ => false

/-- The finite number that is stored. -/
def numberOf : JsonValue → Option ℚ
  | .int64 value => some value
  | .uint64 value => some value
  | .double value => some value
  | _ => none

/-- A number without fraction is an integer, however it is stored. -/
def isInteger (minimum maximum : ℤ) (value : JsonValue) : Bool :=
  (numberOf value).any fun q => q.den == 1 && decide (minimum ≤ q.num) && decide (q.num ≤ maximum)

def isNumber (test : ℚ → Bool) (value : JsonValue) : Bool := (numberOf value).any test

/-- `"type": "number"` -/
def isAnyNumber : JsonValue → Bool
  | .infinity _ => true
  | value => (numberOf value).isSome

def isBoolean : JsonValue → Bool
  | .bool _ => true
  | _ => false

def isTrue : JsonValue → Bool
  | .bool value => value
  | _ => false

def isString (test : ByteString → Bool) : JsonValue → Bool
  | .string value => test value
  | _ => false

def isBounded (value : ByteString) : Bool := !value.isEmpty && decide (value.length ≤ 128)

def isPlain (value : ByteString) : Bool := !value.any isControl

/-- `bounded_string` -/
def isBoundedString : JsonValue → Bool := isString fun value => isBounded value && isPlain value

def isOneOf (values : List String) : JsonValue → Bool := isString (values.map ascii).contains

/-- The host that `(?!(?:0\.0\.0\.0|\*)[:/])` excludes. -/
def isWildcardHost (rest : ByteString) : Bool :=
  ["0.0.0.0:", "0.0.0.0/", "*:", "*/"].any fun host => (ascii host).isPrefixOf rest

/-- A pattern for what follows the scheme. -/
def matchesUrl (pattern : ByteString → Bool) (url : ByteString) : Bool :=
  httpPrefix.isPrefixOf url && !isWildcardHost (url.drop httpPrefix.length) &&
    pattern (url.drop httpPrefix.length)

/-- `[^\u0000-\u001F\u007F]+` -/
def advertisedPattern (rest : ByteString) : Bool := !rest.isEmpty && isPlain rest

/-- `(?!(?:[^/]*@))[^?#]+` -/
def baseUrlPattern (rest : ByteString) : Bool :=
  !(rest.takeWhile (· != 47)).contains 64 && !rest.isEmpty && !(ascii "?#").any rest.contains

/-- `[^/?#@\u0000-\u001F\u007F]+:[0-9]+`, which the last ':' splits. -/
def originPattern (rest : ByteString) : Bool :=
  let digits := portText rest
  let host := rest.take (rest.length - digits.length - 1)
  rest.contains 58 && !host.isEmpty && !(ascii "/?#@").any host.contains && isPlain host &&
    !digits.isEmpty && digits.all isDigit

/-- The parts of a URL that has a host and a port in digits, and nothing that is excluded. -/
def hasUrlForm (url : ByteString) : Bool :=
  httpPrefix.isPrefixOf url && !url.tails.any (ascii "0.0.0.0").isPrefixOf &&
    !(ascii "*@?#").any url.contains && (authority url).contains 58 &&
    (portText (authority url)).length + 1 != (authority url).length &&
    !(portText (authority url)).isEmpty && (portText (authority url)).all isDigit

def portNumber (url : ByteString) : ℕ :=
  (portText (authority url)).foldl (fun n c => 10 * n + (c.toNat - 48)) 0

/-- The rule for URLs. -/
def meetsUrlRule (url : ByteString) : Bool :=
  hasUrlForm url && decide (1 ≤ portNumber url) && decide (portNumber url ≤ 65535)

def isUrl (pattern : ByteString → Bool) : JsonValue → Bool :=
  isString fun url => isBounded url && matchesUrl pattern url && meetsUrlRule url

/-- The elements are pairwise different. -/
def areOrigins : List JsonValue → Bool
  | [] => true
  | item :: rest =>
    isUrl originPattern item && !rest.any (fun other => other.asString == item.asString) &&
      areOrigins rest

def isOriginArray : JsonValue → Bool
  | .array items => decide (items.length ≤ 16) && areOrigins items
  | _ => false

def fakeKeys : List String := ["width", "height", "fps", "start_frame_number", "pattern_seed"]

def fakeSchema : JsonValue → Bool := isObject fun o =>
  hasOnly o fakeKeys && has o "width" (isInteger 1 4096) && has o "height" (isInteger 1 4096) &&
    has o "fps" (isInteger 1 240) && has o "start_frame_number" (isInteger 1 1000000000) &&
    has o "pattern_seed" (isInteger 0 255)

def d435Profile : List (String × ℤ) :=
  [("depth_width", 4096), ("depth_height", 4096), ("depth_fps", 240), ("color_width", 4096),
    ("color_height", 4096), ("color_fps", 240)]

def d435Keys : List String :=
  ["serial_number", "depth_width", "depth_height", "depth_fps", "color_width", "color_height",
    "color_fps", "enable_color", "depth_min_m", "depth_max_m"]

/-- Without the bounds of the depth range. -/
def d435Schema : JsonValue → Bool := isObject fun o =>
  hasOnly o d435Keys &&
    has o "serial_number" (isString fun value => decide (value.length ≤ 128) && isPlain value) &&
    (d435Profile.all fun field => has o field.1 (isInteger 1 field.2)) &&
    has o "enable_color" isBoolean && has o "depth_min_m" isAnyNumber &&
    has o "depth_max_m" isAnyNumber

def deviceObject (o : JsonObject) : Bool :=
  hasOnly o ["adapter", "fake", "intel_d435"] && has o "adapter" (isOneOf ["fake", "intel_d435"]) &&
    mayHave o "fake" fakeSchema && mayHave o "intel_d435" d435Schema &&
    (!has o "adapter" (isOneOf ["fake"]) ||
      has o "fake" (fun _ => true) && mayHave o "intel_d435" fun _ => false) &&
    (!has o "adapter" (isOneOf ["intel_d435"]) ||
      has o "intel_d435" (fun _ => true) && mayHave o "fake" fun _ => false)

def deviceSchema : JsonValue → Bool := isObject deviceObject

/-- From -10 to 10 metres. -/
def isTranslation (q : ℚ) : Bool := decide (-10 ≤ q) && decide (q ≤ 10)

def mountLocalTransformSchema : JsonValue → Bool := isObject fun o =>
  hasOnly o ["x", "y", "z", "r1", "r2", "r3", "euler_type"] &&
    has o "x" (isNumber isTranslation) && has o "y" (isNumber isTranslation) &&
    has o "z" (isNumber isTranslation) && has o "r1" isAnyNumber && has o "r2" isAnyNumber &&
    has o "r3" isAnyNumber &&
    has o "euler_type" (isOneOf ["XYZ", "XZY", "YXZ", "YZX", "ZXY", "ZYX", "ZXZ", "ZYZ"])

def calibrationSchema : JsonValue → Bool := isObject fun o =>
  hasOnly o ["calibration_id", "sensor_frame", "mount_frame", "mount_local_transform"] &&
    has o "calibration_id" isBoundedString && has o "sensor_frame" isBoundedString &&
    has o "mount_frame" isBoundedString && has o "mount_local_transform" mountLocalTransformSchema

/-- Whether the first number is at most the second. -/
def isOrdered (object : JsonObject) (first second : String) : Bool :=
  has object first fun a => has object second fun b =>
    (numberOf a).any fun m => (numberOf b).any fun n => decide (m ≤ n)

def providerKeys : List String :=
  ["bind_host", "port", "advertised_base_url", "max_connections", "max_stream_clients",
    "request_timeout_ms", "max_header_bytes", "max_body_bytes", "max_frame_age_ms",
    "allowed_origins"]

/-- With the rules that the stream clients fit the connections and that the ports agree. -/
def providerSchema : JsonValue → Bool := isObject fun o =>
  hasOnly o providerKeys &&
    has o "bind_host" isBoundedString && has o "port" (isInteger 1 65535) &&
    has o "advertised_base_url" (isUrl advertisedPattern) &&
    has o "max_connections" (isInteger 1 1024) && has o "max_stream_clients" (isInteger 1 1024) &&
    has o "request_timeout_ms" (isInteger 1000 60000) &&
    has o "max_header_bytes" (isInteger 1 1048576) &&
    has o "max_body_bytes" (isInteger 1 10485760) && has o "max_frame_age_ms" (isInteger 1 60000) &&
    mayHave o "allowed_origins" isOriginArray && isOrdered o "max_stream_clients" "max_connections" &&
    has o "advertised_base_url" (isString fun url =>
      has o "port" (isNumber fun port => decide (port = portNumber url)))

def pilotKeys : List String :=
  ["enabled", "base_url", "clock_domain", "connect_timeout_ms", "request_timeout_ms",
    "max_response_bytes", "retry_initial_delay_ms", "retry_max_delay_ms", "shutdown_timeout_ms"]

/-- With the rule that the delays are ordered. -/
def pilotSchema : JsonValue → Bool := isObject fun o =>
  hasOnly o pilotKeys &&
    has o "enabled" isBoolean && has o "base_url" (isUrl baseUrlPattern) &&
    has o "clock_domain" (isOneOf ["monotonic_same_host"]) &&
    has o "connect_timeout_ms" (isInteger 1000 60000) &&
    has o "request_timeout_ms" (isInteger 1000 60000) &&
    has o "max_response_bytes" (isInteger 1 10485760) &&
    has o "retry_initial_delay_ms" (isInteger 1 60000) &&
    has o "retry_max_delay_ms" (isInteger 1 60000) &&
    has o "shutdown_timeout_ms" (isInteger 1000 60000) &&
    isOrdered o "retry_initial_delay_ms" "retry_max_delay_ms"

def recordingKeys : List String :=
  ["enabled", "root", "queue_capacity_frames", "max_duration_ms", "minimum_free_bytes",
    "finalize_timeout_ms", "bit_rate_bps", "preset", "tune"]

def recordingSchema : JsonValue → Bool := isObject fun o =>
  hasOnly o recordingKeys &&
    has o "enabled" isBoolean &&
    has o "root" (isString fun root => isBounded root && isAbsolutePath root && isPlain root) &&
    has o "queue_capacity_frames" (isInteger 1 4096) &&
    has o "max_duration_ms" (isInteger 1 3600000) &&
    has o "minimum_free_bytes" (isInteger 1 1099511627776) &&
    has o "finalize_timeout_ms" (isInteger 1000 600000) &&
    has o "bit_rate_bps" (isInteger 1 100000000) && has o "preset" (isOneOf ["veryfast"]) &&
    has o "tune" (isOneOf ["zerolatency"])

/-- The object under a key, empty when there is none. -/
def memberOf (object : JsonObject) (key : String) : JsonObject :=
  ((object.find? (ascii key)).bind JsonValue.asObject).getD []

def isEven (q : ℚ) : Bool := q.num % 2 == 0

/-- An enabled colour stream with even dimensions. -/
def isRecordableDevice (device : JsonObject) : Bool :=
  if has device "adapter" (isOneOf ["fake"]) then
    has (memberOf device "fake") "width" (isNumber isEven) &&
      has (memberOf device "fake") "height" (isNumber isEven)
  else
    has (memberOf device "intel_d435") "enable_color" isTrue &&
      has (memberOf device "intel_d435") "color_width" (isNumber isEven) &&
      has (memberOf device "intel_d435") "color_height" (isNumber isEven)

/-- The members before the device. -/
def rootHead (root : JsonObject) : Bool :=
  hasOnly root ["schema_version", "device_id", "component_id", "device", "calibration", "provider",
      "pilot", "recording"] &&
    has root "schema_version" (isInteger 1 1) && has root "device_id" isBoundedString &&
    has root "component_id" isBoundedString

/-- The schema and the rules, without those for the depth range. -/
def configSchema (root : JsonObject) : Bool :=
  rootHead root && has root "device" deviceSchema && has root "calibration" calibrationSchema &&
    has root "provider" providerSchema && has root "pilot" pilotSchema &&
    has root "recording" recordingSchema &&
    (!has (memberOf root "recording") "enabled" isTrue || isRecordableDevice (memberOf root "device"))

def isRange (low high : FloatingPoint) : Bool :=
  decide (0 ≤ low) && decide (0 < high) && decide (low ≤ high)

/-- The number of the document, as large as it may be. -/
def extendedOf : JsonValue → Option FloatingPoint
  | .infinity negative => some (infinite negative)
  | value => (numberOf value).map fun q => ((q : WithTop ℚ) : FloatingPoint)

/-- The depth range of a selected D435, with a reading of its numbers. -/
def isDepthRange (read : JsonValue → Option FloatingPoint) (device : JsonObject) : Bool :=
  let d435 := memberOf device "intel_d435"
  !has device "adapter" (isOneOf ["intel_d435"]) ||
    has d435 "depth_min_m" fun low => has d435 "depth_max_m" fun high =>
      (read low).any fun minimum => (read high).any fun maximum => isRange minimum maximum

/-- The document conforms to the schema and to the additional rules. -/
def conformsToSchema (root : JsonObject) : Bool :=
  configSchema root && isDepthRange extendedOf (memberOf root "device")

end NodusVision.Config
