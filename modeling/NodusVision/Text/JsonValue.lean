import Mathlib.Data.Rat.Defs
import NodusVision.Text.Json

/-! JSON values as Boost.JSON holds them, and the text that it serializes them to. -/
namespace NodusVision.Text

/-- Boost.JSON keeps signed, unsigned and floating-point numbers apart, and holds a number beyond the
finite doubles as an infinity. An object has its members in insertion order, each key once. -/
inductive JsonValue where
  | null
  | bool (value : Bool)
  | int64 (value : ℤ)
  | uint64 (value : ℕ)
  | double (value : ℚ)
  | infinity (negative : Bool)
  | string (value : ByteString)
  | array (items : List JsonValue)
  | object (members : List (ByteString × JsonValue))

abbrev JsonObject := List (ByteString × JsonValue)

/-- `if_contains` -/
def JsonObject.find? (object : JsonObject) (key : ByteString) : Option JsonValue :=
  (List.find? (fun m => m.1 == key) object).map Prod.snd

/-- `boost::json::parse` answers `none` on an error. -/
abbrev JsonParser := ByteString → Option JsonValue

def JsonValue.asString : JsonValue → Option ByteString
  | .string value => some value
  | _ => none

def JsonValue.asObject : JsonValue → Option JsonObject
  | .object members => some members
  | _ => none

mutual

/-- `boost::json::serialize`, with the text of floating-point numbers as a parameter. -/
def JsonValue.serialize (formatDouble : ℚ → ByteString) : JsonValue → ByteString
  | .null => jsonNull
  | .bool value => if value then ascii "true" else ascii "false"
  | .int64 value => jsonInt value
  | .uint64 value => jsonNat value
  | .double value => formatDouble value
  | .infinity negative => if negative then ascii "-1e99999" else ascii "1e99999"
  | .string value => jsonString value
  | .array items => jsonArray (serializeItems formatDouble items)
  | .object members => jsonObject (serializeMembers formatDouble members)

def serializeItems (formatDouble : ℚ → ByteString) : List JsonValue → List ByteString
  | [] => []
  | item :: items => item.serialize formatDouble :: serializeItems formatDouble items

def serializeMembers (formatDouble : ℚ → ByteString) :
    List (ByteString × JsonValue) → List (ByteString × ByteString)
  | [] => []
  | (key, value) :: members =>
    (key, value.serialize formatDouble) :: serializeMembers formatDouble members

end

example : (JsonValue.object [(ascii "id", .string (ascii "a")), (ascii "n", .array [.uint64 1])]).serialize
    (fun _ => []) = ascii "\x7b\"id\":\"a\",\"n\":[1]\x7d" := by decide

end NodusVision.Text
