import NodusVision.Text.JsonKeys
import NodusVision.Text.JsonRoundTrip

/-! What is documented of the parser that the program calls. -/
namespace NodusVision.Text

mutual

/-- The keys and the strings of the value are ASCII. -/
def JsonValue.isAscii : JsonValue → Bool
  | .string value => value.all (· < 128)
  | .array items => itemsAreAscii items
  | .object members => membersAreAscii members
  | _ => true

def itemsAreAscii : List JsonValue → Bool
  | [] => true
  | item :: items => item.isAscii && itemsAreAscii items

def membersAreAscii : List (ByteString × JsonValue) → Bool
  | [] => true
  | (key, value) :: members => key.all (· < 128) && value.isAscii && membersAreAscii members

end

/-- The depth that `parse_options` allows. -/
def maxParseDepth : ℕ := 32

/-- The parser refuses the empty text, keeps the keys of an object unique, and reads back what the
serializer writes, where the integers have the types that hold them and the strings are ASCII. -/
structure ReadsJson (parse : JsonParser) : Prop where
  empty : parse [] = none
  uniqueKeys : ∀ text value, parse text = some value → value.hasUniqueKeys = true
  serialized : ∀ (formatDouble : ℚ → ByteString) (value : JsonValue), value.isExact = true →
    value.hasUniqueKeys = true → value.isAscii = true → value.depth ≤ maxParseDepth →
      parse (value.serialize formatDouble) = some value

theorem parseJson_reads (readDouble : ByteString → ℚ) : ReadsJson (parseJson readDouble) where
  empty := rfl
  uniqueKeys _ _ h := parseJson_hasUniqueKeys h
  serialized _ _ hexact hunique _ _ := parseJson_serialize hexact hunique

end NodusVision.Text
