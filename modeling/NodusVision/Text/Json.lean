import Mathlib.Data.List.Basic
import Mathlib.Algebra.Order.Ring.Int

/-! Byte strings and the compact JSON text that `boost::json::serialize` writes. -/
namespace NodusVision.Text

/-- A `std::string`: bytes without any encoding. -/
abbrev ByteString := List UInt8

/-- The bytes of an ASCII literal of the source. -/
def ascii (text : String) : ByteString :=
  text.toList.map fun c => UInt8.ofNat c.toNat

def hexDigit (n : ℕ) : UInt8 :=
  if n < 10 then UInt8.ofNat (48 + n) else UInt8.ofNat (87 + n)

/-- Escapes of the Boost.JSON serializer; other bytes are copied. -/
def escapeByte (b : UInt8) : ByteString :=
  if b = 34 then [92, 34]
  else if b = 92 then [92, 92]
  else if b = 8 then ascii "\\b"
  else if b = 12 then ascii "\\f"
  else if b = 10 then ascii "\\n"
  else if b = 13 then ascii "\\r"
  else if b = 9 then ascii "\\t"
  else if b < 32 then ascii "\\u00" ++ [hexDigit (b.toNat / 16), hexDigit (b.toNat % 16)]
  else [b]

def jsonString (s : ByteString) : ByteString :=
  [34] ++ s.flatMap escapeByte ++ [34]

def jsonNat (n : ℕ) : ByteString :=
  (Nat.toDigits 10 n).map fun c => UInt8.ofNat c.toNat

def jsonInt : ℤ → ByteString
  | Int.ofNat n => jsonNat n
  | Int.negSucc n => [45] ++ jsonNat (n + 1)

def jsonNull : ByteString := ascii "null"

def jsonArray (items : List ByteString) : ByteString :=
  [91] ++ List.intercalate [44] items ++ [93]

/-- Members keep the order in which the source inserts them. -/
def jsonObject (members : List (ByteString × ByteString)) : ByteString :=
  [123] ++ List.intercalate [44] (members.map fun m => jsonString m.1 ++ [58] ++ m.2) ++ [125]

example : jsonObject [(ascii "id", jsonString (ascii "a\"b")), (ascii "n", jsonInt (-12))] =
    ascii "\x7b\"id\":\"a\\\"b\",\"n\":-12\x7d" := by decide

end NodusVision.Text
