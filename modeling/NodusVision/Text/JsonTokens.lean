import NodusVision.Text.JsonValue
import NodusVision.Text.UrlPath

/-! The tokens of a JSON text. -/
namespace NodusVision.Text

/-- Numbers and the three literal names are scalars. -/
inductive JsonToken where
  | openObject
  | closeObject
  | openArray
  | closeArray
  | colon
  | comma
  | string (value : ByteString)
  | scalar (value : JsonValue)

def isJsonSpace (b : UInt8) : Bool := b == 32 || b == 9 || b == 10 || b == 13

def jsonPunctuation (b : UInt8) : Option JsonToken :=
  if b = 123 then some .openObject
  else if b = 125 then some .closeObject
  else if b = 91 then some .openArray
  else if b = 93 then some .closeArray
  else if b = 58 then some .colon
  else if b = 44 then some .comma
  else none

/-- A byte that ends a number or a literal name. -/
def isJsonDelimiter (b : UInt8) : Bool := isJsonSpace b || b == 34 || (jsonPunctuation b).isSome

def isJsonDigit (b : UInt8) : Bool := 48 ≤ b && b ≤ 57

def readDigits (digits : ByteString) : ℕ := digits.foldl (fun n b => 10 * n + (b.toNat - 48)) 0

/-- The digits before a decimal point; only a lone zero starts with one. -/
def isIntegerPart (digits : ByteString) : Bool :=
  !digits.isEmpty && (digits.head? != some 48 || digits.length == 1)

def isExponent : ByteString → Bool
  | [] => true
  | mark :: rest =>
    let digits := match rest with
      | 43 :: digits => digits
      | 45 :: digits => digits
      | digits => digits
    (mark == 101 || mark == 69) && !digits.isEmpty && digits.all isJsonDigit

/-- A fraction and an exponent, each optional. -/
def isNumberTail : ByteString → Bool
  | 46 :: rest =>
    !(rest.takeWhile isJsonDigit).isEmpty && isExponent (rest.dropWhile isJsonDigit)
  | tail => isExponent tail

/-- An integer that neither of the 64-bit types holds is a floating-point number. -/
def readInteger (readDouble : ByteString → ℚ) (word : ByteString) (negative : Bool) (n : ℕ) :
    JsonValue :=
  if negative = true ∧ n ≤ 2 ^ 63 then .int64 (-(n : ℤ))
  else if negative = false ∧ n < 2 ^ 63 then .int64 n
  else if negative = false ∧ n < 2 ^ 64 then .uint64 n
  else .double (readDouble word)

/-- The value of a floating-point text is a parameter. -/
def readNumber (readDouble : ByteString → ℚ) (word : ByteString) : Option JsonValue :=
  let negative := word.head? == some 45
  let unsigned := if negative then word.tail else word
  let digits := unsigned.takeWhile isJsonDigit
  let tail := unsigned.dropWhile isJsonDigit
  if !isIntegerPart digits || !isNumberTail tail then none
  else if tail = [] then some (readInteger readDouble word negative (readDigits digits))
  else some (.double (readDouble word))

def readScalar (readDouble : ByteString → ℚ) (word : ByteString) : Option JsonValue :=
  if word = ascii "null" then some .null
  else if word = ascii "true" then some (.bool true)
  else if word = ascii "false" then some (.bool false)
  else readNumber readDouble word

/-- The escapes of one letter. -/
def unescape (b : UInt8) : Option UInt8 :=
  if b = 34 ∨ b = 92 ∨ b = 47 then some b
  else if b = 98 then some 8
  else if b = 102 then some 12
  else if b = 110 then some 10
  else if b = 114 then some 13
  else if b = 116 then some 9
  else none

def utf8Bytes (n : ℕ) : ByteString :=
  let continuation (shift : ℕ) := UInt8.ofNat (128 + n / 2 ^ shift % 64)
  if n < 0x80 then [UInt8.ofNat n]
  else if n < 0x800 then [UInt8.ofNat (192 + n / 2 ^ 6), continuation 0]
  else if n < 0x10000 then [UInt8.ofNat (224 + n / 2 ^ 12), continuation 6, continuation 0]
  else [UInt8.ofNat (240 + n / 2 ^ 18), continuation 12, continuation 6, continuation 0]

/-- What the lexer is inside of. A string has its content so far; `unicode` also has the high
surrogate that came before, and the value and the number of the hexadecimal digits. -/
inductive Lexing where
  | between
  | word (bytes : ByteString)
  | text (content : ByteString)
  | escape (content : ByteString)
  | unicode (content : ByteString) (high : Option ℕ) (value count : ℕ)
  | surrogate (content : ByteString) (high : ℕ)
  | surrogateEscape (content : ByteString) (high : ℕ)

/-- A UTF-16 code unit: surrogates come in pairs, the high one first. -/
def closeUnicode (content : ByteString) (high : Option ℕ) (unit : ℕ) : Option Lexing :=
  let isLow := decide (0xDC00 ≤ unit ∧ unit < 0xE000)
  match high with
  | some high =>
    if isLow then
      some (.text (content ++ utf8Bytes (0x10000 + (high - 0xD800) * 0x400 + (unit - 0xDC00))))
    else none
  | none =>
    if isLow then none
    else if 0xD800 ≤ unit ∧ unit < 0xDC00 then some (.surrogate content unit)
    else some (.text (content ++ utf8Bytes unit))

/-- The token that the byte is and what the lexer is inside of then. -/
def lexBetween (b : UInt8) : List JsonToken × Lexing :=
  if isJsonSpace b then ([], .between)
  else if b = 34 then ([], .text [])
  else match jsonPunctuation b with
    | some token => ([token], .between)
    | none => ([], .word [b])

/-- The bytes of a string are copied from 32 on, whether or not they are UTF-8. -/
def lexStep (readDouble : ByteString → ℚ) : Lexing → UInt8 → Option (List JsonToken × Lexing)
  | .between, b => some (lexBetween b)
  | .word bytes, b =>
    if isJsonDelimiter b then
      (readScalar readDouble bytes).map fun value =>
        (.scalar value :: (lexBetween b).1, (lexBetween b).2)
    else some ([], .word (bytes ++ [b]))
  | .text content, b =>
    if b = 34 then some ([.string content], .between)
    else if b = 92 then some ([], .escape content)
    else if b < 32 then none
    else some ([], .text (content ++ [b]))
  | .escape content, b =>
    if b = 117 then some ([], .unicode content none 0 0)
    else (unescape b).map fun c => ([], .text (content ++ [c]))
  | .unicode content high value count, b =>
    (hexValue b).bind fun digit =>
      if count < 3 then some ([], .unicode content high (16 * value + digit) (count + 1))
      else (closeUnicode content high (16 * value + digit)).map fun next => ([], next)
  | .surrogate content high, b => if b = 92 then some ([], .surrogateEscape content high) else none
  | .surrogateEscape content high, b =>
    if b = 117 then some ([], .unicode content (some high) 0 0) else none

/-- The tokens of the rest of a text. -/
def lex (readDouble : ByteString → ℚ) : Lexing → ByteString → Option (List JsonToken)
  | .between, [] => some []
  | .word bytes, [] => (readScalar readDouble bytes).map fun value => [.scalar value]
  | _, [] => none
  | state, b :: rest =>
    (lexStep readDouble state b).bind fun next => (lex readDouble next.2 rest).map (next.1 ++ ·)

variable {readDouble : ByteString → ℚ}

theorem lex_cons (state : Lexing) (b : UInt8) (rest : ByteString) :
    lex readDouble state (b :: rest) =
      (lexStep readDouble state b).bind fun next => (lex readDouble next.2 rest).map (next.1 ++ ·) := by
  cases state <;> rfl

/-- A step without a token. -/
theorem lex_silent {state next : Lexing} {b : UInt8} (rest : ByteString)
    (h : lexStep readDouble state b = some ([], next)) :
    lex readDouble state (b :: rest) = lex readDouble next rest := by
  rw [lex_cons, h, Option.bind_some]
  simp

theorem lex_emits {state next : Lexing} {b : UInt8} {token : JsonToken} (rest : ByteString)
    (h : lexStep readDouble state b = some ([token], next)) :
    lex readDouble state (b :: rest) = (lex readDouble next rest).map (token :: ·) := by
  rw [lex_cons, h, Option.bind_some]
  rfl

end NodusVision.Text
