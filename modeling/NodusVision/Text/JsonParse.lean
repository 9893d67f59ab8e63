import NodusVision.Text.JsonLexing

/-! The value that the tokens of a JSON text stand for. -/
namespace NodusVision.Text

/-- An open array, or an open object whose member of this key is being read. -/
inductive JsonFrame where
  | array (items : List JsonValue)
  | object (members : JsonObject) (key : ByteString)

/-- What the parser expects next, inside of the open arrays and objects. -/
inductive Parsing where
  | value (stack : List JsonFrame)
  | firstItem (stack : List JsonFrame)
  | firstMember (stack : List JsonFrame)
  | member (stack : List JsonFrame) (members : JsonObject)
  | colon (stack : List JsonFrame) (members : JsonObject) (key : ByteString)
  | complete (stack : List JsonFrame) (value : JsonValue)

/-- A key that is there already keeps its place and gets the new value. -/
def JsonObject.insertMember (object : JsonObject) (key : ByteString) (value : JsonValue) :
    JsonObject :=
  if key ∈ object.map Prod.fst then
    object.map fun m => if m.1 = key then (key, value) else m
  else object ++ [(key, value)]

def parseValue (stack : List JsonFrame) : JsonToken → Option Parsing
  | .string value => some (.complete stack (.string value))
  | .scalar value => some (.complete stack value)
  | .openArray => some (.firstItem stack)
  | .openObject => some (.firstMember stack)
  | _ => none

def parseStep : Parsing → JsonToken → Option Parsing
  | .value stack, token => parseValue stack token
  | .firstItem stack, .closeArray => some (.complete stack (.array []))
  | .firstItem stack, token => parseValue (.array [] :: stack) token
  | .firstMember stack, .closeObject => some (.complete stack (.object []))
  | .firstMember stack, .string key => some (.colon stack [] key)
  | .member stack members, .string key => some (.colon stack members key)
  | .colon stack members key, .colon => some (.value (.object members key :: stack))
  | .complete (.array items :: stack) value, .comma =>
    some (.value (.array (items ++ [value]) :: stack))
  | .complete (.array items :: stack) value, .closeArray =>
    some (.complete stack (.array (items ++ [value])))
  | .complete (.object members key :: stack) value, .comma =>
    some (.member stack (members.insertMember key value))
  | .complete (.object members key :: stack) value, .closeObject =>
    some (.complete stack (.object (members.insertMember key value)))
  | _, _ => none

/-- The value of the rest of the tokens. -/
def parseTokens : Parsing → List JsonToken → Option JsonValue
  | .complete [] value, [] => some value
  | _, [] => none
  | state, token :: rest => (parseStep state token).bind fun next => parseTokens next rest

/-- JSON text of any nesting, with white space around its tokens. -/
def parseJson (readDouble : ByteString → ℚ) : JsonParser := fun text =>
  (lex readDouble .between text).bind (parseTokens (.value []))

mutual

/-- The tokens that a value is written with. -/
def JsonValue.tokens : JsonValue → List JsonToken
  | .string value => [.string value]
  | .array items => [.openArray] ++ List.intercalate [.comma] (itemTokens items) ++ [.closeArray]
  | .object members =>
    [.openObject] ++ List.intercalate [.comma] (memberTokens members) ++ [.closeObject]
  | value => [.scalar value]

def itemTokens : List JsonValue → List (List JsonToken)
  | [] => []
  | item :: items => item.tokens :: itemTokens items

def memberTokens : List (ByteString × JsonValue) → List (List JsonToken)
  | [] => []
  | (key, value) :: members => ([.string key] ++ .colon :: value.tokens) :: memberTokens members

end

mutual

/-- The text of the value is read back as this value: its numbers are integers of the type that
the reader gives them. -/
def JsonValue.isExact : JsonValue → Bool
  | .int64 value => decide (-2 ^ 63 ≤ value ∧ value < 2 ^ 63)
  | .uint64 value => decide (2 ^ 63 ≤ value ∧ value < 2 ^ 64)
  | .double _ => false
  | .infinity _ => false
  | .array items => itemsAreExact items
  | .object members => membersAreExact members
  | _ => true

def itemsAreExact : List JsonValue → Bool
  | [] => true
  | item :: items => item.isExact && itemsAreExact items

def membersAreExact : List (ByteString × JsonValue) → Bool
  | [] => true
  | (_, value) :: members => value.isExact && membersAreExact members

end

theorem parseTokens_cons (state : Parsing) (token : JsonToken) (rest : List JsonToken) :
    parseTokens state (token :: rest) =
      (parseStep state token).bind fun next => parseTokens next rest := by
  rw [parseTokens]

theorem parseTokens_step {state next : Parsing} {token : JsonToken} (rest : List JsonToken)
    (h : parseStep state token = some next) :
    parseTokens state (token :: rest) = parseTokens next rest := by
  rw [parseTokens_cons, h, Option.bind_some]

end NodusVision.Text
