import Mathlib.Data.List.Forall2
import Mathlib.Data.List.Nodup
import NodusVision.Text.JsonValue

/-! A part of JSON Schema: what a JSON value has to look like. -/
namespace NodusVision.Text

/-- Strings are bounded in UTF-8 bytes, which bounds their characters too. -/
inductive Schema where
  | text (nonEmpty : Bool) (maxBytes : ℕ)
  | string
  | boolean
  | choice (values : List ByteString)
  | integer (minimum maximum : ℤ)
  | null
  | diagnostic
  | array (minItems : ℕ) (maxItems : Option ℕ) (items : Schema)
  /-- All of the fields are required, and no other is allowed. -/
  | object (fields : List (ByteString × Schema))
  /-- An object of diagnostic values, with bounded names. -/
  | free (maxProperties : Option ℕ)
  /-- A bound on the encoded size and on the depth. -/
  | bounded (maxEncodedBytes maxDepth : ℕ) (schema : Schema)
  | oneOf (first second : Schema)

mutual

/-- A scalar has depth 1. -/
def JsonValue.depth : JsonValue → ℕ
  | .array items => itemsDepth items + 1
  | .object members => membersDepth members + 1
  | _ => 1

def itemsDepth : List JsonValue → ℕ
  | [] => 0
  | item :: items => max item.depth (itemsDepth items)

def membersDepth : List (ByteString × JsonValue) → ℕ
  | [] => 0
  | (_, value) :: members => max value.depth (membersDepth members)

end

def diagnosticBytes : ℕ := 1024

def diagnosticItems : ℕ := 128

/-- Whether the number is within the signed range without its least value. -/
def inNumberRange (value : ℚ) : Bool :=
  decide (-9223372036854775807 ≤ value) && decide (value ≤ 9223372036854775807)

mutual

/-- A `JsonDiagnosticValue`. -/
def isDiagnostic : JsonValue → Bool
  | .null => true
  | .bool _ => true
  | .int64 value => inNumberRange value
  | .uint64 value => inNumberRange value
  | .double value => inNumberRange value
  | .infinity _ => false
  | .string value => decide (value.length ≤ diagnosticBytes)
  | .array items => decide (items.length ≤ diagnosticItems) && areDiagnostic items
  | .object members => decide (members.length ≤ diagnosticItems) && areDiagnosticMembers members

def areDiagnostic : List JsonValue → Bool
  | [] => true
  | item :: items => isDiagnostic item && areDiagnostic items

def areDiagnosticMembers : List (ByteString × JsonValue) → Bool
  | [] => true
  | (key, value) :: members =>
    decide (key.length ≤ diagnosticBytes) && isDiagnostic value && areDiagnosticMembers members

end

def JsonValue.asInteger : JsonValue → Option ℤ
  | .int64 value => some value
  | .uint64 value => some value
  | _ => none

def withinLimit (limit : Option ℕ) (count : ℕ) : Bool := limit.all fun n => decide (count ≤ n)

mutual

/-- Whether the value satisfies the schema. -/
def conforms (formatDouble : ℚ → ByteString) : Schema → JsonValue → Bool
  | .text nonEmpty maxBytes, value =>
    value.asString.any fun s => !(nonEmpty && s.isEmpty) && decide (s.length ≤ maxBytes)
  | .string, value => value.asString.isSome
  | .boolean, value => match value with
    | .bool _ => true
    | _ => false
  | .choice values, value => value.asString.any values.contains
  | .integer minimum maximum, value =>
    value.asInteger.any fun n => decide (minimum ≤ n) && decide (n ≤ maximum)
  | .null, value => match value with
    | .null => true
    | _ => false
  | .diagnostic, value => isDiagnostic value
  | .array minItems maxItems schema, value => match value with
    | .array items =>
      decide (minItems ≤ items.length) && withinLimit maxItems items.length &&
        items.all (conforms formatDouble schema)
    | _ => false
  | .object fields, value => match value with
    | .object members =>
      (members.all fun m => (fields.map Prod.fst).contains m.1) &&
        haveFields formatDouble fields members
    | _ => false
  | .free maxProperties, value => match value with
    | .object members => withinLimit maxProperties members.length && areDiagnosticMembers members
    | _ => false
  | .bounded maxEncodedBytes maxDepth schema, value =>
    decide ((value.serialize formatDouble).length ≤ maxEncodedBytes) &&
      decide (value.depth ≤ maxDepth) && conforms formatDouble schema value
  | .oneOf first second, value =>
    (conforms formatDouble first value).xor (conforms formatDouble second value)

/-- Every field is there and satisfies its schema. -/
def haveFields (formatDouble : ℚ → ByteString) :
    List (ByteString × Schema) → List (ByteString × JsonValue) → Bool
  | [], _ => true
  | (key, schema) :: fields, members =>
    (JsonObject.find? members key).any (conforms formatDouble schema) &&
      haveFields formatDouble fields members

end

section
variable {formatDouble : ℚ → ByteString} {fields : List (ByteString × Schema)}
  {members : List (ByteString × JsonValue)}

theorem conforms_oneOf {first second : Schema} {value : JsonValue} :
    conforms formatDouble (.oneOf first second) value =
      (conforms formatDouble first value).xor (conforms formatDouble second value) := by
  rw [conforms]

theorem haveFields_iff : haveFields formatDouble fields members = true ↔
    ∀ f ∈ fields, ∃ value, JsonObject.find? members f.1 = some value ∧
      conforms formatDouble f.2 value = true := by
  induction fields with
  | nil => simp [haveFields]
  | cons f fields ih =>
    obtain ⟨key, schema⟩ := f
    simp only [haveFields, Bool.and_eq_true, Option.any_eq_true, ih, List.mem_cons,
      forall_eq_or_imp]

theorem find?_of_mem {key : ByteString} {value : JsonValue}
    (hnodup : (members.map Prod.fst).Nodup) (hmem : (key, value) ∈ members) :
    JsonObject.find? members key = some value := by
  unfold JsonObject.find?
  cases hfound : List.find? (fun m => m.1 == key) members with
  | none =>
    have := List.find?_eq_none.mp hfound _ hmem
    simp at this
  | some found =>
    have hkey : found.1 = key := by simpa using List.find?_some hfound
    have heq := List.inj_on_of_nodup_map hnodup (List.mem_of_find?_eq_some hfound) hmem hkey
    rw [heq]
    rfl

/-- An object whose members are the fields, in their order. -/
theorem conforms_object (hkeys : members.map Prod.fst = fields.map Prod.fst)
    (hnodup : (fields.map Prod.fst).Nodup) :
    conforms formatDouble (.object fields) (.object members) = true ↔
      List.Forall₂ (fun f m => conforms formatDouble f.2 m.2 = true) fields members := by
  have hknown : (members.all fun m => (fields.map Prod.fst).contains m.1) = true := by
    rw [← hkeys]
    simp only [List.all_eq_true, List.contains_iff_mem]
    exact fun m hm => List.mem_map_of_mem hm
  have hlength : fields.length = members.length := by
    have := congrArg List.length hkeys
    simpa using this.symm
  simp only [conforms, hknown, Bool.true_and, haveFields_iff, List.forall₂_iff_zip, hlength,
    true_and]
  have hnodup' : (members.map Prod.fst).Nodup := hkeys ▸ hnodup
  -- The member at the place of a field is the one that is found under its key.
  have hplace {f : ByteString × Schema} {m : ByteString × JsonValue}
      (hmem : (f, m) ∈ fields.zip members) : JsonObject.find? members f.1 = some m.2 := by
    obtain ⟨i, hi, heq⟩ := List.mem_iff_getElem.mp hmem
    simp only [List.getElem_zip, Prod.mk.injEq] at heq
    obtain ⟨rfl, rfl⟩ := heq
    simp only [List.length_zip] at hi
    have hkey : fields[i].1 = members[i].1 := by
      have h := congrArg (fun l => l[i]?) hkeys
      simp only [List.getElem?_map] at h
      rw [List.getElem?_eq_getElem (by omega), List.getElem?_eq_getElem (by omega)] at h
      simpa using h.symm
    rw [hkey]
    exact find?_of_mem hnodup' (List.getElem_mem _)
  constructor
  · intro h f m hmem
    obtain ⟨value, hfound, hvalue⟩ := h f (List.of_mem_zip hmem).1
    cases (hplace hmem).symm.trans hfound
    exact hvalue
  · intro h f hf
    obtain ⟨i, hi, rfl⟩ := List.mem_iff_getElem.mp hf
    have hmem : (fields[i], members[i]) ∈ fields.zip members := by
      refine List.mem_iff_getElem.mpr ⟨i, ?_, ?_⟩
      · simp only [List.length_zip]
        omega
      · rw [List.getElem_zip]
    exact ⟨members[i].2, hplace hmem, h hmem⟩

end
end NodusVision.Text
