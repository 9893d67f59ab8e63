import NodusVision.Text.ClosedObject
import NodusVision.Text.JsonParse

/-! A value is read back from the text that it is serialized to. -/
namespace NodusVision.Text

variable {readDouble : ByteString → ℚ} {formatDouble : ℚ → ByteString}

/-- A literal name -/
theorem lexes_name {name : ByteString} {value : JsonValue} (hne : name.isEmpty = false)
    (h : name.all (fun b => !isJsonDelimiter b) = true)
    (hvalue : readScalar readDouble name = some value) :
    Lexes readDouble name [.scalar value] := by
  refine lexes_scalar (List.isEmpty_eq_false_iff.mp hne) ?_ hvalue
  intro b hb
  rw [← Bool.not_eq_true']
  exact List.all_eq_true.mp h b hb

mutual

theorem lexes_serialize {value : JsonValue} (h : value.isExact = true) :
    Lexes readDouble (value.serialize formatDouble) value.tokens := by
  cases value with
  | null =>
    have hnull : Lexes readDouble jsonNull [.scalar .null] :=
      lexes_name rfl (by decide) rfl
    exact hnull
  | bool value =>
    have hfalse : Lexes readDouble (ascii "false") [.scalar (.bool false)] :=
      lexes_name rfl (by decide) rfl
    have htrue : Lexes readDouble (ascii "true") [.scalar (.bool true)] :=
      lexes_name rfl (by decide) rfl
    cases value with
    | false => exact hfalse
    | true => exact htrue
  | int64 value =>
    obtain ⟨hlow, hhigh⟩ := of_decide_eq_true h
    exact lexes_jsonInt (readScalar_int64 hlow hhigh)
  | uint64 value =>
    obtain ⟨hlow, hhigh⟩ := of_decide_eq_true h
    exact lexes_jsonNat (readScalar_uint64 hlow hhigh)
  | double value => cases h
  | infinity negative => cases h
  | string value => exact lexes_string value
  | array items => exact (Lexes.intercalate (lexes_items h)).enclosed rfl rfl
  | object members => exact (Lexes.intercalate (lexes_members h)).enclosed rfl rfl

theorem lexes_items {items : List JsonValue} (h : itemsAreExact items = true) :
    List.Forall₂ (Lexes readDouble) (serializeItems formatDouble items) (itemTokens items) := by
  cases items with
  | nil => exact .nil
  | cons item items =>
    rw [itemsAreExact, Bool.and_eq_true] at h
    exact .cons (lexes_serialize h.1) (lexes_items h.2)

theorem lexes_members {members : List (ByteString × JsonValue)}
    (h : membersAreExact members = true) :
    List.Forall₂ (Lexes readDouble)
      ((serializeMembers formatDouble members).map fun m => jsonString m.1 ++ [58] ++ m.2)
      (memberTokens members) := by
  cases members with
  | nil => exact .nil
  | cons m members =>
    obtain ⟨key, value⟩ := m
    rw [membersAreExact, Bool.and_eq_true] at h
    have hmember : Lexes readDouble (jsonString key ++ [58] ++ value.serialize formatDouble)
        ([.string key] ++ .colon :: value.tokens) := by
      rw [List.append_assoc, List.singleton_append]
      exact (lexes_string key).append rfl (lexes_serialize h.1)
    exact .cons hmember (lexes_members h.2)

end

/-- What comes after a value does not change how it is read. -/
def Parses (value : JsonValue) : Prop :=
  ∀ stack rest, parseTokens (.value stack) (value.tokens ++ rest) =
    parseTokens (.complete stack value) rest

/-- The rest of the items of an open array. -/
theorem parseTokens_items {items : List JsonValue} (h : ∀ item ∈ items, Parses item)
    (item : JsonValue) (hitem : Parses item) (stack : List JsonFrame) (front : List JsonValue)
    (rest : List JsonToken) :
    parseTokens (.value (.array front :: stack))
        (List.intercalate [.comma] (itemTokens (item :: items)) ++ .closeArray :: rest) =
      parseTokens (.complete stack (.array (front ++ item :: items))) rest := by
  induction items generalizing item front with
  | nil =>
    rw [itemTokens, itemTokens, List.intercalate_singleton, hitem]
    exact parseTokens_step rest rfl
  | cons second items ih =>
    have hcomma : parseStep (.complete (.array front :: stack) item) .comma =
        some (.value (.array (front ++ [item]) :: stack)) := rfl
    have hrest := ih (fun i hi => h i (List.mem_cons_of_mem second hi)) second
      (h second List.mem_cons_self) (front ++ [item])
    rw [itemTokens] at hrest
    rw [itemTokens, itemTokens, List.intercalate_cons_cons, List.append_assoc, List.append_assoc,
      hitem, List.singleton_append, parseTokens_step _ hcomma, hrest, List.append_assoc,
      List.singleton_append]

theorem insertMember_new {object : JsonObject} {key : ByteString} (value : JsonValue)
    (h : key ∉ object.map Prod.fst) : object.insertMember key value = object ++ [(key, value)] := by
  unfold JsonObject.insertMember
  rw [if_neg h]

theorem parseTokens_member {value : JsonValue} (hvalue : Parses value) (key : ByteString)
    (stack : List JsonFrame) (front : JsonObject) (rest : List JsonToken) :
    parseTokens (.member stack front) (([.string key] ++ .colon :: value.tokens) ++ rest) =
      parseTokens (.complete (.object front key :: stack) value) rest := by
  have hkey : parseStep (.member stack front) (.string key) = some (.colon stack front key) := rfl
  have hcolon : parseStep (.colon stack front key) .colon =
      some (.value (.object front key :: stack)) := rfl
  rw [List.append_assoc, List.singleton_append, List.cons_append, parseTokens_step _ hkey,
    parseTokens_step _ hcolon, hvalue]

theorem parseTokens_members {members : JsonObject} (h : ∀ m ∈ members, Parses m.2)
    (key : ByteString) (value : JsonValue) (hvalue : Parses value) (stack : List JsonFrame)
    (front : JsonObject) (hkeys : ((front ++ (key, value) :: members).map Prod.fst).Nodup)
    (rest : List JsonToken) :
    parseTokens (.member stack front) (List.intercalate [.comma]
        (memberTokens ((key, value) :: members)) ++ .closeObject :: rest) =
      parseTokens (.complete stack (.object (front ++ (key, value) :: members))) rest := by
  have hnew : key ∉ front.map Prod.fst := by
    rw [List.map_append, List.nodup_append] at hkeys
    intro hmem
    exact hkeys.2.2 key hmem key List.mem_cons_self rfl
  have hinsert := insertMember_new value hnew
  induction members generalizing key value front with
  | nil =>
    have hclose : parseStep (.complete (.object front key :: stack) value) .closeObject =
        some (.complete stack (.object (front.insertMember key value))) := rfl
    rw [memberTokens, memberTokens, List.intercalate_singleton, parseTokens_member hvalue,
      parseTokens_step rest hclose, hinsert]
  | cons second members ih =>
    obtain ⟨secondKey, secondValue⟩ := second
    have hcomma : parseStep (.complete (.object front key :: stack) value) .comma =
        some (.member stack (front.insertMember key value)) := rfl
    have hkeys' : ((front ++ [(key, value)] ++ (secondKey, secondValue) :: members).map
        Prod.fst).Nodup := by
      rw [List.append_assoc, List.singleton_append]
      exact hkeys
    have hnew' : secondKey ∉ (front ++ [(key, value)]).map Prod.fst := by
      rw [List.map_append, List.nodup_append] at hkeys'
      intro hmem
      exact hkeys'.2.2 secondKey hmem secondKey List.mem_cons_self rfl
    have hrest := ih (fun m hm => h m (List.mem_cons_of_mem _ hm)) secondKey secondValue
      (h _ List.mem_cons_self) (front ++ [(key, value)]) hkeys' hnew'
      (insertMember_new secondValue hnew')
    rw [memberTokens] at hrest
    rw [memberTokens, memberTokens, List.intercalate_cons_cons, List.append_assoc,
      List.append_assoc, parseTokens_member hvalue, List.singleton_append,
      parseTokens_step _ hcomma, hinsert, hrest, List.append_assoc, List.singleton_append]

theorem intercalate_first {α : Type} (separator first : List α) (others : List (List α)) :
    ∃ tail, List.intercalate separator (first :: others) = first ++ tail := by
  cases others with
  | nil => exact ⟨[], by rw [List.intercalate_singleton, List.append_nil]⟩
  | cons second others =>
    rw [List.intercalate_cons_cons, List.append_assoc]
    exact ⟨_, rfl⟩

/-- An array that is not empty starts with its first item. -/
theorem parseTokens_firstItem (item : JsonValue) (stack : List JsonFrame) (rest : List JsonToken) :
    parseTokens (.firstItem stack) (item.tokens ++ rest) =
      parseTokens (.value (.array [] :: stack)) (item.tokens ++ rest) := by
  have hsame (token : JsonToken) (others : List JsonToken) (htoken : token ≠ .closeArray) :
      parseTokens (.firstItem stack) (token :: others) =
        parseTokens (.value (.array [] :: stack)) (token :: others) := by
    rw [parseTokens_cons, parseTokens_cons]
    cases token <;> first | rfl | exact absurd rfl htoken
  cases item <;> exact hsame _ _ (by rintro ⟨⟩)

mutual

/-- The parser finds the value that the tokens were written for. -/
theorem parses_tokens {value : JsonValue} (h : value.hasUniqueKeys = true) : Parses value := by
  intro stack rest
  cases value with
  | array items =>
    have hopen : parseStep (.value stack) .openArray = some (.firstItem stack) := rfl
    rw [JsonValue.tokens, List.append_assoc, List.append_assoc, List.singleton_append,
      parseTokens_step _ hopen]
    cases items with
    | nil => exact parseTokens_step rest rfl
    | cons item items =>
      have hitems := parses_items h
      have hall := parseTokens_items (fun i hi => hitems i (List.mem_cons_of_mem item hi)) item
        (hitems item List.mem_cons_self) stack [] rest
      rw [itemTokens] at hall ⊢
      obtain ⟨tail, htail⟩ := intercalate_first [.comma] item.tokens (itemTokens items)
      rw [htail, List.append_assoc] at hall ⊢
      rw [List.singleton_append, parseTokens_firstItem, hall, List.nil_append]
  | object members =>
    have hopen : parseStep (.value stack) .openObject = some (.firstMember stack) := rfl
    rw [JsonValue.tokens, List.append_assoc, List.append_assoc, List.singleton_append,
      parseTokens_step _ hopen]
    obtain ⟨hkeys, hvalues⟩ := hasUniqueKeys_object h
    cases members with
    | nil => exact parseTokens_step rest rfl
    | cons m members =>
      obtain ⟨key, value⟩ := m
      have hmembers := parses_members hvalues
      have hall := parseTokens_members (fun m hm => hmembers m (List.mem_cons_of_mem _ hm)) key value
        (hmembers _ List.mem_cons_self) stack [] hkeys rest
      have hkey : parseStep (.member stack []) (.string key) = some (.colon stack [] key) := rfl
      have hfirst : parseStep (.firstMember stack) (.string key) = some (.colon stack [] key) := rfl
      rw [memberTokens] at hall ⊢
      obtain ⟨tail, htail⟩ := intercalate_first [.comma] ([.string key] ++ .colon :: value.tokens)
        (memberTokens members)
      rw [htail, List.append_assoc, List.append_assoc, List.singleton_append] at hall ⊢
      rw [parseTokens_step _ hkey] at hall
      rw [parseTokens_step _ hfirst]
      exact hall
  | _ => exact parseTokens_step rest rfl

theorem parses_items {items : List JsonValue} (h : itemsHaveUniqueKeys items = true) :
    ∀ item ∈ items, Parses item := by
  cases items with
  | nil => exact fun item hitem => absurd hitem List.not_mem_nil
  | cons first items =>
    rw [itemsHaveUniqueKeys, Bool.and_eq_true] at h
    intro item hitem
    rcases List.mem_cons.mp hitem with hfirst | hrest
    · rw [hfirst]
      exact parses_tokens h.1
    · exact parses_items h.2 item hrest

theorem parses_members {members : List (ByteString × JsonValue)}
    (h : membersHaveUniqueKeys members = true) : ∀ m ∈ members, Parses m.2 := by
  cases members with
  | nil => exact fun m hm => absurd hm List.not_mem_nil
  | cons first members =>
    obtain ⟨key, value⟩ := first
    rw [membersHaveUniqueKeys, Bool.and_eq_true] at h
    intro m hm
    rcases List.mem_cons.mp hm with hfirst | hrest
    · rw [hfirst]
      exact parses_tokens h.1
    · exact parses_members h.2 m hrest

end

/-- A value that is written as text is read back from it. -/
theorem parseJson_serialize {value : JsonValue} (hexact : value.isExact = true)
    (hkeys : value.hasUniqueKeys = true) :
    parseJson readDouble (value.serialize formatDouble) = some value := by
  have hlex : lex readDouble .between (value.serialize formatDouble ++ []) = _ :=
    lexes_serialize hexact [] (by rintro b ⟨⟩)
  have hend : lex readDouble .between [] = some [] := rfl
  have hparse := parses_tokens hkeys [] []
  rw [List.append_nil, hend, Option.map_some, List.append_nil] at hlex
  rw [List.append_nil] at hparse
  rw [parseJson, hlex, Option.bind_some, hparse]
  rfl

/-- Two values are not written as one text. -/
theorem serialize_injective {value other : JsonValue} (hexact : value.isExact = true)
    (hkeys : value.hasUniqueKeys = true) (hexact' : other.isExact = true)
    (hkeys' : other.hasUniqueKeys = true)
    (h : value.serialize formatDouble = other.serialize formatDouble) : value = other := by
  let readDouble : ByteString → ℚ := fun _ => 0
  have hread : parseJson readDouble (value.serialize formatDouble) = some value :=
    parseJson_serialize hexact hkeys
  have hread' : parseJson readDouble (other.serialize formatDouble) = some other :=
    parseJson_serialize hexact' hkeys'
  rw [h, hread'] at hread
  exact (Option.some.inj hread).symm

end NodusVision.Text
