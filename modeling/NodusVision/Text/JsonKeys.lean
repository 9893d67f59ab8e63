import NodusVision.Text.ClosedObject
import NodusVision.Text.JsonParse

/-! A parsed object has each of its keys once: the last member of a key replaces the others. -/
namespace NodusVision.Text

/-- The values of the frame that have been read so far have unique keys. -/
def JsonFrame.HasUniqueKeys : JsonFrame → Prop
  | .array items => itemsHaveUniqueKeys items = true
  | .object members _ => (JsonValue.object members).hasUniqueKeys = true

def HaveUniqueKeys (stack : List JsonFrame) : Prop := ∀ frame ∈ stack, frame.HasUniqueKeys

def Parsing.HasUniqueKeys : Parsing → Prop
  | .value stack | .firstItem stack | .firstMember stack => HaveUniqueKeys stack
  | .member stack members | .colon stack members _ =>
    HaveUniqueKeys stack ∧ (JsonValue.object members).hasUniqueKeys = true
  | .complete stack last => HaveUniqueKeys stack ∧ last.hasUniqueKeys = true

def JsonToken.HasUniqueKeys : JsonToken → Prop
  | .scalar value => value.hasUniqueKeys = true
  | _ => True

section
variable {readDouble : ByteString → ℚ} {object members : JsonObject} {key : ByteString} {value : JsonValue}
  {items : List JsonValue} {stack : List JsonFrame} {state next : Parsing} {token : JsonToken}

theorem itemsHaveUniqueKeys_iff :
    itemsHaveUniqueKeys items = true ↔ ∀ item ∈ items, item.hasUniqueKeys = true := by
  induction items with
  | nil => simp [itemsHaveUniqueKeys]
  | cons item items ih => simp [itemsHaveUniqueKeys, ih]

theorem membersHaveUniqueKeys_iff :
    membersHaveUniqueKeys object = true ↔ ∀ m ∈ object, m.2.hasUniqueKeys = true := by
  induction object with
  | nil => simp [membersHaveUniqueKeys]
  | cons m object ih =>
    obtain ⟨key, value⟩ := m
    simp [membersHaveUniqueKeys, ih]

theorem itemsHaveUniqueKeys_snoc (h : itemsHaveUniqueKeys items = true)
    (hvalue : value.hasUniqueKeys = true) : itemsHaveUniqueKeys (items ++ [value]) = true := by
  rw [itemsHaveUniqueKeys_iff] at h ⊢
  intro item hitem
  rcases List.mem_append.mp hitem with hold | hnew
  · exact h item hold
  · rw [List.mem_singleton.mp hnew]
    exact hvalue

/-- The keys after an insertion. -/
theorem insertMember_keys : (object.insertMember key value).map Prod.fst =
    if key ∈ object.map Prod.fst then object.map Prod.fst else object.map Prod.fst ++ [key] := by
  unfold JsonObject.insertMember
  split
  · rw [List.map_map]
    apply List.map_congr_left
    intro m hm
    rw [Function.comp_apply]
    split
    · rename_i hkey
      exact hkey.symm
    · rfl
  · rw [List.map_append, List.map_singleton]

theorem mem_insertMember {m : ByteString × JsonValue} (h : m ∈ object.insertMember key value) :
    m = (key, value) ∨ m ∈ object := by
  unfold JsonObject.insertMember at h
  split at h
  · obtain ⟨old, hold, heq⟩ := List.mem_map.mp h
    split at heq
    · exact .inl heq.symm
    · exact .inr (heq ▸ hold)
  · rcases List.mem_append.mp h with hold | hnew
    · exact .inr hold
    · exact .inl (List.mem_singleton.mp hnew)

theorem hasUniqueKeys_insertMember (h : (JsonValue.object object).hasUniqueKeys = true)
    (hvalue : value.hasUniqueKeys = true) :
    (JsonValue.object (object.insertMember key value)).hasUniqueKeys = true := by
  obtain ⟨hnodup, hmembers⟩ := hasUniqueKeys_object h
  rw [JsonValue.hasUniqueKeys, Bool.and_eq_true, decide_eq_true_eq]
  constructor
  · rw [insertMember_keys]
    split
    · exact hnodup
    · rename_i hnew
      rw [List.nodup_append]
      refine ⟨hnodup, List.nodup_singleton key, ?_⟩
      intro old hold new hmem heq
      rw [List.mem_singleton.mp hmem] at heq
      exact hnew (heq ▸ hold)
  · rw [membersHaveUniqueKeys_iff] at hmembers ⊢
    intro m hm
    rcases mem_insertMember hm with rfl | hold
    · exact hvalue
    · exact hmembers m hold

theorem haveUniqueKeys_cons {frame : JsonFrame} : HaveUniqueKeys (frame :: stack) ↔
    frame.HasUniqueKeys ∧ HaveUniqueKeys stack := List.forall_mem_cons

theorem hasUniqueKeys_parseValue (h : HaveUniqueKeys stack) (ht : token.HasUniqueKeys)
    (hs : parseValue stack token = some next) : next.HasUniqueKeys := by
  cases token with
  | string text =>
    cases hs
    exact ⟨h, rfl⟩
  | scalar value =>
    cases hs
    exact ⟨h, ht⟩
  | openArray | openObject =>
    cases hs
    exact h
  | _ => cases hs

theorem hasUniqueKeys_parseStep (h : state.HasUniqueKeys) (ht : token.HasUniqueKeys)
    (hs : parseStep state token = some next) : next.HasUniqueKeys := by
  have hempty : JsonFrame.HasUniqueKeys (.array []) := rfl
  unfold parseStep at hs
  split at hs
  · exact hasUniqueKeys_parseValue h ht hs
  · cases hs
    exact ⟨h, rfl⟩
  · exact hasUniqueKeys_parseValue (haveUniqueKeys_cons.mpr ⟨hempty, h⟩) ht hs
  · cases hs
    exact ⟨h, rfl⟩
  · cases hs
    exact ⟨h, rfl⟩
  · cases hs
    exact h
  · cases hs
    exact haveUniqueKeys_cons.mpr ⟨h.2, h.1⟩
  · cases hs
    obtain ⟨hitems, hstack⟩ := haveUniqueKeys_cons.mp h.1
    exact haveUniqueKeys_cons.mpr ⟨itemsHaveUniqueKeys_snoc hitems h.2, hstack⟩
  · cases hs
    obtain ⟨hitems, hstack⟩ := haveUniqueKeys_cons.mp h.1
    exact ⟨hstack, itemsHaveUniqueKeys_snoc hitems h.2⟩
  · cases hs
    obtain ⟨hmembers, hstack⟩ := haveUniqueKeys_cons.mp h.1
    exact ⟨hstack, hasUniqueKeys_insertMember hmembers h.2⟩
  · cases hs
    obtain ⟨hmembers, hstack⟩ := haveUniqueKeys_cons.mp h.1
    exact ⟨hstack, hasUniqueKeys_insertMember hmembers h.2⟩
  · cases hs

theorem hasUniqueKeys_parseTokens {tokens : List JsonToken} (h : state.HasUniqueKeys)
    (ht : ∀ token ∈ tokens, token.HasUniqueKeys) (hs : parseTokens state tokens = some value) :
    value.hasUniqueKeys = true := by
  induction tokens generalizing state with
  | nil =>
    cases state with
    | complete stack last =>
      cases stack with
      | nil =>
        cases hs
        exact h.2
      | cons frame stack => cases hs
    | _ => cases hs
  | cons token tokens ih =>
    rw [parseTokens_cons] at hs
    obtain ⟨next, hstep, hrest⟩ := Option.bind_eq_some_iff.mp hs
    obtain ⟨htoken, htokens⟩ := List.forall_mem_cons.mp ht
    exact ih (hasUniqueKeys_parseStep h htoken hstep) htokens hrest

theorem hasUniqueKeys_readScalar {word : ByteString} (h : readScalar readDouble word = some value) :
    value.hasUniqueKeys = true := by
  have hinteger (negative : Bool) (n : ℕ) :
      (readInteger readDouble word negative n).hasUniqueKeys = true := by
    unfold readInteger
    split_ifs <;> rfl
  simp only [readScalar, readNumber] at h
  split_ifs at h <;> cases h <;> first | exact hinteger _ _ | rfl

/-- Objects are not tokens, so a token has unique keys. -/
theorem hasUniqueKeys_lexBetween (b : UInt8) : ∀ token ∈ (lexBetween b).1, token.HasUniqueKeys := by
  unfold lexBetween jsonPunctuation
  split_ifs <;> simp [JsonToken.HasUniqueKeys]

theorem hasUniqueKeys_lexStep {lexing : Lexing} {b : UInt8} {emitted : List JsonToken × Lexing}
    (h : lexStep readDouble lexing b = some emitted) :
    ∀ token ∈ emitted.1, token.HasUniqueKeys := by
  unfold lexStep at h
  split at h
  · cases h
    exact hasUniqueKeys_lexBetween b
  · split at h
    · obtain ⟨value, hread, rfl⟩ := Option.map_eq_some_iff.mp h
      exact List.forall_mem_cons.mpr ⟨hasUniqueKeys_readScalar hread, hasUniqueKeys_lexBetween b⟩
    · cases h
      simp
  · split_ifs at h <;> cases h <;> simp [JsonToken.HasUniqueKeys]
  · split at h
    · cases h
      simp
    · obtain ⟨c, -, rfl⟩ := Option.map_eq_some_iff.mp h
      simp
  · obtain ⟨digit, -, h⟩ := Option.bind_eq_some_iff.mp h
    split at h
    · cases h
      simp
    · obtain ⟨c, -, rfl⟩ := Option.map_eq_some_iff.mp h
      simp
  · split at h <;> cases h
    simp
  · split at h <;> cases h
    simp

theorem hasUniqueKeys_lex {lexing : Lexing} {text : ByteString} {tokens : List JsonToken}
    (h : lex readDouble lexing text = some tokens) : ∀ token ∈ tokens, token.HasUniqueKeys := by
  induction text generalizing lexing tokens with
  | nil =>
    cases lexing with
    | between =>
      cases h
      simp
    | word bytes =>
      obtain ⟨value, hread, rfl⟩ := Option.map_eq_some_iff.mp h
      exact List.forall_mem_singleton.mpr (hasUniqueKeys_readScalar hread)
    | _ => cases h
  | cons b rest ih =>
    rw [lex_cons] at h
    obtain ⟨emitted, hstep, hrest⟩ := Option.bind_eq_some_iff.mp h
    obtain ⟨others, hothers, rfl⟩ := Option.map_eq_some_iff.mp hrest
    exact List.forall_mem_append.mpr ⟨hasUniqueKeys_lexStep hstep, ih hothers⟩

/-- In a parsed value every object has each key once. -/
theorem parseJson_hasUniqueKeys {text : ByteString} (h : parseJson readDouble text = some value) :
    value.hasUniqueKeys = true := by
  obtain ⟨tokens, hlex, htokens⟩ := Option.bind_eq_some_iff.mp h
  have hempty : (Parsing.value []).HasUniqueKeys :=
    fun frame hframe => absurd hframe List.not_mem_nil
  exact hasUniqueKeys_parseTokens hempty (hasUniqueKeys_lex hlex) htokens

end
end NodusVision.Text
