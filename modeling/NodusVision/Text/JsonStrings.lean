import NodusVision.Text.JsonParse

/-! The strings of a value that is read from a text. -/
namespace NodusVision.Text

variable {readDouble : ByteString → ℚ}

/-- The strings of a value, its keys apart. -/
inductive JsonValue.HasString (s : ByteString) : JsonValue → Prop where
  | here : HasString s (.string s)
  | item {items : List JsonValue} {item : JsonValue} (hmem : item ∈ items)
      (h : HasString s item) : HasString s (.array items)
  | member {members : JsonObject} {key : ByteString} {value : JsonValue}
      (hmem : (key, value) ∈ members) (h : HasString s value) : HasString s (.object members)

/-- The strings that the parser holds. -/
def JsonFrame.HasString (s : ByteString) : JsonFrame → Prop
  | .array items => ∃ item ∈ items, item.HasString s
  | .object members _ => ∃ m ∈ members, m.2.HasString s

def Parsing.HasString (s : ByteString) : Parsing → Prop
  | .value stack | .firstItem stack | .firstMember stack => ∃ frame ∈ stack, frame.HasString s
  | .member stack members | .colon stack members _ =>
    (∃ m ∈ members, m.2.HasString s) ∨ ∃ frame ∈ stack, frame.HasString s
  | .complete stack last => last.HasString s ∨ ∃ frame ∈ stack, frame.HasString s

/-- The scalars of the lexer have no strings in them. -/
def JsonToken.HasString (s : ByteString) : JsonToken → Prop
  | .string value => value = s
  | .scalar value => value.HasString s
  | _ => False

theorem hasString_insertMember {s key : ByteString} {object : JsonObject} {value : JsonValue}
    (h : ∃ m ∈ object.insertMember key value, m.2.HasString s) :
    value.HasString s ∨ ∃ m ∈ object, m.2.HasString s := by
  obtain ⟨m, hm, hstring⟩ := h
  unfold JsonObject.insertMember at hm
  split at hm
  · obtain ⟨old, hold, rfl⟩ := List.mem_map.mp hm
    split at hstring
    · exact .inl hstring
    · exact .inr ⟨old, hold, hstring⟩
  · rcases List.mem_append.mp hm with hold | hnew
    · exact .inr ⟨m, hold, hstring⟩
    · rw [List.mem_singleton.mp hnew] at hstring
      exact .inl hstring

theorem hasString_parseValue {s : ByteString} {stack : List JsonFrame} {token : JsonToken}
    {next : Parsing} (hstep : parseValue stack token = some next) (h : next.HasString s) :
    (∃ frame ∈ stack, frame.HasString s) ∨ token.HasString s := by
  cases token with
  | string value =>
    cases hstep
    rcases h with h | h
    · cases h
      exact .inr rfl
    · exact .inl h
  | scalar value =>
    cases hstep
    exact h.symm
  | openArray =>
    cases hstep
    exact .inl h
  | openObject =>
    cases hstep
    exact .inl h
  | _ => cases hstep

theorem hasString_snoc {s : ByteString} {items : List JsonValue} {last : JsonValue}
    {stack : List JsonFrame} (h : ∃ item ∈ items ++ [last], item.HasString s) :
    (Parsing.complete (.array items :: stack) last).HasString s := by
  obtain ⟨item, hitem, hstring⟩ := h
  rcases List.mem_append.mp hitem with hitem | hlast
  · exact .inr ⟨.array items, List.mem_cons_self, item, hitem, hstring⟩
  · rw [List.mem_singleton.mp hlast] at hstring
    exact .inl hstring

theorem hasString_inserted {s key : ByteString} {members : JsonObject} {last : JsonValue}
    {stack : List JsonFrame} (h : ∃ m ∈ members.insertMember key last, m.2.HasString s) :
    (Parsing.complete (.object members key :: stack) last).HasString s := by
  rcases hasString_insertMember h with hlast | hmember
  · exact .inl hlast
  · exact .inr ⟨.object members key, List.mem_cons_self, hmember⟩

/-- A step of the parser invents no string. -/
theorem hasString_step {s : ByteString} {state next : Parsing} {token : JsonToken}
    (hstep : parseStep state token = some next) (h : next.HasString s) :
    state.HasString s ∨ token.HasString s := by
  unfold parseStep at hstep
  split at hstep
  · exact hasString_parseValue hstep h
  · cases hstep
    rcases h with h | h
    · cases h with
      | item hmem => cases hmem
    · exact .inl h
  · rcases hasString_parseValue hstep h with ⟨frame, hframe, hstring⟩ | h
    · rcases List.mem_cons.mp hframe with rfl | hframe
      · obtain ⟨item, hitem, _⟩ := hstring
        cases hitem
      · exact .inl ⟨frame, hframe, hstring⟩
    · exact .inr h
  · cases hstep
    rcases h with h | h
    · cases h with
      | member hmem => cases hmem
    · exact .inl h
  · cases hstep
    exact .inl (h.elim (fun ⟨m, hm, _⟩ => absurd hm List.not_mem_nil) id)
  · cases hstep
    exact .inl h
  · cases hstep
    obtain ⟨frame, hframe, hstring⟩ := h
    rcases List.mem_cons.mp hframe with rfl | hframe
    · exact .inl (.inl hstring)
    · exact .inl (.inr ⟨frame, hframe, hstring⟩)
  · cases hstep
    obtain ⟨frame, hframe, hstring⟩ := h
    rcases List.mem_cons.mp hframe with rfl | hframe
    · exact .inl (hasString_snoc hstring)
    · exact .inl (.inr ⟨frame, List.mem_cons_of_mem _ hframe, hstring⟩)
  · cases hstep
    rcases h with h | ⟨frame, hframe, hstring⟩
    · cases h with
      | item hmem h => exact .inl (hasString_snoc ⟨_, hmem, h⟩)
    · exact .inl (.inr ⟨frame, List.mem_cons_of_mem _ hframe, hstring⟩)
  · cases hstep
    rcases h with h | ⟨frame, hframe, hstring⟩
    · exact .inl (hasString_inserted h)
    · exact .inl (.inr ⟨frame, List.mem_cons_of_mem _ hframe, hstring⟩)
  · cases hstep
    rcases h with h | ⟨frame, hframe, hstring⟩
    · cases h with
      | member hmem h => exact .inl (hasString_inserted ⟨_, hmem, h⟩)
    · exact .inl (.inr ⟨frame, List.mem_cons_of_mem _ hframe, hstring⟩)
  · cases hstep

/-- The parser invents no string. -/
theorem hasString_of_parseTokens {s : ByteString} {state : Parsing} {tokens : List JsonToken}
    {value : JsonValue} (hparse : parseTokens state tokens = some value) (h : value.HasString s) :
    state.HasString s ∨ ∃ token ∈ tokens, token.HasString s := by
  induction tokens generalizing state with
  | nil =>
    cases state with
    | complete stack last =>
      cases stack with
      | nil =>
        cases hparse
        exact .inl (.inl h)
      | cons frame stack => cases hparse
    | _ => cases hparse
  | cons token tokens ih =>
    rw [parseTokens_cons] at hparse
    obtain ⟨next, hstep, hrest⟩ := Option.bind_eq_some_iff.mp hparse
    rcases ih hrest with hnext | ⟨other, hother, hstring⟩
    · rcases hasString_step hstep hnext with hstate | htoken
      · exact .inl hstate
      · exact .inr ⟨token, List.mem_cons_self, htoken⟩
    · exact .inr ⟨other, List.mem_cons_of_mem token hother, hstring⟩

theorem hasString_readInteger {s word : ByteString} (negative : Bool) (n : ℕ) :
    ¬ (readInteger readDouble word negative n).HasString s := by
  unfold readInteger
  intro h
  split_ifs at h <;> cases h

theorem hasString_readScalar {s word : ByteString} {value : JsonValue}
    (hread : readScalar readDouble word = some value) : ¬ value.HasString s := by
  intro h
  simp only [readScalar, readNumber] at hread
  split_ifs at hread <;> cases hread <;>
    first
      | exact hasString_readInteger _ _ h
      | cases h

/-- Outside of strings, or in one without escapes and quotation marks so far. -/
def Lexing.Unescaped : Lexing → Prop
  | .between => True
  | .word _ => True
  | .text content => 34 ∉ content
  | _ => False

theorem lexBetween_unescaped (b : UInt8) :
    (lexBetween b).2.Unescaped ∧ ∀ s, ∀ token ∈ (lexBetween b).1, ¬ token.HasString s := by
  unfold lexBetween jsonPunctuation
  split_ifs <;> simp [Lexing.Unescaped, JsonToken.HasString]

/-- A string is over at the first quotation mark that no backslash escapes. -/
theorem lexStep_unescaped {state : Lexing} {b : UInt8} {next : List JsonToken × Lexing}
    (hstep : lexStep readDouble state b = some next) (hb : b ≠ 92) (h : state.Unescaped) :
    next.2.Unescaped ∧ ∀ s, ∀ token ∈ next.1, token.HasString s → 34 ∉ s := by
  obtain ⟨hbetween, hnone⟩ := lexBetween_unescaped b
  cases state with
  | between =>
    cases hstep
    exact ⟨hbetween, fun s token htoken hs => absurd hs (hnone s token htoken)⟩
  | word bytes =>
    rw [lexStep] at hstep
    split at hstep
    · obtain ⟨value, hread, rfl⟩ := Option.map_eq_some_iff.mp hstep
      refine ⟨hbetween, fun s token htoken hs => ?_⟩
      rcases List.mem_cons.mp htoken with rfl | htoken
      · exact absurd hs (hasString_readScalar hread)
      · exact absurd hs (hnone s token htoken)
    · cases hstep
      exact ⟨trivial, fun s token htoken => absurd htoken List.not_mem_nil⟩
  | text content =>
    rw [lexStep, if_neg hb] at hstep
    split at hstep
    · cases hstep
      refine ⟨trivial, fun s token htoken hs => ?_⟩
      rw [List.mem_singleton.mp htoken] at hs
      rw [← hs]
      exact h
    · rename_i hquote
      split at hstep
      · cases hstep
      · cases hstep
        refine ⟨?_, fun s token htoken => absurd htoken List.not_mem_nil⟩
        intro hmem
        rcases List.mem_append.mp hmem with hmem | hmem
        · exact h hmem
        · exact hquote (List.mem_singleton.mp hmem).symm
  | _ => exact absurd h id

theorem lex_unescaped {state : Lexing} {text : ByteString} {tokens : List JsonToken}
    (hlex : lex readDouble state text = some tokens) (htext : 92 ∉ text) (h : state.Unescaped) :
    ∀ s, ∀ token ∈ tokens, token.HasString s → 34 ∉ s := by
  induction text generalizing state tokens with
  | nil =>
    cases state with
    | between =>
      cases hlex
      exact fun s token htoken => absurd htoken List.not_mem_nil
    | word bytes =>
      obtain ⟨value, hread, rfl⟩ := Option.map_eq_some_iff.mp hlex
      intro s token htoken hs
      rw [List.mem_singleton.mp htoken] at hs
      exact absurd hs (hasString_readScalar hread)
    | _ => cases hlex
  | cons b rest ih =>
    rw [lex_cons] at hlex
    obtain ⟨next, hstep, hrest⟩ := Option.bind_eq_some_iff.mp hlex
    obtain ⟨others, hothers, rfl⟩ := Option.map_eq_some_iff.mp hrest
    have hb : b ≠ 92 := fun heq => htext (heq ▸ List.mem_cons_self)
    obtain ⟨hnext, hemitted⟩ := lexStep_unescaped hstep hb h
    intro s token htoken
    rcases List.mem_append.mp htoken with htoken | htoken
    · exact hemitted s token htoken
    · exact ih hothers (fun hmem => htext (List.mem_cons_of_mem b hmem)) hnext s token htoken

/-- A text without backslashes has no way to write a quotation mark into a string. -/
theorem no_quote_of_parseJson {text s : ByteString} {value : JsonValue} (htext : 92 ∉ text)
    (hparse : parseJson readDouble text = some value) (h : value.HasString s) : 34 ∉ s := by
  obtain ⟨tokens, hlex, htokens⟩ := Option.bind_eq_some_iff.mp hparse
  rcases hasString_of_parseTokens htokens h with ⟨frame, hframe, _⟩ | ⟨token, htoken, hstring⟩
  · cases hframe
  · exact lex_unescaped hlex htext trivial s token htoken hstring

end NodusVision.Text
