import Mathlib.Data.List.TakeWhile
import NodusVision.Text.JsonTokens

/-! The lexer finds the tokens of what the serializer writes. -/
namespace NodusVision.Text

variable {readDouble : ByteString → ℚ}

/-- A string token stands for a string of the text, escapes undone. -/
theorem lex_text_end (content rest : ByteString) :
    lex readDouble (.text content) (34 :: rest) =
      (lex readDouble .between rest).map (.string content :: ·) := by
  apply lex_emits
  rfl

theorem lex_text_byte {b : UInt8} (content rest : ByteString) (hquote : b ≠ 34)
    (hescape : b ≠ 92) (hcontrol : ¬ b < 32) :
    lex readDouble (.text content) (b :: rest) = lex readDouble (.text (content ++ [b])) rest := by
  apply lex_silent
  rw [lexStep, if_neg hquote, if_neg hescape, if_neg hcontrol]

theorem lex_escape {b c : UInt8} (content rest : ByteString) (hb : b ≠ 117)
    (hc : unescape b = some c) :
    lex readDouble (.text content) (92 :: b :: rest) =
      lex readDouble (.text (content ++ [c])) rest := by
  have hslash : lexStep readDouble (.text content) 92 = some ([], .escape content) := rfl
  have hletter : lexStep readDouble (.escape content) b = some ([], .text (content ++ [c])) := by
    rw [lexStep, if_neg hb, hc, Option.map_some]
  rw [lex_silent _ hslash, lex_silent rest hletter]

theorem hexValue_hexDigit : ∀ n < 16, hexValue (hexDigit n) = some n := by decide

/-- A code unit below 128 is written with four digits and read as one byte. -/
theorem lex_unicode {high low : ℕ} (content rest : ByteString) (hhigh : high < 8)
    (hlow : low < 16) :
    lex readDouble (.text content)
        (ascii "\\u00" ++ [hexDigit high, hexDigit low] ++ rest) =
      lex readDouble (.text (content ++ [UInt8.ofNat (16 * high + low)])) rest := by
  have hzero : hexValue 48 = some 0 := rfl
  have hdigit (digit : UInt8) (value d count : ℕ) (hvalue : hexValue digit = some d)
      (hcount : count < 3) :
      lexStep readDouble (.unicode content none value count) digit =
        some ([], .unicode content none (16 * value + d) (count + 1)) := by
    rw [lexStep, hvalue, Option.bind_some, if_pos hcount]
  have hclose : closeUnicode content none (16 * high + low) =
      some (.text (content ++ [UInt8.ofNat (16 * high + low)])) := by
    unfold closeUnicode utf8Bytes
    simp [show ¬ 56320 ≤ 16 * high + low by omega, show ¬ 55296 ≤ 16 * high + low by omega,
      show 16 * high + low < 128 by omega]
  have hlast : lexStep readDouble (.unicode content none high 3) (hexDigit low) =
      some ([], .text (content ++ [UInt8.ofNat (16 * high + low)])) := by
    rw [lexStep, hexValue_hexDigit low hlow, Option.bind_some, if_neg (by omega), hclose, Option.map_some]
  have hslash : lexStep readDouble (.text content) 92 = some ([], .escape content) := rfl
  have hu : lexStep readDouble (.escape content) 117 = some ([], .unicode content none 0 0) := rfl
  have hfirst := hdigit 48 0 0 0 hzero (by omega)
  have hsecond := hdigit 48 0 0 1 hzero (by omega)
  have hthird := hdigit (hexDigit high) 0 high 2 (hexValue_hexDigit high (by omega)) (by omega)
  rw [Nat.mul_zero, Nat.zero_add] at hfirst hsecond hthird
  show lex readDouble (.text content)
    (92 :: 117 :: 48 :: 48 :: hexDigit high :: hexDigit low :: rest) = _
  rw [lex_silent _ hslash, lex_silent _ hu, lex_silent _ hfirst, lex_silent _ hsecond,
    lex_silent _ hthird, lex_silent _ hlast]

/-- The lexer undoes the escapes of the serializer. -/
theorem lex_escapeByte (b : UInt8) (content rest : ByteString) :
    lex readDouble (.text content) (escapeByte b ++ rest) =
      lex readDouble (.text (content ++ [b])) rest := by
  by_cases hletter : b = 34 ∨ b = 92 ∨ b = 8 ∨ b = 12 ∨ b = 10 ∨ b = 13 ∨ b = 9
  · rcases hletter with rfl | rfl | rfl | rfl | rfl | rfl | rfl <;>
      exact lex_escape content rest (by decide) rfl
  · obtain ⟨h34, h92, h8, h12, h10, h13, h9⟩ :
        b ≠ 34 ∧ b ≠ 92 ∧ b ≠ 8 ∧ b ≠ 12 ∧ b ≠ 10 ∧ b ≠ 13 ∧ b ≠ 9 := by
      simpa only [not_or] using hletter
    unfold escapeByte
    rw [if_neg h34, if_neg h92, if_neg h8, if_neg h12, if_neg h10, if_neg h13, if_neg h9]
    by_cases hcontrol : b < 32
    · rw [if_pos hcontrol]
      have hnat : b.toNat < 32 := hcontrol
      have hvalue : 16 * (b.toNat / 16) + b.toNat % 16 = b.toNat := Nat.div_add_mod b.toNat 16
      rw [lex_unicode content rest (by omega) (Nat.mod_lt _ (by omega)), hvalue, UInt8.ofNat_toNat]
    · rw [if_neg hcontrol]
      exact lex_text_byte content rest h34 h92 hcontrol

theorem lex_content (s content rest : ByteString) :
    lex readDouble (.text content) (s.flatMap escapeByte ++ rest) =
      lex readDouble (.text (content ++ s)) rest := by
  induction s generalizing content with
  | nil => simp
  | cons b s ih =>
    rw [List.flatMap_cons, List.append_assoc, lex_escapeByte, ih, List.append_assoc,
      List.singleton_append]

theorem lex_jsonString (s rest : ByteString) :
    lex readDouble .between (jsonString s ++ rest) =
      (lex readDouble .between rest).map (.string s :: ·) := by
  have hopen : lexStep readDouble .between 34 = some ([], .text []) := rfl
  unfold jsonString
  rw [List.append_assoc, List.append_assoc, List.singleton_append, lex_silent _ hopen,
    lex_content, List.nil_append, List.singleton_append, lex_text_end]

/-- The text ends or its next byte ends a scalar. -/
def Delimited (rest : ByteString) : Prop := ∀ b ∈ rest.head?, isJsonDelimiter b = true

theorem lex_word_end {bytes rest : ByteString} {value : JsonValue}
    (hvalue : readScalar readDouble bytes = some value) (hrest : Delimited rest) :
    lex readDouble (.word bytes) rest =
      (lex readDouble .between rest).map (.scalar value :: ·) := by
  cases rest with
  | nil =>
    have hend : lex readDouble (.word bytes) [] =
        (readScalar readDouble bytes).map fun value => [.scalar value] := rfl
    rw [hend, hvalue]
    rfl
  | cons b rest =>
    have hb : isJsonDelimiter b = true := hrest b rfl
    rw [lex_cons, lexStep, if_pos hb, hvalue, lex_cons, lexStep]
    simp [Function.comp_def]

theorem lex_word (bytes word rest : ByteString) (h : ∀ b ∈ word, isJsonDelimiter b = false) :
    lex readDouble (.word bytes) (word ++ rest) = lex readDouble (.word (bytes ++ word)) rest := by
  induction word generalizing bytes with
  | nil => simp
  | cons b word ih =>
    have hb : ¬ isJsonDelimiter b = true := by simp [h b List.mem_cons_self]
    have hstep : lexStep readDouble (.word bytes) b = some ([], .word (bytes ++ [b])) := by
      rw [lexStep, if_neg hb]
    rw [List.cons_append, lex_silent _ hstep, ih _ fun c hc => h c (List.mem_cons_of_mem b hc),
      List.append_assoc, List.singleton_append]

/-- The lexer finds these tokens wherever the text stands for itself. -/
def Lexes (readDouble : ByteString → ℚ) (text : ByteString) (tokens : List JsonToken) : Prop :=
  ∀ rest, Delimited rest →
    lex readDouble .between (text ++ rest) = (lex readDouble .between rest).map (tokens ++ ·)

theorem lexes_scalar {word : ByteString} {value : JsonValue} (hne : word ≠ [])
    (h : ∀ b ∈ word, isJsonDelimiter b = false) (hvalue : readScalar readDouble word = some value) :
    Lexes readDouble word [.scalar value] := by
  intro rest hrest
  cases word with
  | nil => exact absurd rfl hne
  | cons b word =>
    have hb := h b List.mem_cons_self
    simp only [isJsonDelimiter, Bool.or_eq_false_iff, beq_eq_false_iff_ne, ne_eq,
      Option.isSome_eq_false_iff, Option.isNone_iff_eq_none] at hb
    obtain ⟨⟨hspace, hquote⟩, hpunctuation⟩ := hb
    have hfirst : lexStep readDouble .between b = some ([], .word [b]) := by
      rw [lexStep, lexBetween, if_neg (by simp [hspace]), if_neg hquote, hpunctuation]
    rw [List.cons_append, lex_silent _ hfirst,
      lex_word [b] word rest fun c hc => h c (List.mem_cons_of_mem b hc)]
    exact lex_word_end hvalue hrest

theorem lexes_string (s : ByteString) : Lexes readDouble (jsonString s) [.string s] := by
  intro rest _
  exact lex_jsonString s rest

theorem lexStep_punctuation {b : UInt8} {token : JsonToken} (h : jsonPunctuation b = some token) :
    lexStep readDouble .between b = some ([token], .between) := by
  have hspace : ¬ isJsonSpace b = true := by
    intro hspace
    simp only [isJsonSpace, Bool.or_eq_true, beq_iff_eq] at hspace
    rcases hspace with ((rfl | rfl) | rfl) | rfl <;> cases h
  have hquote : b ≠ 34 := by
    rintro rfl
    cases h
  rw [lexStep, lexBetween, if_neg hspace, if_neg hquote, h]

theorem delimited_punctuation {b : UInt8} {token : JsonToken} (rest : ByteString)
    (h : jsonPunctuation b = some token) : Delimited (b :: rest) := by
  rintro c ⟨⟩
  simp [isJsonDelimiter, h]

/-- Two texts with a structural character between them. -/
theorem Lexes.append {front back : ByteString} {b : UInt8} {token : JsonToken}
    {frontTokens backTokens : List JsonToken} (hfront : Lexes readDouble front frontTokens)
    (hb : jsonPunctuation b = some token) (hback : Lexes readDouble back backTokens) :
    Lexes readDouble (front ++ b :: back) (frontTokens ++ token :: backTokens) := by
  intro rest hrest
  rw [List.append_assoc, List.cons_append, hfront _ (delimited_punctuation _ hb),
    lex_emits _ (lexStep_punctuation hb), hback rest hrest, Option.map_map, Option.map_map]
  simp [Function.comp_def]

theorem lexes_nil : Lexes readDouble [] [] := by
  intro rest _
  simp

/-- A text in brackets of one kind. -/
theorem Lexes.enclosed {text : ByteString} {first last : UInt8} {opening closing : JsonToken}
    {tokens : List JsonToken} (htext : Lexes readDouble text tokens)
    (hfirst : jsonPunctuation first = some opening) (hlast : jsonPunctuation last = some closing) :
    Lexes readDouble ([first] ++ text ++ [last]) ([opening] ++ tokens ++ [closing]) := by
  have hopen := lexes_nil.append hfirst htext
  exact hopen.append hlast lexes_nil

theorem Lexes.intercalate {texts : List ByteString} {tokens : List (List JsonToken)}
    (h : List.Forall₂ (Lexes readDouble) texts tokens) :
    Lexes readDouble (List.intercalate [44] texts) (List.intercalate [.comma] tokens) := by
  have hcomma : jsonPunctuation 44 = some .comma := rfl
  induction h with
  | nil => exact lexes_nil
  | @cons text first texts rest hfirst hrest ih =>
    cases hrest with
    | nil =>
      rw [List.intercalate_singleton, List.intercalate_singleton]
      exact hfirst
    | cons hsecond hothers =>
      rw [List.intercalate_cons_cons, List.intercalate_cons_cons, List.append_assoc,
        List.append_assoc, List.singleton_append, List.singleton_append]
      exact hfirst.append hcomma ih

theorem jsonNat_of_lt {n : ℕ} (h : n < 10) : jsonNat n = [UInt8.ofNat (48 + n)] := by
  have hdigit : ∀ n < 10, UInt8.ofNat n.digitChar.toNat = UInt8.ofNat (48 + n) := by decide
  unfold jsonNat
  rw [Nat.toDigits_of_lt_base h, List.map_singleton, hdigit n h]

theorem jsonNat_of_le {n : ℕ} (h : 10 ≤ n) :
    jsonNat n = jsonNat (n / 10) ++ [UInt8.ofNat (48 + n % 10)] := by
  have hlast := jsonNat_of_lt (Nat.mod_lt n (by omega : 10 > 0))
  unfold jsonNat at hlast ⊢
  rw [Nat.toDigits_of_base_le (by omega) h, List.map_append, ← hlast,
    Nat.toDigits_of_lt_base (Nat.mod_lt n (by omega))]

theorem isJsonDigit_ofNat {n : ℕ} (h : n < 10) : isJsonDigit (UInt8.ofNat (48 + n)) = true := by
  revert n
  decide

/-- A rule for the decimal digits of a number, the last one split off. -/
theorem jsonNat_induction {motive : ℕ → ByteString → Prop}
    (single : ∀ n < 10, motive n [UInt8.ofNat (48 + n)])
    (snoc : ∀ n digits d, 0 < n → d < 10 → motive n digits →
      motive (10 * n + d) (digits ++ [UInt8.ofNat (48 + d)])) (n : ℕ) : motive n (jsonNat n) := by
  induction n using Nat.strong_induction_on with
  | _ n ih =>
    rcases Nat.lt_or_ge n 10 with hsmall | hlarge
    · rw [jsonNat_of_lt hsmall]
      exact single n hsmall
    · have hlast := snoc (n / 10) (jsonNat (n / 10)) (n % 10) (by omega) (by omega)
        (ih (n / 10) (by omega))
      rw [Nat.div_add_mod] at hlast
      rw [jsonNat_of_le hlarge]
      exact hlast

theorem isJsonDigit_jsonNat (n : ℕ) : ∀ b ∈ jsonNat n, isJsonDigit b = true := by
  refine jsonNat_induction (motive := fun _ digits => ∀ b ∈ digits, isJsonDigit b = true) ?_ ?_ n
  · intro n hn b hb
    rw [List.mem_singleton.mp hb]
    exact isJsonDigit_ofNat hn
  · intro n digits d _ hd ih b hb
    rcases List.mem_append.mp hb with hb | hb
    · exact ih b hb
    · rw [List.mem_singleton.mp hb]
      exact isJsonDigit_ofNat hd

theorem readDigits_jsonNat (n : ℕ) : readDigits (jsonNat n) = n := by
  have hdigit : ∀ d < 10, (UInt8.ofNat (48 + d)).toNat - 48 = d := by decide
  refine jsonNat_induction (motive := fun n digits => readDigits digits = n) ?_ ?_ n
  · intro n hn
    simp only [readDigits, List.foldl_cons, List.foldl_nil, hdigit n hn]
    omega
  · intro n digits d _ hd ih
    unfold readDigits at ih ⊢
    rw [List.foldl_append, ih, List.foldl_cons, List.foldl_nil, hdigit d hd]

/-- The digits of a number start with zero only where it is zero. -/
theorem isIntegerPart_jsonNat (n : ℕ) : isIntegerPart (jsonNat n) = true := by
  have hzero : ∀ d < 10, UInt8.ofNat (48 + d) = 48 → d = 0 := by decide
  have hhead := jsonNat_induction (motive := fun n digits =>
    digits ≠ [] ∧ (digits.head? = some 48 → n = 0 ∧ digits.length = 1)) (n := n)
    (by
      intro n hn
      refine ⟨List.cons_ne_nil _ _, fun h => ⟨hzero n hn (Option.some.inj h), rfl⟩⟩)
    (by
      intro n digits d hn _ ih
      cases digits with
      | nil => exact absurd rfl ih.1
      | cons b digits =>
        refine ⟨List.cons_ne_nil _ _, fun h => ?_⟩
        have := (ih.2 h).1
        omega)
  obtain ⟨hne, hone⟩ := hhead
  unfold isIntegerPart
  by_cases h : (jsonNat n).head? = some 48
  · simp [hne, (hone h).2]
  · simp [hne, h]

theorem takeWhile_jsonNat (n : ℕ) :
    (jsonNat n).takeWhile isJsonDigit = jsonNat n ∧ (jsonNat n).dropWhile isJsonDigit = [] := by
  have hdigits := isJsonDigit_jsonNat n
  refine ⟨List.takeWhile_eq_self_iff.mpr hdigits, List.dropWhile_eq_nil_iff.mpr hdigits⟩

/-- A literal name does not start as a number does. -/
theorem readScalar_number {word : ByteString}
    (h : ∃ b ∈ word.head?, b = 45 ∨ isJsonDigit b = true) :
    readScalar readDouble word = readNumber readDouble word := by
  have hname (name : ByteString)
      (hletter : name.head?.all (fun b => b != 45 && !isJsonDigit b) = true) : word ≠ name := by
    rintro rfl
    obtain ⟨b, hmem, hnumber⟩ := h
    rw [Option.mem_def.mp hmem, Option.all_some, Bool.and_eq_true, bne_iff_ne,
      Bool.not_eq_true'] at hletter
    rcases hnumber with rfl | hdigit
    · exact hletter.1 rfl
    · cases hletter.2.symm.trans hdigit
  unfold readScalar
  rw [if_neg (hname _ (by decide)), if_neg (hname _ (by decide)), if_neg (hname _ (by decide))]

theorem readScalar_jsonNat (n : ℕ) : readScalar readDouble (jsonNat n) =
    some (readInteger readDouble (jsonNat n) false n) := by
  have hpart := isIntegerPart_jsonNat n
  obtain ⟨htake, hdrop⟩ := takeWhile_jsonNat n
  have hread := readDigits_jsonNat n
  have hdigits := isJsonDigit_jsonNat n
  cases hword : jsonNat n with
  | nil =>
    rw [hword] at hpart
    cases hpart
  | cons b rest =>
    rw [hword] at hpart htake hdrop hread hdigits
    have hb : isJsonDigit b = true := hdigits b List.mem_cons_self
    have hsign : ((b :: rest).head? == some 45) = false := by
      rw [beq_eq_false_iff_ne]
      rintro ⟨⟩
      cases hb
    rw [readScalar_number ⟨b, rfl, .inr hb⟩]
    simp only [readNumber, hsign, Bool.false_eq_true, if_false, htake, hdrop, hpart, hread]
    rfl

theorem readScalar_negative (n : ℕ) : readScalar readDouble (45 :: jsonNat n) =
    some (readInteger readDouble (45 :: jsonNat n) true n) := by
  have hpart := isIntegerPart_jsonNat n
  obtain ⟨htake, hdrop⟩ := takeWhile_jsonNat n
  have hread := readDigits_jsonNat n
  have hsign : ((45 :: jsonNat n).head? == some 45) = true := rfl
  rw [readScalar_number ⟨45, rfl, .inl rfl⟩]
  simp only [readNumber, hsign, if_true, List.tail_cons, htake, hdrop, hpart, hread]
  rfl

theorem readScalar_int64 {n : ℤ} (hlow : -2 ^ 63 ≤ n) (hhigh : n < 2 ^ 63) :
    readScalar readDouble (jsonInt n) = some (.int64 n) := by
  cases n with
  | ofNat n =>
    have hn : (n : ℤ) < 2 ^ 63 := hhigh
    rw [jsonInt, readScalar_jsonNat, readInteger, if_neg (by simp), if_pos ⟨rfl, by omega⟩]
    rfl
  | negSucc n =>
    rw [jsonInt, List.singleton_append, readScalar_negative, readInteger,
      if_pos ⟨rfl, by omega⟩]
    rfl

theorem readScalar_uint64 {n : ℕ} (hlow : 2 ^ 63 ≤ n) (hhigh : n < 2 ^ 64) :
    readScalar readDouble (jsonNat n) = some (.uint64 n) := by
  rw [readScalar_jsonNat, readInteger, if_neg (by simp), if_neg (by omega), if_pos ⟨rfl, hhigh⟩]

theorem digit_not_delimiter {b : UInt8} (h : isJsonDigit b = true) : isJsonDelimiter b = false := by
  simp only [isJsonDigit, Bool.and_eq_true, decide_eq_true_eq] at h
  obtain ⟨hlow, hhigh⟩ := h
  have hlow : 48 ≤ b.toNat := hlow
  have hhigh : b.toNat ≤ 57 := hhigh
  have hother (c : UInt8) (hc : c.toNat < 48 ∨ 57 < c.toNat) : b ≠ c := by
    rintro rfl
    omega
  have h32 := hother 32 (by decide)
  simp [isJsonDelimiter, isJsonSpace, jsonPunctuation, hother 32 (by decide), hother 9 (by decide),
    hother 10 (by decide), hother 13 (by decide), hother 34 (by decide), hother 123 (by decide),
    hother 125 (by decide), hother 91 (by decide), hother 93 (by decide), hother 58 (by decide),
    hother 44 (by decide)]

theorem lexes_jsonNat {n : ℕ} {value : JsonValue}
    (h : readScalar readDouble (jsonNat n) = some value) :
    Lexes readDouble (jsonNat n) [.scalar value] := by
  have hne : jsonNat n ≠ [] := by
    have hpart := isIntegerPart_jsonNat n
    intro hnil
    rw [hnil] at hpart
    cases hpart
  exact lexes_scalar hne (fun b hb => digit_not_delimiter (isJsonDigit_jsonNat n b hb)) h

theorem lexes_jsonInt {n : ℤ} {value : JsonValue}
    (h : readScalar readDouble (jsonInt n) = some value) :
    Lexes readDouble (jsonInt n) [.scalar value] := by
  cases n with
  | ofNat n => exact lexes_jsonNat h
  | negSucc n =>
    refine lexes_scalar (List.cons_ne_nil _ _) ?_ h
    intro b hb
    rcases List.mem_cons.mp hb with rfl | hb
    · rfl
    · exact digit_not_delimiter (isJsonDigit_jsonNat (n + 1) b hb)

end NodusVision.Text
