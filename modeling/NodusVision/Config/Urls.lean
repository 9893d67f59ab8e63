import Mathlib.Data.List.Infix
import Mathlib.Data.List.TakeWhile
import NodusVision.Config.Fields

/-! The URL checks of the parser against the rule and the patterns. -/
namespace NodusVision.Config
open Text Program

variable {url : ByteString}

theorem stoi_port (url : ByteString) : stoi (portText (authority url)) =
    if portNumber url ≤ 2147483647 then .ok (portNumber url) else .error .outOfRange := rfl

/-- The check of a URL is its form, and then the range of its port. -/
theorem isAdvertisedUrlValid_eq (url : ByteString) : isAdvertisedUrlValid url =
    if hasUrlForm url then do
      let port ← stoi (portText (authority url))
      .ok (decide (1 ≤ port) && decide (port ≤ 65535))
    else .ok false := by
  have hform : hasUrlForm url = true ↔
      ¬ (!httpPrefix.isPrefixOf url || url.tails.any (ascii "0.0.0.0").isPrefixOf ||
        (ascii "*@?#").any url.contains) = true ∧
      ¬ (!(authority url).contains 58 ||
        (portText (authority url)).length + 1 == (authority url).length ||
        (portText (authority url)).isEmpty || !(portText (authority url)).all isDigit) = true := by
    unfold hasUrlForm
    generalize httpPrefix.isPrefixOf url = a
    generalize url.tails.any (ascii "0.0.0.0").isPrefixOf = b
    generalize (ascii "*@?#").any url.contains = c
    generalize (authority url).contains 58 = d
    rw [bne]
    generalize ((portText (authority url)).length + 1 == (authority url).length) = e
    generalize (portText (authority url)).isEmpty = f
    generalize (portText (authority url)).all isDigit = g
    revert a b c d e f g
    decide
  unfold isAdvertisedUrlValid
  by_cases h : hasUrlForm url = true
  · obtain ⟨hfirst, hsecond⟩ := hform.mp h
    rw [if_neg hfirst, if_pos h]
    exact if_neg hsecond
  · rw [if_neg h]
    by_cases hfirst : (!httpPrefix.isPrefixOf url || url.tails.any (ascii "0.0.0.0").isPrefixOf ||
        (ascii "*@?#").any url.contains) = true
    · exact if_pos hfirst
    · rw [if_neg hfirst]
      apply if_pos
      by_contra hsecond
      exact h (hform.mpr ⟨hfirst, hsecond⟩)

theorem refuses_isAdvertisedUrlValid :
    Refuses (isAdvertisedUrlValid url) ↔ isPortRead url = true := by
  have hescape : ¬ Refuses (.error .outOfRange : Parsed ℕ) := by
    unfold Refuses
    rw [throwsOnly_error]
    exact id
  rw [isAdvertisedUrlValid_eq, isPortRead]
  cases hform : hasUrlForm url with
  | false => simp
  | true =>
    simp only [if_true, Bool.not_true, Bool.false_or, decide_eq_true_eq]
    rw [refuses_bind, stoi_port]
    by_cases hport : portNumber url ≤ 2147483647
    · rw [if_pos hport]
      simp [hport]
    · rw [if_neg hport]
      simp [hport, hescape]

theorem isAdvertisedUrlValid_rule : isAdvertisedUrlValid url = .ok true ↔ meetsUrlRule url = true := by
  rw [isAdvertisedUrlValid_eq, meetsUrlRule]
  cases hform : hasUrlForm url with
  | false => simp
  | true =>
    simp only [if_true, Bool.true_and, Bool.and_eq_true, decide_eq_true_eq]
    rw [bind_eq_ok, stoi_port]
    by_cases hport : portNumber url ≤ 2147483647
    · rw [if_pos hport]
      simp
    · rw [if_neg hport]
      simp only [reduceCtorEq, false_and, exists_false, false_iff]
      omega

theorem getUrlPort_rule (h : meetsUrlRule url = true) : getUrlPort url = .ok (portNumber url) := by
  simp only [meetsUrlRule, Bool.and_eq_true, decide_eq_true_eq] at h
  have hport : portNumber url ≤ 2147483647 := by omega
  exact if_pos hport

theorem form_parts (h : meetsUrlRule url = true) : httpPrefix.isPrefixOf url = true ∧
    url.tails.any (ascii "0.0.0.0").isPrefixOf = false ∧
    (∀ c ∈ ascii "*@?#", c ∉ url) ∧ (authority url).contains 58 = true ∧
    (portText (authority url)).length + 1 ≠ (authority url).length ∧
    portText (authority url) ≠ [] ∧ (portText (authority url)).all isDigit = true := by
  simp only [meetsUrlRule, hasUrlForm, Bool.and_eq_true, Bool.not_eq_true', bne_iff_ne,
    List.isEmpty_eq_false_iff, List.any_eq_false, List.contains_iff_mem] at h
  obtain ⟨⟨⟨⟨⟨⟨⟨⟨h1, h2⟩, h3⟩, h4⟩, h5⟩, h6⟩, h7⟩, -⟩, -⟩ := h
  refine ⟨h1, ?_, h3, ?_, h5, h6, h7⟩
  · simpa using h2
  · simpa using h4

/-- The host is not a wildcard when the URL contains neither. -/
theorem not_wildcard (h : meetsUrlRule url = true) :
    isWildcardHost (url.drop httpPrefix.length) = false := by
  obtain ⟨-, hzero, hexcluded, -⟩ := form_parts h
  have hstar : (42 : UInt8) ∉ url := hexcluded 42 (by decide)
  unfold isWildcardHost
  rw [List.any_eq_false]
  intro host hhost hstart
  obtain ⟨rest, hrest⟩ := List.isPrefixOf_iff_prefix.mp hstart
  have hdrop {b : UInt8} (hb : b ∈ ascii host) : b ∈ url := by
    apply List.mem_of_mem_drop (i := httpPrefix.length)
    rw [← hrest]
    exact List.mem_append_left _ hb
  have hnumber (hleading : ascii "0.0.0.0" <+: ascii host) : False := by
    rw [List.any_eq_false] at hzero
    refine hzero (url.drop httpPrefix.length) ((List.mem_tails _ _).mpr (List.drop_suffix _ _)) ?_
    rw [List.isPrefixOf_iff_prefix, ← hrest]
    exact hleading.trans (List.prefix_append _ _)
  simp only [List.mem_cons, List.not_mem_nil, or_false] at hhost
  rcases hhost with rfl | rfl | rfl | rfl
  · exact hnumber (by decide)
  · exact hnumber (by decide)
  · exact hstar (hdrop (by decide))
  · exact hstar (hdrop (by decide))

theorem url_split (h : httpPrefix.isPrefixOf url = true) :
    url = httpPrefix ++ url.drop httpPrefix.length := by
  obtain ⟨rest, hrest⟩ := List.isPrefixOf_iff_prefix.mp h
  rw [← hrest, List.drop_left]

theorem isPlain_append (a b : ByteString) : isPlain (a ++ b) = (isPlain a && isPlain b) := by
  simp [isPlain, List.any_append]

theorem isPlain_rest (h : httpPrefix.isPrefixOf url = true) :
    isPlain url = isPlain (url.drop httpPrefix.length) := by
  have hscheme : isPlain httpPrefix = true := by decide
  conv_lhs => rw [url_split h]
  rw [isPlain_append, hscheme, Bool.true_and]

theorem rest_ne_nil (h : meetsUrlRule url = true) : url.drop httpPrefix.length ≠ [] := by
  obtain ⟨-, -, -, hseparator, -⟩ := form_parts h
  intro hnil
  simp [authority, hnil] at hseparator

theorem rule_starts (h : meetsUrlRule url = true) : httpPrefix.isPrefixOf url = true :=
  (form_parts h).1

/-- With the rule, the pattern of the advertised URL asks for no control characters. -/
theorem matches_advertised (h : meetsUrlRule url = true) :
    matchesUrl advertisedPattern url = isPlain url := by
  have hrest : (url.drop httpPrefix.length).isEmpty = false :=
    List.isEmpty_eq_false_iff.mpr (rest_ne_nil h)
  rw [matchesUrl, rule_starts h, not_wildcard h, advertisedPattern, hrest, isPlain_rest (rule_starts h)]
  simp

/-- With the rule, the pattern of the base URL asks for nothing. -/
theorem matches_baseUrl (h : meetsUrlRule url = true) : matchesUrl baseUrlPattern url = true := by
  have hrest : (url.drop httpPrefix.length).isEmpty = false :=
    List.isEmpty_eq_false_iff.mpr (rest_ne_nil h)
  obtain ⟨-, -, hexcluded, -⟩ := form_parts h
  have hmember {b : UInt8} (hb : b ∈ url.drop httpPrefix.length) : b ∈ url :=
    List.mem_of_mem_drop hb
  have huserinfo : ((url.drop httpPrefix.length).takeWhile (· != 47)).contains 64 = false := by
    rw [← Bool.not_eq_true, List.contains_iff_mem]
    intro hat
    exact hexcluded 64 (by decide) (hmember (List.takeWhile_subset _ hat))
  have hquery : (ascii "?#").any (url.drop httpPrefix.length).contains = false := by
    rw [List.any_eq_false]
    intro c hc hcontains
    have hall : (ascii "?#").all (ascii "*@?#").contains = true := by decide
    have hc := List.contains_iff_mem.mp (List.all_eq_true.mp hall c hc)
    exact hexcluded c hc (hmember (List.contains_iff_mem.mp hcontains))
  rw [matchesUrl, rule_starts h, not_wildcard h, baseUrlPattern, huserinfo, hrest, hquery]
  rfl

/-- A text with a ':' is a host and a port. -/
theorem portText_split {rest : ByteString} (h : rest.contains 58 = true) :
    rest = rest.take (rest.length - (portText rest).length - 1) ++ 58 :: portText rest := by
  have hdrop : rest.reverse.dropWhile (· != 58) ≠ [] := by
    intro hnil
    have hall := List.dropWhile_eq_nil_iff.mp hnil 58 (by simpa using h)
    simp at hall
  obtain ⟨c, host, hcons⟩ := List.exists_cons_of_ne_nil hdrop
  have hc : c = 58 := by
    have hhead := List.head?_dropWhile_not (· != 58) rest.reverse
    rw [hcons] at hhead
    simpa using hhead
  have hrest : rest = host.reverse ++ 58 :: portText rest := by
    rw [← List.reverse_inj, portText]
    conv_lhs => rw [← List.takeWhile_append_dropWhile (p := (· != 58)) (l := rest.reverse), hcons, hc]
    simp
  have hlength : rest.length - (portText rest).length - 1 = host.reverse.length := by
    have hsum := congrArg List.length hrest
    simp only [List.length_append, List.length_cons] at hsum
    omega
  rw [hlength]
  conv_rhs => enter [1]; rw [hrest, List.take_left]
  exact hrest

theorem authority_rest (h : 47 ∉ url.drop httpPrefix.length) :
    authority url = url.drop httpPrefix.length := by
  rw [authority, List.takeWhile_eq_self_iff]
  intro b hb
  rw [bne_iff_ne]
  rintro rfl
  exact h hb

theorem isPlain_digits {digits : ByteString} (h : digits.all isDigit = true) :
    isPlain digits = true ∧ 47 ∉ digits := by
  rw [List.all_eq_true] at h
  constructor
  · rw [isPlain, Bool.not_eq_true', List.any_eq_false]
    intro b hb
    have hdigit := h b hb
    simp only [isDigit, Bool.and_eq_true, decide_eq_true_eq] at hdigit
    simp only [isControl, Bool.or_eq_true, decide_eq_true_eq, beq_iff_eq]
    rintro (hlow | rfl)
    · exact absurd (UInt8.lt_of_lt_of_le hlow (by decide)) (UInt8.not_lt.mpr hdigit.1)
    · exact absurd hdigit.2 (by decide)
  · intro hslash
    exact absurd (h 47 hslash) (by decide)

/-- With the rule, the pattern of an origin asks for no control characters and no path. -/
theorem matches_origin (h : meetsUrlRule url = true) : matchesUrl originPattern url =
    (isPlain url && !(url.drop httpPrefix.length).contains 47) := by
  obtain ⟨hscheme, -, hexcluded, hseparator, hhost, hne, hdigits⟩ := form_parts h
  rw [matchesUrl, hscheme, not_wildcard h, isPlain_rest hscheme, Bool.not_false, Bool.and_self,
    Bool.true_and, Bool.eq_iff_iff, Bool.and_eq_true, Bool.not_eq_true', ← Bool.not_eq_true,
    List.contains_iff_mem]
  have hmember {b : UInt8} (hb : b ∈ url.drop httpPrefix.length) : b ∈ url :=
    List.mem_of_mem_drop hb
  have hparts := @authority_rest url
  generalize url.drop httpPrefix.length = rest at hmember hparts ⊢
  simp only [originPattern, Bool.and_eq_true, Bool.not_eq_true', List.any_eq_false]
  constructor
  · rintro ⟨⟨⟨⟨⟨hcolon, -⟩, hbytes⟩, hplain⟩, -⟩, hport⟩
    have hsplit := portText_split hcolon
    obtain ⟨hportPlain, hportSlash⟩ := isPlain_digits hport
    constructor
    · rw [hsplit, isPlain_append, hplain, Bool.true_and]
      show isPlain ([58] ++ portText rest) = true
      rw [isPlain_append, hportPlain]
      decide
    · rw [hsplit]
      simp only [List.mem_append, List.mem_cons, not_or]
      refine ⟨?_, by decide, hportSlash⟩
      intro hslash
      exact hbytes 47 (by decide) (List.contains_iff_mem.mpr hslash)
  · rintro ⟨hplain, hslash⟩
    rw [hparts hslash] at hseparator hhost hne hdigits
    have hsplit := portText_split hseparator
    have hleading : rest.take (rest.length - (portText rest).length - 1) <+: rest := List.take_prefix _ _
    have hlength := congrArg List.length hsplit
    simp only [List.length_append, List.length_cons] at hlength
    refine ⟨⟨⟨⟨⟨hseparator, ?_⟩, ?_⟩, ?_⟩, ?_⟩, hdigits⟩
    · rw [List.isEmpty_eq_false_iff, ← List.length_pos_iff]
      omega
    · intro c hc hcontains
      have hrest := hleading.subset (List.contains_iff_mem.mp hcontains)
      by_cases hslash' : c = 47
      · subst hslash'
        exact hslash hrest
      · have hall : (ascii "/?#@").all (fun c => c == 47 || (ascii "*@?#").contains c) = true := by
          decide
        have hc := List.all_eq_true.mp hall c hc
        rw [Bool.or_eq_true, beq_iff_eq, List.contains_iff_mem] at hc
        exact hexcluded c (hc.resolve_left hslash') (hmember hrest)
    · rw [hsplit, isPlain_append, Bool.and_eq_true] at hplain
      exact hplain.1
    · exact List.isEmpty_eq_false_iff.mpr hne

end NodusVision.Config
