import NodusVision.Config.Members

/-! The allowed origins: what the loop accepts is an array of different origins. -/
namespace NodusVision.Config
open Text Program

section
variable {path : String} {seen : List ByteString} {item : JsonValue} {rest items : List JsonValue}

/-- The text of one entry. -/
def requireOrigin (path : String) (item : JsonValue) : Parsed ByteString :=
  match item.asString with
  | some value =>
    if value.isEmpty || decide (128 < value.length) then
      reject path "entries must be non-empty bounded strings."
    else if value.any isControl then
      reject path "entries must not contain control characters."
    else .ok value
  | none => reject path "entries must be non-empty bounded strings."

theorem requireOrigins_cons : requireOrigins path seen (item :: rest) = (do
    let origin ← requireOrigin path item
    check ((← isAdvertisedUrlValid origin) && !(origin.drop httpPrefix.length).contains 47) path
      "entries must be exact non-wildcard HTTP origins with an explicit port."
    check (!seen.contains origin) path "duplicate origin is not allowed."
    requireOrigins path (seen ++ [origin]) rest) := by
  rw [requireOrigins, requireOrigin]
  cases item.asString with
  | none => rfl
  | some value =>
    dsimp only
    split
    · rfl
    · split
      · rfl
      · rfl

theorem requireOrigin_eq_ok {origin : ByteString} : requireOrigin path item = .ok origin ↔
    item = .string origin ∧ isBounded origin = true ∧ isPlain origin = true := by
  unfold requireOrigin
  cases item with
  | string text =>
    simp only [JsonValue.asString, ite_eq_ok, reject_ne_ok, and_false, false_or, Except.ok.injEq,
      JsonValue.string.injEq]
    simp only [isBounded, isPlain, Bool.and_eq_true, Bool.not_eq_true', Bool.or_eq_true, decide_eq_true_eq,
      not_or, Bool.not_eq_true, Nat.not_lt]
    constructor
    · rintro ⟨hbounded, hplain, rfl⟩
      exact ⟨rfl, hbounded, hplain⟩
    · rintro ⟨rfl, hbounded, hplain⟩
      exact ⟨hbounded, hplain, rfl⟩
  | _ => simp [JsonValue.asString]

theorem refuses_requireOrigin : Refuses (requireOrigin path item) := by
  unfold requireOrigin
  split
  · split
    · exact refuses_reject
    · split
      · exact refuses_reject
      · exact refuses_ok _
  · exact refuses_reject

/-- An origin of the schema that the parser reads. -/
theorem isUrl_origin {origin : ByteString} : isUrl originPattern (.string origin) = true ↔
    isBounded origin = true ∧ isPlain origin = true ∧ meetsUrlRule origin = true ∧
      (origin.drop httpPrefix.length).contains 47 = false := by
  simp only [isUrl, isString, Bool.and_eq_true]
  constructor
  · rintro ⟨⟨hbounded, hmatches⟩, hrule⟩
    rw [matches_origin hrule, Bool.and_eq_true, Bool.not_eq_true'] at hmatches
    exact ⟨hbounded, hmatches.1, hrule, hmatches.2⟩
  · rintro ⟨hbounded, hplain, hrule, hslash⟩
    rw [matches_origin hrule, hplain, hslash]
    exact ⟨⟨hbounded, rfl⟩, hrule⟩

theorem isUrl_string {pattern : ByteString → Bool} (h : isUrl pattern item = true) :
    ∃ url, item = .string url := by
  cases item with
  | string url => exact ⟨url, rfl⟩
  | _ => cases h

theorem succeeds_requireOrigins : Succeeds (requireOrigins path seen items) ↔
    areOrigins items = true ∧ ∀ origin, .string origin ∈ items → origin ∉ seen := by
  induction items generalizing seen with
  | nil => simp [requireOrigins, areOrigins]
  | cons item rest ih =>
    rw [requireOrigins_cons]
    simp only [succeeds_bind, requireOrigin_eq_ok, check_eq_ok, exists_const, ih, areOrigins,
      Bool.and_eq_true, Bool.not_eq_true', ← Bool.not_eq_true, List.contains_iff_mem,
      List.mem_append, List.mem_singleton, not_or]
    constructor
    · rintro ⟨origin, ⟨rfl, hbounded, hplain⟩, _, hvalid, ⟨rfl, hslash⟩, hseen, horigins, hrest⟩
      have hrule := isAdvertisedUrlValid_rule.mp hvalid
      have hurl : isUrl originPattern (.string origin) = true :=
        isUrl_origin.mpr ⟨hbounded, hplain, hrule, by simpa using hslash⟩
      refine ⟨⟨⟨hurl, ?_⟩, horigins⟩, ?_⟩
      · rw [List.any_eq_true]
        rintro ⟨other, hother, hsame⟩
        rw [beq_iff_eq, JsonValue.asString, asString_eq_some] at hsame
        subst hsame
        exact (hrest origin hother).2 rfl
      · intro other hother
        rcases List.mem_cons.mp hother with hsame | hmem
        · cases hsame
          exact hseen
        · exact (hrest other hmem).1
    · rintro ⟨⟨⟨hurl, hnodup⟩, horigins⟩, hseen⟩
      obtain ⟨origin, rfl⟩ := isUrl_string hurl
      obtain ⟨hbounded, hplain, hrule, hslash⟩ := isUrl_origin.mp hurl
      refine ⟨origin, ⟨rfl, hbounded, hplain⟩, true, isAdvertisedUrlValid_rule.mpr hrule, ⟨rfl, ?_⟩,
        hseen origin List.mem_cons_self, horigins, ?_⟩
      · simpa using hslash
      · intro other hother
        refine ⟨hseen other (List.mem_cons_of_mem _ hother), ?_⟩
        rintro rfl
        refine hnodup (List.any_eq_true.mpr ⟨_, hother, ?_⟩)
        exact beq_self_eq_true _

theorem refuses_requireOrigins :
    Refuses (requireOrigins path seen items) ↔ areOriginsRead seen items = true := by
  induction items generalizing seen with
  | nil => simp [requireOrigins, areOriginsRead]
  | cons item rest ih =>
    rw [requireOrigins_cons]
    simp only [refuses_bind, refuses_requireOrigin, true_and, requireOrigin_eq_ok, check_eq_ok,
      refuses_isAdvertisedUrlValid, refuses_check, ih]
    cases item with
    | string origin =>
      rw [areOriginsRead, implies_iff, Bool.and_eq_true, Bool.and_eq_true, implies_iff]
      constructor
      · rintro h ⟨hbounded, hplain⟩
        obtain ⟨hread, hnext⟩ := h origin ⟨rfl, hbounded, hplain⟩
        refine ⟨hread, ?_⟩
        intro hpassed
        simp only [Bool.and_eq_true] at hpassed
        obtain ⟨⟨hrule, hslash⟩, hseen⟩ := hpassed
        exact hnext true (isAdvertisedUrlValid_rule.mpr hrule) () (by simpa using hslash) () hseen
      · rintro h _ ⟨heq, hbounded, hplain⟩
        cases heq
        obtain ⟨hread, hnext⟩ := h ⟨hbounded, hplain⟩
        refine ⟨hread, ?_⟩
        intro valid hvalid _ hcheck _ hseen
        rw [Bool.and_eq_true] at hcheck
        obtain ⟨rfl, hslash⟩ := hcheck
        exact hnext (by rw [isAdvertisedUrlValid_rule.mp hvalid, hslash, hseen]; rfl)
    | _ => simp [areOriginsRead]

variable {provider : JsonObject}

theorem parseAllowedOrigins_eq : parseAllowedOrigins provider =
    match provider.find? (ascii "allowed_origins") with
    | none => .ok []
    | some (.array items) => do
      check (decide (items.length ≤ 16)) "/provider/allowed_origins" "must be a bounded array."
      requireOrigins "/provider/allowed_origins" [] items
    | some _ => reject "/provider/allowed_origins" "must be a bounded array." := by
  unfold parseAllowedOrigins requireAllowedOrigins requireField
  cases provider.find? (ascii "allowed_origins") with
  | none => rfl
  | some found =>
    cases found with
    | array items => rfl
    | _ => rfl

theorem succeeds_parseAllowedOrigins : Succeeds (parseAllowedOrigins provider) ↔
    mayHave provider "allowed_origins" isOriginArray = true := by
  rw [parseAllowedOrigins_eq, mayHave]
  cases provider.find? (ascii "allowed_origins") with
  | none => simp
  | some found =>
    cases found with
    | array items =>
      simp only [succeeds_bind, check_eq_ok, exists_const, succeeds_requireOrigins, List.not_mem_nil,
        not_false_eq_true, implies_true, and_true, Option.all_some, isOriginArray, Bool.and_eq_true]
    | _ => simp [isOriginArray]

theorem refuses_parseAllowedOrigins : Refuses (parseAllowedOrigins provider) ↔
    mayHave provider "allowed_origins" isOriginsRead = true := by
  rw [parseAllowedOrigins_eq, mayHave]
  cases provider.find? (ascii "allowed_origins") with
  | none => simp
  | some found =>
    cases found with
    | array items =>
      simp only [refuses_bind, refuses_check, check_eq_ok, true_and, refuses_requireOrigins,
        Option.all_some, isOriginsRead, implies_iff, forall_const]
    | _ => simp [isOriginsRead]

end

end NodusVision.Config
