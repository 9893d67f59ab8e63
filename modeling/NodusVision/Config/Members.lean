import NodusVision.Config.Urls

/-! The members of an object as the helpers read them and as the schema tests them. -/
namespace NodusVision.Config
open Text Program

section
variable {object members : JsonObject} {key path : String}

theorem has_isObject {test : JsonObject → Bool} : has object key (isObject test) = true ↔
    ∃ members, object.find? (ascii key) = some (.object members) ∧ test members = true := by
  unfold has
  cases object.find? (ascii key) with
  | none => simp
  | some found => cases found <;> simp [isObject]

theorem memberOf_eq (h : object.find? (ascii key) = some (.object members)) :
    memberOf object key = members := by
  rw [memberOf, h]
  rfl

theorem representable_member (hwords : areRepresentable object = true)
    (h : object.find? (ascii key) = some (.object members)) : areRepresentable members = true :=
  representable_find hwords h

/-- The integer under a key, if an integer is stored there. -/
def storedInteger (object : JsonObject) (key : String) : Option ℤ :=
  (object.find? (ascii key)).bind JsonValue.asInteger

theorem storedInteger_eq_some {value : ℤ} : storedInteger object key = some value ↔
    ∃ found, object.find? (ascii key) = some found ∧ found.asInteger = some value :=
  Option.bind_eq_some_iff

theorem numberOf_integer {found : JsonValue} {value : ℤ} (h : found.asInteger = some value) :
    numberOf found = some (value : ℚ) := by
  cases found with
  | int64 n =>
    cases h
    rfl
  | uint64 n =>
    cases h
    rfl
  | _ => cases h

theorem has_isNumber {value : ℤ} {test : ℚ → Bool} (h : storedInteger object key = some value) :
    has object key (isNumber test) = test value := by
  obtain ⟨found, hfound, hinteger⟩ := storedInteger_eq_some.mp h
  rw [has, hfound, Option.any_some, isNumber, numberOf_integer hinteger, Option.any_some]

theorem has_isInteger {minimum maximum value : ℤ} (h : storedInteger object key = some value) :
    has object key (isInteger minimum maximum) = (decide (minimum ≤ value) && decide (value ≤ maximum)) := by
  show has object key (isNumber _) = _
  rw [has_isNumber h]
  simp
  rfl

theorem has_isStoredInteger :
    has object key isStoredInteger = true ↔ ∃ value, storedInteger object key = some value := by
  rw [has_iff]
  simp only [storedInteger_eq_some, isStoredInteger, Option.isSome_iff_exists]
  constructor
  · rintro ⟨found, hfound, value, hvalue⟩
    exact ⟨value, found, hfound, hvalue⟩
  · rintro ⟨value, found, hfound, hvalue⟩
    exact ⟨found, hfound, value, hvalue⟩

theorem isOrdered_eq {first second : String} {a b : ℤ} (ha : storedInteger object first = some a)
    (hb : storedInteger object second = some b) : isOrdered object first second = decide (a ≤ b) := by
  obtain ⟨found, hfound, hinteger⟩ := storedInteger_eq_some.mp ha
  obtain ⟨found', hfound', hinteger'⟩ := storedInteger_eq_some.mp hb
  rw [isOrdered, has, hfound, Option.any_some, has, hfound', Option.any_some,
    numberOf_integer hinteger, numberOf_integer hinteger', Option.any_some, Option.any_some,
    decide_eq_decide]
  exact Rat.intCast_le_intCast

/-- What `requireBoundedInt` reads. -/
theorem requireBoundedInt_stored {minimum maximum value : ℤ} (hmin : 0 ≤ minimum)
    (hmax : maximum < 2 ^ 63) (hwords : areRepresentable object = true) :
    requireBoundedInt object key path minimum maximum = .ok value ↔
      storedInteger object key = some value ∧ minimum ≤ value ∧ value ≤ maximum := by
  rw [requireBoundedInt_eq_ok hmin hmax hwords, storedInteger_eq_some]
  constructor
  · rintro ⟨found, hfound, hvalue, hrange⟩
    exact ⟨⟨found, hfound, hvalue⟩, hrange⟩
  · rintro ⟨⟨found, hfound, hvalue⟩, hrange⟩
    exact ⟨found, hfound, hvalue, hrange⟩

/-- What `requireBoundedUint64` reads. -/
theorem requireBoundedUint64_stored {minimum maximum value : ℕ} :
    requireBoundedUint64 object key path minimum maximum = .ok value ↔
      storedInteger object key = some (value : ℤ) ∧ minimum ≤ value ∧ value ≤ maximum := by
  rw [requireBoundedUint64_eq_ok, storedInteger_eq_some]
  constructor
  · rintro ⟨found, hfound, hvalue, hrange⟩
    exact ⟨⟨found, hfound, hvalue⟩, hrange⟩
  · rintro ⟨⟨found, hfound, hvalue⟩, hrange⟩
    exact ⟨found, hfound, hvalue, hrange⟩

/-- An integer of the schema that is stored as one. -/
theorem has_stored_iff {minimum maximum : ℤ} :
    has object key (isInteger minimum maximum) = true ∧ has object key isStoredInteger = true ↔
      ∃ value, storedInteger object key = some value ∧ minimum ≤ value ∧ value ≤ maximum := by
  rw [has_isStoredInteger, and_comm, ← exists_and_right]
  apply exists_congr
  intro value
  apply and_congr_right
  intro h
  rw [has_isInteger h, Bool.and_eq_true, decide_eq_true_eq, decide_eq_true_eq]

theorem has_isStoredIn {minimum maximum : ℤ} : has object key (isStoredIn minimum maximum) = true ↔
    ∃ value, storedInteger object key = some value ∧ minimum ≤ value ∧ value ≤ maximum := by
  show has object key (fun value => isInteger minimum maximum value && isStoredInteger value) = true ↔ _
  rw [has_and, Bool.and_eq_true, has_stored_iff]

/-- The conversion of integers keeps the order and is exact where the format has them all. -/
structure Rounding.Faithful (rounding : Rounding) : Prop where
  monotone : ∀ a b, a ≤ b → rounding.toDouble a ≤ rounding.toDouble b
  exact : ∀ n : ℤ, -2 ^ 53 ≤ n → n ≤ 2 ^ 53 → rounding.toDouble n = n

/-- The number that `requireFiniteNumber` makes of a value. -/
def finiteNumber (rounding : Rounding) : JsonValue → Option ℚ
  | .double value => some value
  | .int64 value => some (rounding.toDouble value)
  | .uint64 value => some (rounding.toDouble value)
  | _ => none

@[simp] theorem requireFiniteNumber_eq_ok {rounding : Rounding} {value : ℚ} :
    requireFiniteNumber rounding object key path = .ok value ↔
      ∃ found, object.find? (ascii key) = some found ∧ finiteNumber rounding found = some value := by
  unfold requireFiniteNumber
  simp only [bind_eq_ok, requireField_eq_ok]
  apply exists_congr
  intro found
  apply and_congr_right
  intro _
  cases found <;> simp [finiteNumber]

theorem has_finite {rounding : Rounding} : has object key isFinite = true ↔
    ∃ value, requireFiniteNumber rounding object key path = .ok value := by
  simp only [has_iff, requireFiniteNumber_eq_ok]
  rw [exists_comm]
  apply exists_congr
  intro found
  cases found <;> simp [isFinite, numberOf, finiteNumber]

theorem has_finite_of {test : ℚ → Bool} (h : has object key (isNumber test) = true) :
    has object key isFinite = true := by
  obtain ⟨found, hfound, htest⟩ := has_iff.mp h
  refine has_iff.mpr ⟨found, hfound, ?_⟩
  obtain ⟨q, hq, -⟩ := Option.any_eq_true _ _ |>.mp htest
  rw [isFinite, hq]
  rfl

theorem has_anyNumber (h : has object key isFinite = true) : has object key isAnyNumber = true := by
  obtain ⟨found, hfound, hfinite⟩ := has_iff.mp h
  refine has_iff.mpr ⟨found, hfound, ?_⟩
  cases found with
  | infinity negative => rfl
  | _ => exact hfinite

section
variable {rounding : Rounding} {bound : ℤ}

theorem Rounding.Faithful.le_iff (hrounding : rounding.Faithful) (hlow : -2 ^ 53 ≤ bound)
    (hhigh : bound + 1 ≤ 2 ^ 53) (n : ℤ) : rounding.toDouble n ≤ bound ↔ (n : ℚ) ≤ bound := by
  rw [Rat.intCast_le_intCast]
  constructor
  · intro h
    by_contra hlt
    have hnext := hrounding.monotone (bound + 1) n (by omega)
    rw [hrounding.exact (bound + 1) (by omega) hhigh] at hnext
    have hle := Rat.intCast_le_intCast.mp (Rat.le_trans hnext h)
    omega
  · intro h
    rw [← hrounding.exact bound hlow (by omega)]
    exact hrounding.monotone n bound h

theorem Rounding.Faithful.le_iff' (hrounding : rounding.Faithful) (hlow : -2 ^ 53 ≤ bound - 1)
    (hhigh : bound ≤ 2 ^ 53) (n : ℤ) : bound ≤ rounding.toDouble n ↔ (bound : ℚ) ≤ n := by
  rw [Rat.intCast_le_intCast]
  constructor
  · intro h
    by_contra hlt
    have hprevious := hrounding.monotone n (bound - 1) (by omega)
    rw [hrounding.exact (bound - 1) hlow (by omega)] at hprevious
    have hle := Rat.intCast_le_intCast.mp (Rat.le_trans h hprevious)
    omega
  · intro h
    rw [← hrounding.exact bound (by omega) hhigh]
    exact hrounding.monotone bound n h

theorem Rounding.Faithful.isTranslation (hrounding : rounding.Faithful) (n : ℤ) :
    isTranslationAllowed (rounding.toDouble n) = isTranslation n := by
  unfold isTranslationAllowed Config.isTranslation
  congr 1
  · exact decide_eq_decide.mpr (@le_iff' rounding (-10) hrounding (by decide) (by decide) n)
  · exact decide_eq_decide.mpr (@le_iff rounding 10 hrounding (by decide) (by decide) n)

end

/-- The range of a translation holds of the converted number when it holds of the number. -/
theorem has_translation {rounding : Rounding} (hrounding : rounding.Faithful) {value : ℚ}
    (h : requireFiniteNumber rounding object key path = .ok value) :
    has object key (isNumber isTranslation) = isTranslationAllowed value := by
  obtain ⟨found, hfound, hvalue⟩ := requireFiniteNumber_eq_ok.mp h
  rw [has, hfound, Option.any_some]
  cases found with
  | double q =>
    cases hvalue
    rfl
  | int64 n =>
    cases hvalue
    exact (hrounding.isTranslation n).symm
  | uint64 n =>
    cases hvalue
    exact (hrounding.isTranslation n).symm
  | _ => cases hvalue

theorem has_boundedText : has object key isBoundedString = true ↔
    ∃ value, object.find? (ascii key) = some (.string value) ∧ isBounded value = true ∧
      isPlain value = true := by
  rw [isBoundedString, has_isString]
  simp only [Bool.and_eq_true]

theorem has_ruledUrl :
    has object key (fun value => isBoundedString value && isString meetsUrlRule value) = true ↔
      ∃ url, object.find? (ascii key) = some (.string url) ∧ isBounded url = true ∧ isPlain url = true ∧
        meetsUrlRule url = true := by
  rw [has_and, Bool.and_eq_true, has_boundedText, has_isString]
  constructor
  · rintro ⟨⟨url, hurl, hbounded, hplain⟩, url', hurl', hrule⟩
    rw [hurl] at hurl'
    cases hurl'
    exact ⟨url, hurl, hbounded, hplain, hrule⟩
  · rintro ⟨url, hurl, hbounded, hplain, hrule⟩
    exact ⟨⟨url, hurl, hbounded, hplain⟩, url, hurl, hrule⟩

/-- A bounded URL that the rule allows conforms to a pattern when the pattern asks for no more than
the parser does. -/
theorem has_isUrl {pattern : ByteString → Bool} : has object key (isUrl pattern) = true ↔
    ∃ url, object.find? (ascii key) = some (.string url) ∧ isBounded url = true ∧
      matchesUrl pattern url = true ∧ meetsUrlRule url = true := by
  rw [isUrl, has_isString]
  simp only [Bool.and_eq_true, and_assoc]

theorem has_isOneOf {values : List String} : has object key (isOneOf values) = true ↔
    ∃ value, object.find? (ascii key) = some (.string value) ∧ value ∈ values.map ascii := by
  rw [isOneOf, has_isString]
  simp only [List.contains_iff_mem]

theorem has_const {value : String} : has object key (isOneOf [value]) = true ↔
    object.find? (ascii key) = some (.string (ascii value)) := by
  rw [has_isOneOf]
  constructor
  · rintro ⟨found, hfound, hmem⟩
    rw [hfound, List.mem_singleton.mp hmem]
  · intro hfound
    exact ⟨_, hfound, List.mem_singleton.mpr rfl⟩

/-- A URL of the schema without control characters. -/
theorem has_plainUrl {pattern : ByteString → Bool} :
    has object key (isUrl pattern) = true ∧ has object key (isString isPlain) = true ↔
      ∃ url, object.find? (ascii key) = some (.string url) ∧ isBounded url = true ∧
        isPlain url = true ∧ matchesUrl pattern url = true ∧ meetsUrlRule url = true := by
  rw [has_isUrl, has_isString]
  constructor
  · rintro ⟨⟨url, hurl, hbounded, hmatches, hrule⟩, url', hurl', hplain⟩
    rw [hurl] at hurl'
    cases hurl'
    exact ⟨url, hurl, hbounded, hplain, hmatches, hrule⟩
  · rintro ⟨url, hurl, hbounded, hplain, hmatches, hrule⟩
    exact ⟨⟨url, hurl, hbounded, hmatches, hrule⟩, url, hurl, hplain⟩

/-- A statement about every member object under a key is one about the member. -/
theorem forall_member {property : JsonObject → Prop} (hnil : property []) :
    (∀ members, object.find? (ascii key) = some (.object members) → property members) ↔
      property (memberOf object key) := by
  constructor
  · intro h
    unfold memberOf
    cases hfound : object.find? (ascii key) with
    | none => exact hnil
    | some found =>
      cases found with
      | object members => exact h members hfound
      | _ => exact hnil
  · intro h members hfound
    rw [memberOf_eq hfound] at h
    exact h

theorem implies_iff {a b : Bool} : (!a || b) = true ↔ (a = true → b = true) := by
  cases a <;> simp

theorem mayHave_isUrlRead : mayHave object key isUrlRead = true ↔
    ∀ url, object.find? (ascii key) = some (.string url) ∧ isBounded url = true ∧ isPlain url = true →
      isPortRead url = true := by
  unfold mayHave
  cases object.find? (ascii key) with
  | none => simp
  | some found =>
    rw [Option.all_some, isUrlRead, implies_iff, isBoundedString]
    cases found with
    | string url =>
      simp only [isString, Bool.and_eq_true, Option.some.injEq, JsonValue.string.injEq]
      constructor
      · rintro h url' ⟨rfl, hbounded⟩
        exact h hbounded
      · intro h hbounded
        exact h url ⟨rfl, hbounded⟩
    | _ => simp [isString]

end

end NodusVision.Config
