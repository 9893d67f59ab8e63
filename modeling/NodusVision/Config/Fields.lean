import NodusVision.Config.Accepted
import NodusVision.Config.Reads

/-! What each helper of the parser accepts, and what it throws. -/
namespace NodusVision.Config
open Text Program

mutual

/-- The unsigned integers have 64 bits. -/
def isRepresentable : JsonValue → Bool
  | .uint64 value => decide (value < 2 ^ 64)
  | .array items => areItemsRepresentable items
  | .object members => areRepresentable members
  | _ => true

def areItemsRepresentable : List JsonValue → Bool
  | [] => true
  | item :: items => isRepresentable item && areItemsRepresentable items

def areRepresentable : List (ByteString × JsonValue) → Bool
  | [] => true
  | (_, value) :: members => isRepresentable value && areRepresentable members

end

theorem representable_find {object : JsonObject} {key : ByteString} {value : JsonValue}
    (h : areRepresentable object = true) (hfound : object.find? key = some value) :
    isRepresentable value = true := by
  induction object with
  | nil => cases hfound
  | cons member rest ih =>
    obtain ⟨name, first⟩ := member
    simp only [areRepresentable, Bool.and_eq_true] at h
    simp only [JsonObject.find?, List.find?_cons] at hfound
    split at hfound
    · cases hfound
      exact h.1
    · exact ih h.2 hfound

/-- A `std::invalid_argument` -/
def ConfigError.IsInvalid : ConfigError → Prop
  | .invalidArgument _ => True
  | _ => False

/-- The computation throws nothing but `std::invalid_argument`. -/
def Refuses {α : Type} (x : Parsed α) : Prop := ThrowsOnly ConfigError.IsInvalid x

theorem refuses_bind {α β : Type} {x : Parsed α} {f : α → Parsed β} :
    Refuses (x >>= f) ↔ Refuses x ∧ ∀ a, x = .ok a → Refuses (f a) := throwsOnly_bind

@[simp] theorem refuses_ok {α : Type} (a : α) : Refuses (.ok a : Parsed α) := throwsOnly_ok a

@[simp] theorem refuses_reject {α : Type} {path reason : String} :
    Refuses (reject path reason : Parsed α) := throwsOnly_error _ |>.mpr trivial

@[simp] theorem not_succeeds_reject {α : Type} {path reason : String} :
    ¬ Succeeds (reject path reason : Parsed α) := not_succeeds_error _

section
variable {object : JsonObject} {key path : String}

@[simp] theorem refuses_check {condition : Bool} {path reason : String} :
    Refuses (check condition path reason) := by
  cases condition with
  | true => exact refuses_ok _
  | false => exact refuses_reject

@[simp] theorem refuses_requireField : Refuses (requireField object key path) := by
  unfold requireField
  split
  · exact refuses_ok _
  · exact refuses_reject

@[simp] theorem requireField_eq_ok {value : JsonValue} :
    requireField object key path = .ok value ↔ object.find? (ascii key) = some value := by
  unfold requireField
  split
  · rename_i found hfound
    simp [hfound]
  · rename_i hfound
    simp [hfound]

@[simp] theorem refuses_requireObject : Refuses (requireObject object key path) := by
  unfold requireObject
  rw [refuses_bind]
  constructor
  · exact refuses_requireField
  · intro value _
    split
    · exact refuses_ok _
    · exact refuses_reject

theorem asObject_eq_some {value : JsonValue} {members : JsonObject} :
    value.asObject = some members ↔ value = .object members := by
  cases value <;> simp [JsonValue.asObject]

theorem asString_eq_some {value : JsonValue} {text : ByteString} :
    value.asString = some text ↔ value = .string text := by
  cases value <;> simp [JsonValue.asString]

@[simp] theorem requireObject_eq_ok {members : JsonObject} :
    requireObject object key path = .ok members ↔
      object.find? (ascii key) = some (.object members) := by
  unfold requireObject
  simp only [bind_eq_ok, requireField_eq_ok]
  constructor
  · rintro ⟨value, hfound, h⟩
    split at h
    · rename_i found hobject
      cases h
      rw [hfound, asObject_eq_some.mp hobject]
    · simp at h
  · intro hfound
    exact ⟨_, hfound, rfl⟩

@[simp] theorem refuses_rejectUnknownFields {allowed : List String} :
    Refuses (rejectUnknownFields object allowed path) := by
  unfold rejectUnknownFields
  split
  · exact refuses_reject
  · exact refuses_ok _

@[simp] theorem rejectUnknownFields_eq_ok {allowed : List String} {u : Unit} :
    rejectUnknownFields object allowed path = .ok u ↔ hasOnly object allowed = true := by
  have hfind : List.find? (fun member => !(allowed.map ascii).contains member.1) object = none ↔
      hasOnly object allowed = true := by
    simp [hasOnly, List.find?_eq_none]
  unfold rejectUnknownFields
  split
  · rename_i member hfound
    have hunknown : ¬ hasOnly object allowed = true := by
      rw [← hfind, hfound]
      exact nofun
    simp [hunknown]
  · rename_i hfound
    exact iff_of_true rfl (hfind.mp hfound)

/-- A string is read when it is there, is bounded and has no control characters. -/
theorem requireString_eq_ok {value : ByteString} :
    requireString object key path = .ok value ↔
      object.find? (ascii key) = some (.string value) ∧ isBounded value = true ∧
        isPlain value = true := by
  unfold requireString
  simp only [bind_eq_ok, requireField_eq_ok]
  constructor
  · rintro ⟨found, hfound, h⟩
    split at h
    · rename_i text htext
      simp only [ite_eq_ok, reject_ne_ok, and_false, false_or] at h
      obtain ⟨hlength, hplain, heq⟩ := h
      cases heq
      rw [hfound, asString_eq_some.mp htext]
      simpa [isBounded, isPlain] using And.intro hlength hplain
    · simp at h
  · rintro ⟨hfound, hbounded, hplain⟩
    refine ⟨_, hfound, ?_⟩
    simp only [isBounded, Bool.and_eq_true, Bool.not_eq_true', decide_eq_true_eq] at hbounded
    simp only [isPlain, Bool.not_eq_true'] at hplain
    simp only [JsonValue.asString]
    rw [if_neg, if_neg]
    · simp [hplain]
    · simp [hbounded.1, hbounded.2]

@[simp] theorem refuses_requireString : Refuses (requireString object key path) := by
  unfold requireString
  rw [refuses_bind]
  constructor
  · exact refuses_requireField
  · intro value _
    split
    · split
      · exact refuses_reject
      · split
        · exact refuses_reject
        · exact refuses_ok _
    · exact refuses_reject

@[simp] theorem refuses_requireStringAllowEmpty :
    Refuses (requireStringAllowEmpty object key path) := by
  unfold requireStringAllowEmpty
  rw [refuses_bind]
  constructor
  · exact refuses_requireField
  · intro value _
    split
    · split
      · exact refuses_reject
      · split
        · exact refuses_reject
        · exact refuses_ok _
    · exact refuses_reject

theorem requireStringAllowEmpty_eq_ok {value : ByteString} :
    requireStringAllowEmpty object key path = .ok value ↔
      object.find? (ascii key) = some (.string value) ∧
        (decide (value.length ≤ 128) && isPlain value) = true := by
  unfold requireStringAllowEmpty
  simp only [bind_eq_ok, requireField_eq_ok]
  constructor
  · rintro ⟨found, hfound, h⟩
    split at h
    · rename_i text htext
      simp only [ite_eq_ok, reject_ne_ok, and_false, false_or] at h
      obtain ⟨hlength, hplain, heq⟩ := h
      cases heq
      rw [hfound, asString_eq_some.mp htext]
      simpa [isPlain] using And.intro hlength hplain
    · simp at h
  · rintro ⟨hfound, htext⟩
    refine ⟨_, hfound, ?_⟩
    simp only [Bool.and_eq_true, decide_eq_true_eq, isPlain, Bool.not_eq_true'] at htext
    simp only [JsonValue.asString]
    rw [if_neg, if_neg]
    · simp [htext.2]
    · simp [htext.1]

/-- The part of the helpers for integers that decides the range. -/
theorem inRange_eq_ok {α : Type} {reason : String} {outside : α → Prop} [DecidablePred outside]
    {parsed : Parsed α} {value : α} :
    (parsed >>= fun a => if outside a then reject path reason else .ok a) = .ok value ↔
      parsed = .ok value ∧ ¬ outside value := by
  rw [bind_eq_ok]
  constructor
  · rintro ⟨a, ha, h⟩
    simp only [ite_eq_ok, reject_ne_ok, and_false, false_or] at h
    obtain ⟨hrange, heq⟩ := h
    cases heq
    exact ⟨ha, hrange⟩
  · rintro ⟨hparsed, hrange⟩
    exact ⟨value, hparsed, if_neg hrange⟩

theorem refuses_inRange {α : Type} {reason : String} {outside : α → Prop} [DecidablePred outside]
    {parsed : Parsed α} (h : Refuses parsed) :
    Refuses (parsed >>= fun a => if outside a then reject path reason else .ok a) := by
  rw [refuses_bind]
  refine ⟨h, ?_⟩
  intro a _
  split
  · exact refuses_reject
  · exact refuses_ok _

@[simp] theorem refuses_requireBoundedInt {minimum maximum : ℤ} :
    Refuses (requireBoundedInt object key path minimum maximum) := by
  unfold requireBoundedInt
  rw [refuses_bind]
  constructor
  · exact refuses_requireField
  · intro value _
    cases value with
    | int64 value => exact refuses_inRange (refuses_ok _)
    | uint64 value => exact refuses_inRange (refuses_ok _)
    | _ => exact refuses_inRange refuses_reject

@[simp] theorem refuses_requireBoundedUint64 {minimum maximum : ℕ} :
    Refuses (requireBoundedUint64 object key path minimum maximum) := by
  unfold requireBoundedUint64
  rw [refuses_bind]
  constructor
  · exact refuses_requireField
  · intro value _
    cases value with
    | int64 value =>
      dsimp only
      split
      · exact refuses_inRange refuses_reject
      · exact refuses_inRange (refuses_ok _)
    | uint64 value => exact refuses_inRange (refuses_ok _)
    | _ => exact refuses_inRange refuses_reject

theorem toInt64_outside {minimum maximum : ℤ} {value : ℕ} (hmin : 0 ≤ minimum)
    (hmax : maximum < 2 ^ 63) (hword : value < 2 ^ 64) :
    (minimum ≤ toInt64 value ∧ toInt64 value ≤ maximum ↔
      minimum ≤ (value : ℤ) ∧ (value : ℤ) ≤ maximum) ∧
    (minimum ≤ toInt64 value → toInt64 value = value) := by
  unfold toInt64
  split
  · exact ⟨Iff.rfl, fun _ => rfl⟩
  · constructor
    · constructor
      · omega
      · omega
    · omega

/-- An integer is read when it is stored as one and is in the range. -/
theorem requireBoundedInt_eq_ok {minimum maximum value : ℤ} (hmin : 0 ≤ minimum)
    (hmax : maximum < 2 ^ 63) (hwords : areRepresentable object = true) :
    requireBoundedInt object key path minimum maximum = .ok value ↔
      ∃ found, object.find? (ascii key) = some found ∧ found.asInteger = some value ∧
        minimum ≤ value ∧ value ≤ maximum := by
  unfold requireBoundedInt
  simp only [bind_eq_ok, requireField_eq_ok]
  apply exists_congr
  intro found
  apply and_congr_right
  intro hfound
  have hword := representable_find hwords hfound
  cases found with
  | int64 stored =>
    show (Except.ok stored >>= _) = _ ↔ _
    rw [inRange_eq_ok]
    simp only [Except.ok.injEq, JsonValue.asInteger, Option.some.injEq, not_or, Int.not_lt]
  | uint64 stored =>
    show (Except.ok (toInt64 stored) >>= _) = _ ↔ _
    rw [inRange_eq_ok]
    simp only [isRepresentable, decide_eq_true_eq] at hword
    obtain ⟨hrange, hsame⟩ := @toInt64_outside minimum maximum stored hmin hmax hword
    simp only [Except.ok.injEq, JsonValue.asInteger, Option.some.injEq, not_or, Int.not_lt]
    constructor
    · rintro ⟨rfl, hle, hge⟩
      exact ⟨(hsame hle).symm, hle, hge⟩
    · rintro ⟨rfl, hle, hge⟩
      have hstored := hrange.mpr ⟨hle, hge⟩
      exact ⟨hsame hstored.1, hle, hge⟩
  | _ =>
    show (reject path _ >>= _) = _ ↔ _
    rw [inRange_eq_ok]
    simp [JsonValue.asInteger]

theorem requireBoundedUint64_eq_ok {minimum maximum value : ℕ} :
    requireBoundedUint64 object key path minimum maximum = .ok value ↔
      ∃ found, object.find? (ascii key) = some found ∧ found.asInteger = some (value : ℤ) ∧
        minimum ≤ value ∧ value ≤ maximum := by
  unfold requireBoundedUint64
  simp only [bind_eq_ok, requireField_eq_ok]
  apply exists_congr
  intro found
  apply and_congr_right
  intro hfound
  cases found with
  | int64 stored =>
    dsimp only
    split
    · rename_i hneg
      show (reject path _ >>= _) = _ ↔ _
      rw [inRange_eq_ok]
      simp only [reject_ne_ok, false_and, JsonValue.asInteger, Option.some.injEq, false_iff]
      omega
    · show (Except.ok stored.toNat >>= _) = _ ↔ _
      rw [inRange_eq_ok]
      simp only [Except.ok.injEq, JsonValue.asInteger, Option.some.injEq, not_or, Nat.not_lt]
      omega
  | uint64 stored =>
    show (Except.ok stored >>= _) = _ ↔ _
    rw [inRange_eq_ok]
    simp only [Except.ok.injEq, JsonValue.asInteger, Option.some.injEq, not_or, Nat.not_lt]
    omega
  | _ =>
    show (reject path _ >>= _) = _ ↔ _
    rw [inRange_eq_ok]
    simp [JsonValue.asInteger]

theorem has_iff {test : JsonValue → Bool} : has object key test = true ↔
    ∃ value, object.find? (ascii key) = some value ∧ test value = true := by
  unfold has
  rw [Option.any_eq_true]

/-- A test of both halves is a test of each. -/
theorem has_and {first second : JsonValue → Bool} :
    has object key (fun value => first value && second value) =
      (has object key first && has object key second) := by
  unfold has
  cases object.find? (ascii key) <;> rfl

@[simp] theorem refuses_requireBool : Refuses (requireBool object key path) := by
  unfold requireBool
  rw [refuses_bind]
  constructor
  · exact refuses_requireField
  · intro value _
    split
    · exact refuses_ok _
    · exact refuses_reject

@[simp] theorem requireBool_eq_ok {value : Bool} :
    requireBool object key path = .ok value ↔ object.find? (ascii key) = some (.bool value) := by
  unfold requireBool
  simp only [bind_eq_ok, requireField_eq_ok]
  constructor
  · rintro ⟨found, hfound, h⟩
    split at h
    · cases h
      exact hfound
    · simp at h
  · intro hfound
    exact ⟨_, hfound, rfl⟩

theorem has_boolean : has object key isBoolean = true ↔
    ∃ value, object.find? (ascii key) = some (.bool value) := by
  unfold has
  cases object.find? (ascii key) with
  | none => simp
  | some found => cases found <;> simp [isBoolean]

@[simp] theorem requireAsBool_eq_ok {value : Bool} :
    requireAsBool object key path = .ok value ↔ object.find? (ascii key) = some (.bool value) := by
  unfold requireAsBool
  simp only [bind_eq_ok, requireField_eq_ok]
  constructor
  · rintro ⟨found, hfound, h⟩
    split at h
    · cases h
      exact hfound
    · cases h
  · intro hfound
    exact ⟨_, hfound, rfl⟩

theorem refuses_systemError {α : Type} : ¬ Refuses (.error .systemError : Parsed α) := by
  unfold Refuses
  rw [throwsOnly_error]
  exact id

/-- A member of another kind makes `as_bool` throw. -/
theorem refuses_requireAsBool :
    Refuses (requireAsBool object key path) ↔ mayHave object key isBoolean = true := by
  unfold requireAsBool mayHave
  rw [refuses_bind]
  simp only [refuses_requireField, requireField_eq_ok, true_and, Option.all_eq_true]
  apply forall_congr'
  intro value
  apply imp_congr_right
  intro _
  cases value with
  | bool b => exact iff_of_true (refuses_ok b) rfl
  | _ => exact iff_of_false refuses_systemError Bool.false_ne_true

theorem refuses_requireFloat {rounding : Rounding} :
    Refuses (requireFloat rounding object key path) ↔ mayHave object key isStoredDouble = true := by
  unfold requireFloat mayHave
  rw [refuses_bind]
  simp only [refuses_requireField, requireField_eq_ok, true_and, Option.all_eq_true]
  apply forall_congr'
  intro value
  apply imp_congr_right
  intro _
  cases value with
  | double q => exact iff_of_true (refuses_ok _) rfl
  | infinity negative => exact iff_of_true (refuses_ok _) rfl
  | _ => exact iff_of_false refuses_systemError Bool.false_ne_true

@[simp] theorem requireFloat_eq_ok {rounding : Rounding} {value : FloatingPoint} :
    requireFloat rounding object key path = .ok value ↔
      ∃ found, object.find? (ascii key) = some found ∧ floatOf rounding found = some value := by
  unfold requireFloat
  simp only [bind_eq_ok, requireField_eq_ok]
  apply exists_congr
  intro found
  apply and_congr_right
  intro _
  cases found <;> simp [floatOf]

@[simp] theorem refuses_requireFiniteNumber {rounding : Rounding} :
    Refuses (requireFiniteNumber rounding object key path) := by
  unfold requireFiniteNumber
  rw [refuses_bind]
  constructor
  · exact refuses_requireField
  · intro value _
    cases value with
    | double q => exact refuses_ok _
    | int64 n => exact refuses_ok _
    | uint64 n => exact refuses_ok _
    | _ => exact refuses_reject

theorem has_isString {test : ByteString → Bool} : has object key (isString test) = true ↔
    ∃ value, object.find? (ascii key) = some (.string value) ∧ test value = true := by
  unfold has
  cases object.find? (ascii key) with
  | none => simp
  | some found => cases found <;> simp [isString]

theorem has_boundedString : has object key isBoundedString = true ↔
    ∃ value, requireString object key path = .ok value := by
  unfold isBoundedString
  simp only [has_isString, requireString_eq_ok, Bool.and_eq_true]

end

end NodusVision.Config
