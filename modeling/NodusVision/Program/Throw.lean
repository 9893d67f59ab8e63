/-! Rules for computations that may throw. -/
namespace NodusVision.Program
variable {ε α β : Type}

theorem bind_eq_ok {x : Except ε α} {f : α → Except ε β} {b : β} :
    (x >>= f) = .ok b ↔ ∃ a, x = .ok a ∧ f a = .ok b := by
  cases x with
  | error e =>
    constructor
    · intro h
      cases h
    · rintro ⟨a, ha, -⟩
      cases ha
  | ok a =>
    constructor
    · intro h
      exact ⟨a, rfl, h⟩
    · rintro ⟨a', ha, h⟩
      cases ha
      exact h

theorem ite_eq_ok {c : Prop} [Decidable c] {x y : Except ε α} {a : α} :
    (if c then x else y) = .ok a ↔ (c ∧ x = .ok a) ∨ (¬ c ∧ y = .ok a) := by
  by_cases h : c <;> simp [h]

/-- The computation returns. -/
def Succeeds (x : Except ε α) : Prop := ∃ a, x = .ok a

/-- What the computation throws, if it throws, is expected. -/
def ThrowsOnly (expected : ε → Prop) (x : Except ε α) : Prop := ∀ e, x = .error e → expected e

@[simp] theorem succeeds_ok (a : α) : Succeeds (.ok a : Except ε α) := ⟨a, rfl⟩

@[simp] theorem not_succeeds_error (e : ε) : ¬ Succeeds (.error e : Except ε α) := by
  rintro ⟨a, h⟩
  cases h

theorem succeeds_bind {x : Except ε α} {f : α → Except ε β} :
    Succeeds (x >>= f) ↔ ∃ a, x = .ok a ∧ Succeeds (f a) := by
  constructor
  · rintro ⟨b, h⟩
    obtain ⟨a, ha, hb⟩ := bind_eq_ok.mp h
    exact ⟨a, ha, b, hb⟩
  · rintro ⟨a, ha, b, hb⟩
    exact ⟨b, bind_eq_ok.mpr ⟨a, ha, hb⟩⟩

section
variable {expected : ε → Prop}

@[simp] theorem throwsOnly_ok (a : α) : ThrowsOnly expected (.ok a : Except ε α) := by
  intro e h
  cases h

@[simp] theorem throwsOnly_error (e : ε) :
    ThrowsOnly expected (.error e : Except ε α) ↔ expected e := by
  constructor
  · intro h
    exact h e rfl
  · intro he e' h
    cases h
    exact he

theorem throwsOnly_bind {x : Except ε α} {f : α → Except ε β} :
    ThrowsOnly expected (x >>= f) ↔
      ThrowsOnly expected x ∧ ∀ a, x = .ok a → ThrowsOnly expected (f a) := by
  cases x with
  | error e =>
    show ThrowsOnly expected (.error e) ↔ _
    simp
  | ok a =>
    show ThrowsOnly expected (f a) ↔ _
    simp

/-- A computation that does not return throws something. -/
theorem succeeds_or_error (x : Except ε α) : Succeeds x ∨ ∃ e, x = .error e := by
  cases x with
  | error e => exact .inr ⟨e, rfl⟩
  | ok a => exact .inl ⟨a, rfl⟩

end

end NodusVision.Program
