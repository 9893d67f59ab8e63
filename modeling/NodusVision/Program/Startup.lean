import NodusVision.Program.Throw

/-! A start as a chain of stages, each of which can throw and none of which is rolled back. -/
namespace NodusVision.Program
variable {σ ε : Type}

/-- A stage that throws leaves the state as it was. -/
abbrev StartStage (σ ε : Type) := σ → Except ε σ

/-- A stage that a failure from outside can hit. -/
def stageOr (failure : Option ε) (t : σ) : Except ε σ :=
  match failure with
  | none => .ok t
  | some e => .error e

@[simp] theorem stageOr_eq_ok {failure : Option ε} {s t : σ} :
    stageOr failure t = .ok s ↔ failure = none ∧ t = s := by
  cases failure <;> simp [stageOr]

@[simp] theorem stageOr_eq_error {failure : Option ε} {e : ε} {t : σ} :
    stageOr failure t = .error e ↔ failure = some e := by
  cases failure <;> simp [stageOr]

def runStages : List (StartStage σ ε) → σ → Except ε Unit × σ
  | [], s => (.ok (), s)
  | stage :: rest, s =>
    match stage s with
    | .ok t => runStages rest t
    | .error e => (.error e, s)

section
variable {stage : StartStage σ ε} {rest : List (StartStage σ ε)} {s t : σ} {e : ε}

@[simp] theorem runStages_nil : runStages ([] : List (StartStage σ ε)) s = (.ok (), s) := rfl

theorem runStages_ok (h : stage s = .ok t) : runStages (stage :: rest) s = runStages rest t := by
  rw [runStages, h]

theorem runStages_error (h : stage s = .error e) :
    runStages (stage :: rest) s = (.error e, s) := by
  rw [runStages, h]

/-- What every stage keeps, the chain keeps, also when it throws. -/
theorem runStages_keeps {stages : List (StartStage σ ε)} {P : σ → Prop}
    (hstages : ∀ stage ∈ stages, ∀ s t, stage s = .ok t → P s → P t) (h : P s) :
    P (runStages stages s).2 := by
  induction stages generalizing s with
  | nil => exact h
  | cons stage rest ih =>
    have hrest := fun next hnext => hstages next (List.mem_cons_of_mem stage hnext)
    cases hs : stage s with
    | ok t =>
      rw [runStages_ok hs]
      exact ih hrest (hstages stage List.mem_cons_self s t hs h)
    | error e =>
      rw [runStages_error hs]
      exact h

/-- The chain returns if its first stage and the rest of it do. -/
theorem runStages_returns :
    (runStages (stage :: rest) s).1 = .ok () ↔
      ∃ t, stage s = .ok t ∧ (runStages rest t).1 = .ok () := by
  cases hs : stage s with
  | ok t =>
    rw [runStages_ok hs]
    constructor
    · intro h
      exact ⟨t, rfl, h⟩
    · rintro ⟨u, hu, h⟩
      cases hu
      exact h
  | error e =>
    rw [runStages_error hs]
    constructor
    · intro h
      cases h
    · rintro ⟨u, hu, -⟩
      cases hu

end

end NodusVision.Program
