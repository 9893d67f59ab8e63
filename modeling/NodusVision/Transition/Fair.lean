import Mathlib.Data.Nat.Find
import Mathlib.Logic.Function.Iterate
import Mathlib.Order.WellFounded

/-! Runs without an end, in which one thread is scheduled again and again. -/
namespace NodusVision.Transition
variable {σ ε μ : Type}

/-- A run whose steps never end. -/
def IsRun (step : σ → ε → Option σ) (state : ℕ → σ) (event : ℕ → ε) : Prop :=
  ∀ i, step (state i) (event i) = some (state (i + 1))

/-- As long as the run stays inside, marked events come again and again. -/
def Fair (inside : ℕ → Prop) (marked : ε → Prop) (event : ℕ → ε) : Prop :=
  ∀ n, ∃ i, n ≤ i ∧ (inside i → marked (event i))

/-- A state from which a choice of events leads on for ever begins a run. -/
theorem exists_run {step : σ → ε → Option σ} (next : σ → ε) {Good : σ → Prop} {s : σ} (h0 : Good s)
    (hgood : ∀ s, Good s → ∃ t, step s (next s) = some t ∧ Good t) :
    ∃ state event, IsRun step state event ∧ state 0 = s ∧ (∀ i, event i = next (state i)) ∧
      ∀ i, Good (state i) := by
  choose! after hafter using hgood
  have hall : ∀ i, Good (after^[i] s) := by
    intro i
    induction i with
    | zero => exact h0
    | succ i ih =>
      rw [Function.iterate_succ_apply']
      exact (hafter _ ih).2
  refine ⟨fun i => after^[i] s, fun i => next (after^[i] s), fun i => ?_, rfl, fun i => rfl, hall⟩
  show step (after^[i] s) _ = some (after^[i + 1] s)
  rw [Function.iterate_succ_apply']
  exact (hafter _ (hall i)).1

/-- No run stays inside for ever where no step raises a measure and the marked ones lower it. -/
theorem exists_leaves {lower : μ → μ → Prop} (hwf : WellFounded lower) {marked : ε → Prop}
    {event : ℕ → ε} {inside : ℕ → Prop} (measure : ℕ → μ)
    (hfair : Fair inside marked event)
    (hstep : ∀ i, inside i → inside (i + 1) →
      measure (i + 1) = measure i ∧ ¬marked (event i) ∨ lower (measure (i + 1)) (measure i)) :
    ∃ n, ¬inside n := by
  by_contra hall
  have hinside : ∀ i, inside i := not_exists_not.mp hall
  have hnone : ∀ m i, measure i = m → False := by
    intro m
    induction m using hwf.induction with
    | _ m ih =>
      intro i hi
      -- Nothing lowers the measure from here on.
      have hsame : ∀ k, measure (i + k) = m := by
        intro k
        induction k with
        | zero => exact hi
        | succ k ihk =>
          rcases hstep (i + k) (hinside _) (hinside _) with ⟨heq, -⟩ | hlow
          · exact heq.trans ihk
          · rw [ihk] at hlow
            exact (ih _ hlow _ rfl).elim
      obtain ⟨j, hj, hmarked⟩ := hfair i
      obtain ⟨k, rfl⟩ := Nat.exists_eq_add_of_le hj
      rcases hstep (i + k) (hinside _) (hinside _) with ⟨-, hnot⟩ | hlow
      · exact hnot (hmarked (hinside _))
      · rw [hsame k] at hlow
        exact ih _ hlow _ rfl
  exact hnone _ 0 rfl

/-- Where a run leaves for the first time, having been inside all the way. -/
theorem exists_last {inside : ℕ → Prop} (h0 : inside 0) (hleaves : ∃ n, ¬inside n) :
    ∃ n, (∀ i ≤ n, inside i) ∧ ¬inside (n + 1) := by
  classical
  have hfirst := Nat.find_spec hleaves
  cases hn : Nat.find hleaves with
  | zero =>
    rw [hn] at hfirst
    exact (hfirst h0).elim
  | succ n =>
    rw [hn] at hfirst
    refine ⟨n, fun i hi => not_not.mp (Nat.find_min hleaves ?_), hfirst⟩
    rw [hn]
    exact Nat.lt_succ_of_le hi

end NodusVision.Transition
