import Mathlib.Data.Int.Interval
import Mathlib.Data.Finset.Prod
import NodusVision.Program.Loops

/-! Nested counting loops: the pixels of a rectangle in row-major order. -/
namespace NodusVision.Program

/-- The rows in order, and the columns in each. -/
def raster (xs ys : List ℤ) : List (ℤ × ℤ) := ys.flatMap fun y => xs.map fun x => (x, y)

theorem mem_raster {xs ys : List ℤ} {p : ℤ × ℤ} : p ∈ raster xs ys ↔ p.1 ∈ xs ∧ p.2 ∈ ys := by
  obtain ⟨x, y⟩ := p
  simp only [raster, List.mem_flatMap, List.mem_map, Prod.mk.injEq]
  constructor
  · rintro ⟨b, hb, a, ha, rfl, rfl⟩
    exact ⟨ha, hb⟩
  · rintro ⟨hx, hy⟩
    exact ⟨y, hy, x, hx, rfl, rfl⟩

theorem nodup_raster {xs ys : List ℤ} (hx : xs.Nodup) (hy : ys.Nodup) : (raster xs ys).Nodup := by
  rw [raster, List.nodup_flatMap]
  constructor
  · intro y _
    exact hx.map fun a b h => (Prod.mk.inj h).1
  · apply hy.imp
    intro a b hab
    rw [Function.onFun, List.disjoint_left]
    intro p hp hq
    obtain ⟨_, -, rfl⟩ := List.mem_map.mp hp
    obtain ⟨_, -, heq⟩ := List.mem_map.mp hq
    exact hab (Prod.mk.inj heq).2.symm

theorem length_raster (xs ys : List ℤ) : (raster xs ys).length = xs.length * ys.length := by
  rw [raster, List.length_flatMap]
  simp [Nat.mul_comm]

/-- A coarser grid is a part of the raster, in the same order. -/
theorem raster_filter (xs ys : List ℤ) (f g : ℤ → Bool) :
    raster (xs.filter f) (ys.filter g) = (raster xs ys).filter fun p => f p.1 && g p.2 := by
  induction ys with
  | nil => rfl
  | cons y rest ih =>
    have hrow : (xs.map fun x => (x, y)).filter (fun p => f p.1 && g p.2) =
        if g y then (xs.filter f).map fun x => (x, y) else [] := by
      rw [List.filter_map]
      cases hg : g y with
      | true => simp [Function.comp_def, hg]
      | false => simp [Function.comp_def, hg]
    rw [raster, raster, List.flatMap_cons, List.filter_append, hrow]
    cases hg : g y with
    | true =>
      rw [List.filter_cons_of_pos hg, List.flatMap_cons, if_pos rfl]
      exact congrArg _ ih
    | false =>
      rw [List.filter_cons_of_neg (by simp [hg])]
      exact ih

section
variable {σ : Type} {stepX stepY : ℤ} {highX highY : ℤ}

/-- Two nested loops whose body succeeds at each pixel are a fold over the pixels. -/
theorem forLoop_raster {hx : 0 < stepX} {hy : 0 < stepY} {body : ℤ → ℤ → σ → Checked σ}
    {f : σ → ℤ × ℤ → σ} {lowX lowY : ℤ} {state : σ} (hlowX : -2 ^ 31 ≤ lowX) (hlowY : -2 ^ 31 ≤ lowY)
    (hhighX : highX + stepX ≤ 2 ^ 31) (hhighY : highY + stepY ≤ 2 ^ 31)
    (hbody : ∀ x y state, lowX ≤ x → x < highX → lowY ≤ y → y < highY →
      body y x state = .ok (f state (x, y))) :
    forLoop highY stepY hy (fun y => forLoop highX stepX hx (body y) lowX) lowY state =
      .ok ((raster (positions lowX highX stepX) (positions lowY highY stepY)).foldl f state) := by
  rw [forLoop_eq hlowY hhighY (f := fun state y =>
    (positions lowX highX stepX).foldl (fun state x => f state (x, y)) state)]
  · rw [raster, List.foldl_flatMap]
    simp only [List.foldl_map]
  · intro y state hylow hyhigh
    exact forLoop_eq hlowX hhighX fun x state hxlow hxhigh => hbody x y state hxlow hxhigh hylow hyhigh

end

/-- The pixels of a rectangle. -/
def rectangle (x y width height : ℤ) : Finset (ℤ × ℤ) :=
  @Finset.Ico ℤ _ Int.instLocallyFiniteOrder x (x + width) ×ˢ
    @Finset.Ico ℤ _ Int.instLocallyFiniteOrder y (y + height)

theorem mem_rectangle {x y width height : ℤ} {p : ℤ × ℤ} : p ∈ rectangle x y width height ↔
    (x ≤ p.1 ∧ p.1 < x + width) ∧ y ≤ p.2 ∧ p.2 < y + height := by
  rw [rectangle, Finset.mem_product, Finset.mem_Ico, Finset.mem_Ico]

theorem card_rectangle (x y width height : ℤ) :
    (rectangle x y width height).card = width.toNat * height.toNat := by
  rw [rectangle, Finset.card_product, Int.card_Ico, Int.card_Ico, add_sub_cancel_left, add_sub_cancel_left]

end NodusVision.Program
