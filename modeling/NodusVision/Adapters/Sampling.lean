import Mathlib.Algebra.Order.Floor.Ring
import Mathlib.Data.Rat.Floor
import NodusVision.Adapters.RoiDepth

/-! The search for a stride and the pixels that a point cloud samples. -/
namespace NodusVision.Adapters
open Program Recording Config

/-- The points of a grid, at most. -/
def gridSlots (width height stride : ℤ) : ℤ := ⌈(width : ℚ) / stride⌉ * ⌈(height : ℚ) / stride⌉

theorem ceil_div_eq {value stride : ℤ} (h : 0 < stride) :
    ⌈(value : ℚ) / stride⌉ = (value + stride - 1) / stride := by
  have hstride : (0 : ℚ) < stride := by exact_mod_cast h
  apply eq_of_forall_ge_iff
  intro bound
  rw [Int.ceil_le, div_le_iff₀ hstride]
  have hceil : (value + stride - 1) / stride ≤ bound ↔ value + stride - 1 < (bound + 1) * stride := by
    rw [← Int.lt_add_one_iff]
    exact Int.ediv_lt_iff_lt_mul h
  rw [hceil]
  have hcast : (value : ℚ) ≤ bound * stride ↔ value ≤ bound * stride := by exact_mod_cast Iff.rfl
  rw [hcast, Int.add_mul]
  omega

section
variable {width height stride : ℤ}

theorem columns_bounds (hwidth : 1 ≤ width) (hstride : 1 ≤ stride) :
    1 ≤ (width + stride - 1) / stride ∧ (width + stride - 1) / stride ≤ width := by
  constructor
  · rw [Int.le_ediv_iff_mul_le (by omega)]
    omega
  · apply Int.le_of_lt_add_one
    rw [Int.ediv_lt_iff_lt_mul (by omega)]
    have hmul : width * 1 ≤ width * stride := Int.mul_le_mul_of_nonneg_left hstride (by omega)
    rw [Int.add_mul]
    omega

theorem gridSlots_eq (hstride : 1 ≤ stride) : gridSlots width height stride =
    (width + stride - 1) / stride * ((height + stride - 1) / stride) := by
  rw [gridSlots, ceil_div_eq (by omega), ceil_div_eq (by omega)]

theorem countSampleSlots_ok (hwidth : 1 ≤ width ∧ width ≤ 4096) (hheight : 1 ≤ height ∧ height ≤ 4096)
    (hstride : 1 ≤ stride) (hright : width + stride < 2 ^ 31) (hbottom : height + stride < 2 ^ 31) :
    countSampleSlots width height stride = .ok (gridSlots width height stride) := by
  have hcolumns := columns_bounds hwidth.1 hstride
  have hrows := columns_bounds hheight.1 hstride
  have harea : (width + stride - 1) / stride * ((height + stride - 1) / stride) ≤ 4096 * 4096 :=
    Int.mul_le_mul (by omega) (by omega) (by omega) (by decide)
  have hnonneg : 0 ≤ (width + stride - 1) / stride * ((height + stride - 1) / stride) :=
    Int.mul_nonneg (by omega) (by omega)
  unfold countSampleSlots
  rw [int32_ok (by omega) (by omega)]
  show (int32 (width + stride - 1) >>= _) = _
  rw [int32_ok (by omega) (by omega)]
  show (int32 (height + stride) >>= fun rows => int32 (rows - 1) >>= _) = _
  rw [int32_ok (by omega) (by omega)]
  show (int32 (height + stride - 1) >>= _) = _
  rw [int32_ok (by omega) (by omega)]
  show int32 ((width + stride - 1).tdiv stride * (height + stride - 1).tdiv stride) = _
  rw [Int.tdiv_eq_ediv_of_nonneg (by omega), Int.tdiv_eq_ediv_of_nonneg (by omega),
    int32_ok (by omega) (by omega), gridSlots_eq hstride]

theorem countSampleSlots_overflow (hwidth : 1 ≤ width) (hstride : 1 ≤ stride)
    (h : ¬(width + stride < 2 ^ 31 ∧ height + stride < 2 ^ 31)) :
    countSampleSlots width height stride = .error .overflow := by
  unfold countSampleSlots
  by_cases hright : width + stride < 2 ^ 31
  · rw [int32_ok (by omega) hright]
    show (int32 (width + stride - 1) >>= _) = _
    rw [int32_ok (by omega) (by omega)]
    show (int32 (height + stride) >>= fun rows => int32 (rows - 1) >>= _) = _
    have hbottom : int32 (height + stride) = .error .overflow := if_neg (by omega)
    rw [hbottom]
    rfl
  · have hoverflow : int32 (width + stride) = .error .overflow := if_neg (by omega)
    rw [hoverflow]
    rfl

theorem gridSlots_nonneg (hwidth : 1 ≤ width) (hheight : 1 ≤ height) (hstride : 1 ≤ stride) :
    0 ≤ gridSlots width height stride := by
  rw [gridSlots_eq hstride]
  apply Int.mul_nonneg
  · exact Int.le_trans (by decide) (columns_bounds hwidth hstride).1
  · exact Int.le_trans (by decide) (columns_bounds hheight hstride).1

/-- A stride of the size of the image leaves one slot. -/
theorem gridSlots_one (hwidth : 1 ≤ width ∧ width ≤ stride) (hheight : 1 ≤ height ∧ height ≤ stride) :
    gridSlots width height stride = 1 := by
  have hone : ∀ side, 1 ≤ side → side ≤ stride → (side + stride - 1) / stride = 1 := by
    intro side hlow hhigh
    rw [Int.ediv_eq_iff_of_pos (by omega)]
    omega
  rw [gridSlots_eq (by omega), hone width hwidth.1 hwidth.2, hone height hheight.1 hheight.2]
  rfl

end

namespace FakeCapturedFrame
variable {D : Type} {frame : FakeCapturedFrame D}

/-- The search ends, without overflow, at the least stride that fits. -/
theorem searchStride_least (h : frame.HasImage) {maxPoints : ℕ} (hmax : 1 ≤ maxPoints) {stride : ℤ}
    (hlow : 1 ≤ stride) (hright : frame.snapshot.depthProfile.width + stride < 2 ^ 31)
    (hbottom : frame.snapshot.depthProfile.height + stride < 2 ^ 31) :
    ∃ found, frame.searchStride maxPoints stride = .ok found ∧
      frame.snapshot.depthProfile.width + found < 2 ^ 31 ∧
      frame.snapshot.depthProfile.height + found < 2 ^ 31 ∧
      IsLeast {other | stride ≤ other ∧ gridSlots frame.snapshot.depthProfile.width
        frame.snapshot.depthProfile.height other ≤ maxPoints} found := by
  obtain ⟨hwidth, hmaxWidth, hheight, hmaxHeight, -⟩ := h
  induction hn : (2 ^ 31 - stride).toNat using Nat.strong_induction_on generalizing stride with
  | _ n ih =>
    have hslots := gridSlots_nonneg hwidth hheight hlow
    rw [searchStride, countSampleSlots_ok ⟨hwidth, hmaxWidth⟩ ⟨hheight, hmaxHeight⟩ hlow hright hbottom]
    dsimp only [bind, Except.bind]
    rw [toSize_of_nonneg hslots]
    by_cases hmore : (maxPoints : ℤ) < gridSlots frame.snapshot.depthProfile.width
      frame.snapshot.depthProfile.height stride
    · have hsmall : stride < 4096 := by
        by_contra hlarge
        rw [gridSlots_one ⟨hwidth, by omega⟩ ⟨hheight, by omega⟩] at hmore
        omega
      rw [if_pos hmore, if_pos (by omega)]
      obtain ⟨found, heq, hfoundRight, hfoundBottom, hmem, hleast⟩ :=
        ih _ (by omega) (by omega : 1 ≤ stride + 1) (by omega) (by omega) rfl
      refine ⟨found, heq, hfoundRight, hfoundBottom, ⟨?_, hmem.2⟩, ?_⟩
      · have hnext := hmem.1
        omega
      · intro other hother
        apply hleast
        refine ⟨?_, hother.2⟩
        -- the stride itself does not fit
        have hne : other ≠ stride := by
          intro heq
          rw [heq] at hother
          have hfits := hother.2
          omega
        have hle := hother.1
        omega
    · rw [if_neg hmore]
      refine ⟨stride, rfl, hright, hbottom, ⟨le_rfl, by omega⟩, ?_⟩
      intro other hother
      exact hother.1

/-- The colours are an image of the dimensions of the depths. -/
structure HasColors (frame : FakeCapturedFrame D) : Prop extends frame.HasImage where
  color_width : frame.snapshot.colorProfile.width = frame.snapshot.depthProfile.width
  color_length : (frame.color.length : ℤ) =
    frame.snapshot.depthProfile.width * frame.snapshot.depthProfile.height * 3

/-- The bytes of a pixel in the colour image. -/
def colorOf (frame : FakeCapturedFrame D) (p : ℤ × ℤ) : UInt8 × UInt8 × UInt8 :=
  let index := ((p.2 * frame.snapshot.depthProfile.width + p.1) * 3).toNat
  (frame.color.getD index 0, frame.color.getD (index + 1) 0, frame.color.getD (index + 2) 0)

theorem itemAt_getD {α : Type} {items : List α} {index : ℤ} {i : ℕ} (default : α)
    (hindex : index = i) (hbound : i < items.length) : itemAt items index = .ok (items.getD i default) := by
  subst hindex
  rw [itemAt_ok (by omega) (by omega), List.getD_eq_getElem?_getD, List.getElem?_eq_getElem hbound]
  rfl

theorem colorAt_ok (h : HasColors frame) {x y : ℤ} (hx : 0 ≤ x ∧ x < frame.snapshot.depthProfile.width)
    (hy : 0 ≤ y ∧ y < frame.snapshot.depthProfile.height) : frame.colorAt x y = .ok (frame.colorOf (x, y)) := by
  obtain ⟨hrow, hlast, harea⟩ := index_bounds h.width_le h.height_le hx hy
  have hlength := h.color_length
  unfold colorAt
  rw [h.color_width, int32_ok (by omega) (by omega)]
  show (int32 (_ + x) >>= _) = _
  rw [int32_ok (by omega) (by omega)]
  show (int32 ((_ + x) * 3) >>= _) = _
  rw [int32_ok (by omega) (by omega)]
  dsimp only [bind, Except.bind]
  rw [toSize_of_nonneg (by omega),
    itemAt_getD 0 (i := ((y * frame.snapshot.depthProfile.width + x) * 3).toNat) (by omega) (by omega),
    itemAt_getD 0 (i := ((y * frame.snapshot.depthProfile.width + x) * 3).toNat + 1) (by omega) (by omega),
    itemAt_getD 0 (i := ((y * frame.snapshot.depthProfile.width + x) * 3).toNat + 2) (by omega) (by omega)]
  rfl

/-- The pixels that the loops visit with a stride. -/
def grid (frame : FakeCapturedFrame D) (stride : ℤ) : List (ℤ × ℤ) :=
  raster (positions 0 frame.snapshot.depthProfile.width stride)
    (positions 0 frame.snapshot.depthProfile.height stride)

theorem length_grid {stride : ℤ} (h : 1 ≤ stride) (himage : frame.HasImage) :
    ((frame.grid stride).length : ℤ) =
      gridSlots frame.snapshot.depthProfile.width frame.snapshot.depthProfile.height stride := by
  have hcolumns := columns_bounds himage.width_pos h
  have hrows := columns_bounds himage.height_pos h
  rw [grid, length_raster, length_positions, length_positions, gridSlots_eq h]
  push_cast
  rw [Int.sub_zero, Int.sub_zero, Int.toNat_of_nonneg (by omega), Int.toNat_of_nonneg (by omega)]

section
variable [LinearOrder D] [Zero D]

/-- The pixels of the image that a stride samples, row by row. -/
def strided (frame : FakeCapturedFrame D) (stride : ℤ) : List (ℤ × ℤ) :=
  (visited frame.image).filter fun p => stride ∣ p.1 ∧ stride ∣ p.2 ∧ 0 < frame.depthOf p

theorem filter_grid {stride : ℤ} (h : 0 < stride) :
    (frame.grid stride).filter (fun p => 0 < frame.depthOf p) = frame.strided stride := by
  rw [grid, positions_filter h, positions_filter h, raster_filter, List.filter_filter, strided, visited,
    image]
  simp only [zero_add]
  apply List.filter_congr
  intro p _
  simp only [Bool.decide_and]
  rw [Bool.and_comm, Bool.and_assoc]

theorem mem_strided {stride : ℤ} {p : ℤ × ℤ} : p ∈ frame.strided stride ↔
    p ∈ frame.image.pixels ∧ stride ∣ p.1 ∧ stride ∣ p.2 ∧ 0 < frame.depthOf p := by
  rw [strided, List.mem_filter, ← List.mem_toFinset,
    toFinset_visited, decide_eq_true_eq]

theorem strided_eq_nil {stride : ℤ} : frame.strided stride = [] ↔
    ∀ p ∈ frame.image.pixels, stride ∣ p.1 → stride ∣ p.2 → frame.depthOf p ≤ 0 := by
  rw [List.eq_nil_iff_forall_not_mem]
  constructor
  · intro h p hp hx hy
    by_contra hpos
    exact h p (mem_strided.mpr ⟨hp, hx, hy, not_le.mp hpos⟩)
  · intro h p hp
    obtain ⟨hpixel, hx, hy, hpos⟩ := mem_strided.mp hp
    exact absurd hpos (not_lt.mpr (h p hpixel hx hy))

variable [Sub D] [Mul D] [Div D] [IntCast D]

def pointAt (frame : FakeCapturedFrame D) (p : ℤ × ℤ) : PointCloudPoint D :=
  ⟨deproject frame.snapshot.depthIntrinsics p.1 p.2 (frame.depthOf p), frame.colorOf p⟩

/-- What a point cloud says about an image. -/
structure IsSampling (frame : FakeCapturedFrame D) (maxPoints : ℕ) (stride : ℤ)
    (cloud : PointCloudSnapshot D) : Prop where
  requested : cloud.requestedStridePixels = stride
  least : IsLeast {other | stride ≤ other ∧ gridSlots frame.snapshot.depthProfile.width
    frame.snapshot.depthProfile.height other ≤ maxPoints} cloud.stridePixels
  points : cloud.points = (frame.strided cloud.stridePixels).map frame.pointAt
  bounded : cloud.points.length ≤ maxPoints

/-- One step of the collection of the points. -/
def addPoint (frame : FakeCapturedFrame D) (points : List (PointCloudPoint D)) (p : ℤ × ℤ) :
    List (PointCloudPoint D) :=
  if 0 < frame.depthOf p then points ++ [frame.pointAt p] else points

theorem fold_addPoint (pixels : List (ℤ × ℤ)) (points : List (PointCloudPoint D)) :
    pixels.foldl frame.addPoint points =
      points ++ (pixels.filter fun p => 0 < frame.depthOf p).map frame.pointAt := by
  induction pixels generalizing points with
  | nil => simp
  | cons p rest ih =>
    rw [List.foldl_cons, ih, addPoint]
    by_cases hp : 0 < frame.depthOf p
    · rw [if_pos hp, List.filter_cons_of_pos (by simpa using hp)]
      simp
    · rw [if_neg hp, List.filter_cons_of_neg (by simpa using hp)]

/-- The loops collect the points of a grid. -/
theorem collectPoints_ok (h : frame.HasColors) {stride : ℤ} (hstride : 0 < stride)
    (hright : frame.snapshot.depthProfile.width + stride < 2 ^ 31)
    (hbottom : frame.snapshot.depthProfile.height + stride < 2 ^ 31) :
    forLoop frame.snapshot.depthProfile.height stride hstride
      (fun y => forLoop frame.snapshot.depthProfile.width stride hstride (frame.collectPoint y) 0) 0 [] =
      .ok ((frame.strided stride).map frame.pointAt) := by
  have hmaxWidth := h.width_le
  have hmaxHeight := h.height_le
  rw [forLoop_raster (f := frame.addPoint) (by omega) (by omega) (by omega) (by omega)]
  · rw [fold_addPoint, List.nil_append, ← filter_grid hstride, grid]
  · intro x y points hxlow hxhigh hylow hyhigh
    unfold collectPoint
    rw [depthAt_ok h.toHasImage ⟨hxlow, hxhigh⟩ ⟨hylow, hyhigh⟩]
    show (if frame.depthOf (x, y) ≤ 0 then _ else (frame.colorAt x y >>= _)) = _
    rw [addPoint]
    by_cases hdepth : frame.depthOf (x, y) ≤ 0
    · rw [if_pos hdepth, if_neg (not_lt.mpr hdepth)]
    · rw [if_neg hdepth, if_pos (not_le.mp hdepth), colorAt_ok h ⟨hxlow, hxhigh⟩ ⟨hylow, hyhigh⟩]
      rfl

theorem buildPointCloudSnapshot_overflow (h : frame.HasImage) {maxPoints : ℕ} {stride : ℤ}
    (hmax : 0 < maxPoints) (hstride : 0 < stride)
    (hover : ¬(frame.snapshot.depthProfile.width + stride < 2 ^ 31 ∧
      frame.snapshot.depthProfile.height + stride < 2 ^ 31)) :
    frame.buildPointCloudSnapshot maxPoints stride = .error .overflow := by
  unfold buildPointCloudSnapshot
  rw [if_neg (by omega), searchStride,
    countSampleSlots_overflow h.width_pos hstride hover]
  rfl

end

end FakeCapturedFrame

end NodusVision.Adapters
