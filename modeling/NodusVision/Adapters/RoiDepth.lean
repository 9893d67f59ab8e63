import NodusVision.Adapters.FakeCamera
import NodusVision.Program.Ranked
import NodusVision.Program.Raster

/-! The query about the depths of a rectangle. -/
namespace NodusVision.Adapters
open Program Recording Config

def PixelRoi.pixels (roi : PixelRoi) : Finset (ℤ × ℤ) := rectangle roi.x roi.y roi.width roi.height

section
variable {D : Type} [LinearOrder D] [Zero D]

def positivePixels (depthOf : ℤ × ℤ → D) (roi : PixelRoi) : Finset (ℤ × ℤ) :=
  roi.pixels.filter fun p => 0 < depthOf p

/-- The positive depths of a rectangle, one for each of their pixels. -/
def positiveDepths (depthOf : ℤ × ℤ → D) (roi : PixelRoi) : Multiset D :=
  (positivePixels depthOf roi).val.map depthOf

/-- What the answer to a query says about an image. -/
structure IsRoiAnswer (depthOf : ℤ × ℤ → D) (bounds request : PixelRoi) (result : RoiDepthResult D) :
    Prop where
  requested : result.requestedRoi = request
  clamped : result.clampedRoi.pixels = request.pixels ∩ bounds.pixels
  nonempty : result.clampedRoi.pixels.Nonempty
  pixelCount : result.pixelCount = result.clampedRoi.pixels.card
  validPixelCount : result.validPixelCount = (positivePixels depthOf result.clampedRoi).card
  valid : result.valid = true ↔ 0 < (positivePixels depthOf result.clampedRoi).card
  least : result.valid = true →
    IsLeast {d | d ∈ positiveDepths depthOf result.clampedRoi} result.minDepthM
  greatest : result.valid = true →
    IsGreatest {d | d ∈ positiveDepths depthOf result.clampedRoi} result.maxDepthM
  median : result.valid = true →
    ((positiveDepths depthOf result.clampedRoi).sort (· ≤ ·))[
      (positivePixels depthOf result.clampedRoi).card / 2]? = some result.medianDepthM
  ordered : result.minDepthM ≤ result.medianDepthM ∧ result.medianDepthM ≤ result.maxDepthM
  medianPixel : result.valid = true →
    (result.medianPixelX, result.medianPixelY) ∈ result.clampedRoi.pixels ∧
      depthOf (result.medianPixelX, result.medianPixelY) = result.medianDepthM

end

theorem clamp_eq_max_min {value low high : ℤ} (h : low ≤ high) :
    clamp value low high = max low (min value high) := by
  unfold clamp
  split_ifs <;> omega

theorem toSize_of_nonneg {value : ℤ} (h : 0 ≤ value) : toSize value = value := if_neg (by omega)

/-- The part of a request that lies in the image. -/
def clampRoi (profile : StreamProfile) (pixelX pixelY width height : ℤ) : PixelRoi where
  x := clamp pixelX 0 profile.width
  y := clamp pixelY 0 profile.height
  width := max 0 (clamp (pixelX + width) 0 profile.width - clamp pixelX 0 profile.width)
  height := max 0 (clamp (pixelY + height) 0 profile.height - clamp pixelY 0 profile.height)

namespace FakeCapturedFrame
variable {D : Type} {frame : FakeCapturedFrame D}

/-- The depths are an image of the dimensions of the profile. -/
structure HasImage (frame : FakeCapturedFrame D) : Prop where
  width_pos : 1 ≤ frame.snapshot.depthProfile.width
  width_le : frame.snapshot.depthProfile.width ≤ 4096
  height_pos : 1 ≤ frame.snapshot.depthProfile.height
  height_le : frame.snapshot.depthProfile.height ≤ 4096
  depth_length : (frame.depth.length : ℤ) =
    frame.snapshot.depthProfile.width * frame.snapshot.depthProfile.height

/-- The image as a rectangle. -/
def image (frame : FakeCapturedFrame D) : PixelRoi :=
  ⟨0, 0, frame.snapshot.depthProfile.width, frame.snapshot.depthProfile.height⟩

theorem index_bounds {width height x y : ℤ} (hwidth : width ≤ 4096) (hheight : height ≤ 4096)
    (hx : 0 ≤ x ∧ x < width) (hy : 0 ≤ y ∧ y < height) :
    0 ≤ y * width ∧ y * width + x < width * height ∧ width * height ≤ 16777216 := by
  have hrow : 0 ≤ y * width := Int.mul_nonneg hy.1 (by omega)
  have hrows : (y + 1) * width ≤ height * width := Int.mul_le_mul_of_nonneg_right (by omega) (by omega)
  have harea : width * height ≤ 4096 * 4096 := Int.mul_le_mul hwidth hheight (by omega) (by decide)
  rw [Int.add_mul, Int.one_mul, Int.mul_comm height] at hrows
  omega

section
variable [Zero D]

def depthOf (frame : FakeCapturedFrame D) (p : ℤ × ℤ) : D :=
  frame.depth.getD (p.2 * frame.snapshot.depthProfile.width + p.1).toNat 0

theorem depthAt_ok (h : HasImage frame) {x y : ℤ} (hx : 0 ≤ x ∧ x < frame.snapshot.depthProfile.width)
    (hy : 0 ≤ y ∧ y < frame.snapshot.depthProfile.height) : frame.depthAt x y = .ok (frame.depthOf (x, y)) := by
  obtain ⟨hrow, hlast, harea⟩ := index_bounds h.width_le h.height_le hx hy
  have hlength := h.depth_length
  unfold depthAt
  rw [int32_ok (by omega) (by omega)]
  show (int32 (_ + x) >>= fun index => itemAt frame.depth (toSize index)) = _
  rw [int32_ok (by omega) (by omega)]
  show itemAt frame.depth (toSize _) = _
  rw [toSize_of_nonneg (by omega), itemAt_ok (by omega) (by omega), depthOf, List.getD_eq_getElem?_getD]
  dsimp only
  rw [List.getElem?_eq_getElem (by omega)]
  rfl

variable [LinearOrder D]

/-- The pixels that the loops visit. -/
def visited (roi : PixelRoi) : List (ℤ × ℤ) :=
  raster (positions roi.x (roi.x + roi.width) 1) (positions roi.y (roi.y + roi.height) 1)

theorem nodup_visited (roi : PixelRoi) : (visited roi).Nodup := by
  apply nodup_raster
  · exact (positions_increasing (by decide)).imp fun h => h.ne
  · exact (positions_increasing (by decide)).imp fun h => h.ne

theorem toFinset_visited (roi : PixelRoi) : (visited roi).toFinset = roi.pixels := by
  ext p
  rw [List.mem_toFinset, visited, mem_raster, mem_positions (by decide), mem_positions (by decide),
    PixelRoi.pixels, mem_rectangle]
  simp [and_assoc]

/-- The pixels of a rectangle that are sampled, in order. -/
def sampled (frame : FakeCapturedFrame D) (roi : PixelRoi) : List (ℤ × ℤ) :=
  (visited roi).filter fun p => 0 < frame.depthOf p

theorem toFinset_sampled (roi : PixelRoi) :
    (frame.sampled roi).toFinset = positivePixels frame.depthOf roi := by
  rw [sampled, List.toFinset_filter, toFinset_visited, positivePixels]
  simp

theorem coe_sampled (roi : PixelRoi) :
    (frame.sampled roi : Multiset (ℤ × ℤ)) = (positivePixels frame.depthOf roi).val := by
  rw [← toFinset_sampled]
  exact congrArg Finset.val (List.toFinset_eq ((nodup_visited roi).filter _))

theorem length_sampled (roi : PixelRoi) :
    (frame.sampled roi).length = (positivePixels frame.depthOf roi).card := by
  rw [Finset.card_def, ← coe_sampled, Multiset.coe_card]

/-- The samples of a rectangle as they are collected. -/
def samples (frame : FakeCapturedFrame D) (roi : PixelRoi) : List (D × ℤ × ℤ) :=
  (frame.sampled roi).map fun p => (frame.depthOf p, p)

theorem length_samples (roi : PixelRoi) :
    (frame.samples roi).length = (positivePixels frame.depthOf roi).card := by
  rw [samples, List.length_map, length_sampled]

theorem sort_depths (std : StdSort D) (roi : PixelRoi) :
    (std.sort (frame.samples roi)).map Prod.fst = (positiveDepths frame.depthOf roi).sort (· ≤ ·) := by
  apply eq_sort
  · rw [List.pairwise_map]
    exact std.sorted _
  · have hperm := (std.perm (frame.samples roi)).map Prod.fst
    rw [Multiset.coe_eq_coe.mpr hperm, samples, List.map_map, positiveDepths, ← coe_sampled,
      Multiset.map_coe]
    rfl

/-- An element of the sorted samples, by its rank. -/
theorem itemAt_sort (std : StdSort D) (roi : PixelRoi) {i : ℕ} (hi : i < (frame.samples roi).length) :
    ∃ sample, itemAt (std.sort (frame.samples roi)) i = .ok sample ∧
      ((positiveDepths frame.depthOf roi).sort (· ≤ ·))[i]? = some sample.1 ∧
      sample.2 ∈ roi.pixels ∧ frame.depthOf sample.2 = sample.1 := by
  have hlength : i < (std.sort (frame.samples roi)).length := by
    rw [(std.perm _).length_eq]
    exact hi
  refine ⟨(std.sort (frame.samples roi)).get ⟨i, hlength⟩, ?_, ?_, ?_⟩
  · exact itemAt_ok (by omega) (by omega)
  · rw [← sort_depths std, List.getElem?_map, List.getElem?_eq_getElem hlength]
    rfl
  · have hmem := (std.perm (frame.samples roi)).subset (List.get_mem _ ⟨i, hlength⟩)
    obtain ⟨p, hp, heq⟩ := List.mem_map.mp hmem
    rw [← heq]
    rw [← List.mem_toFinset, toFinset_sampled, positivePixels, Finset.mem_filter] at hp
    exact ⟨hp.1, rfl⟩

variable [Add D]

/-- One step of the collection of the samples. -/
def addSample (frame : FakeCapturedFrame D) (state : List (D × ℤ × ℤ) × D) (p : ℤ × ℤ) :
    List (D × ℤ × ℤ) × D :=
  if 0 < frame.depthOf p then (state.1 ++ [(frame.depthOf p, p)], state.2 + frame.depthOf p) else state

theorem fold_addSample (pixels : List (ℤ × ℤ)) (state : List (D × ℤ × ℤ) × D) :
    (pixels.foldl frame.addSample state).1 =
      state.1 ++ (pixels.filter fun p => 0 < frame.depthOf p).map fun p => (frame.depthOf p, p) := by
  induction pixels generalizing state with
  | nil => simp
  | cons p rest ih =>
    rw [List.foldl_cons, ih, addSample]
    by_cases hp : 0 < frame.depthOf p
    · rw [if_pos hp, List.filter_cons_of_pos (by simpa using hp)]
      simp
    · rw [if_neg hp, List.filter_cons_of_neg (by simpa using hp)]

/-- The loops collect the positive depths of a rectangle of the image. -/
theorem collect_ok (h : HasImage frame) (roi : PixelRoi) (hx : 0 ≤ roi.x) (hy : 0 ≤ roi.y)
    (hwidth : roi.x + roi.width ≤ frame.snapshot.depthProfile.width)
    (hheight : roi.y + roi.height ≤ frame.snapshot.depthProfile.height) :
    forLoop (roi.y + roi.height) 1 (by decide)
      (fun y => forLoop (roi.x + roi.width) 1 (by decide) (frame.collectSample y) roi.x) roi.y ([], 0) =
      .ok ((visited roi).foldl frame.addSample ([], 0)) := by
  have hmaxWidth := h.width_le
  have hmaxHeight := h.height_le
  rw [forLoop_raster (f := frame.addSample) (by omega) (by omega) (by omega) (by omega)]
  · rfl
  · intro x y state hxlow hxhigh hylow hyhigh
    unfold collectSample
    rw [depthAt_ok h ⟨by omega, by omega⟩ ⟨by omega, by omega⟩]
    rfl

theorem samples_eq (roi : PixelRoi) : ((visited roi).foldl frame.addSample ([], 0)).1 = frame.samples roi :=
  fold_addSample _ _

end

end FakeCapturedFrame

end NodusVision.Adapters
