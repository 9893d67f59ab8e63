import NodusVision.Adapters.Sampling

/-! The answers to the depth queries that the routes accept. -/
namespace NodusVision.Guarantees
open Program Recording Config Adapters

section
variable {request : RoiRequest} {profile : StreamProfile}

theorem request_bounds (h : isRoiRequestValid request profile = true) :
    (0 ≤ request.x ∧ request.x < profile.width) ∧ (0 ≤ request.y ∧ request.y < profile.height) ∧
      1 ≤ request.width ∧ 1 ≤ request.height ∧
      request.width * request.height ≤ profile.width * profile.height := by
  unfold isRoiRequestValid at h
  split_ifs at h with hbad
  have harea := of_decide_eq_true h
  push Not at hbad
  omega

/-- A side is at most the area. -/
theorem side_le {width height area : ℤ} (hwidth : 1 ≤ width) (hheight : 1 ≤ height)
    (harea : width * height ≤ area) : width ≤ area ∧ height ≤ area := by
  have hrow : width * 1 ≤ width * height := Int.mul_le_mul_of_nonneg_left hheight (by omega)
  have hcolumn : 1 * height ≤ width * height := Int.mul_le_mul_of_nonneg_right hwidth (by omega)
  omega

theorem clampRoi_eq (h : isRoiRequestValid request profile = true) :
    clampRoi profile request.x request.y request.width request.height =
      ⟨request.x, request.y, min (request.x + request.width) profile.width - request.x,
        min (request.y + request.height) profile.height - request.y⟩ := by
  obtain ⟨hx, hy, hwidth, hheight, -⟩ := request_bounds h
  have hleft : clamp request.x 0 profile.width = request.x := by
    rw [clamp_eq_max_min (by omega)]
    omega
  have htop : clamp request.y 0 profile.height = request.y := by
    rw [clamp_eq_max_min (by omega)]
    omega
  rw [clampRoi, hleft, htop, clamp_eq_max_min (by omega), clamp_eq_max_min (by omega)]
  congr 1
  · omega
  · omega

theorem clampRoi_pixels (h : isRoiRequestValid request profile = true) :
    (clampRoi profile request.x request.y request.width request.height).pixels =
      (PixelRoi.mk request.x request.y request.width request.height).pixels ∩
        (PixelRoi.mk 0 0 profile.width profile.height).pixels := by
  obtain ⟨hx, hy, -⟩ := request_bounds h
  rw [clampRoi_eq h]
  ext p
  simp only [PixelRoi.pixels, Finset.mem_inter, mem_rectangle]
  omega

theorem clampRoi_nonempty (h : isRoiRequestValid request profile = true) :
    (clampRoi profile request.x request.y request.width request.height).pixels.Nonempty := by
  obtain ⟨hx, hy, hwidth, hheight, -⟩ := request_bounds h
  rw [clampRoi_eq h]
  refine ⟨(request.x, request.y), ?_⟩
  simp only [PixelRoi.pixels, mem_rectangle]
  omega

end

section
variable {D : Type} [LinearOrder D] [Zero D] [Sub D] [Mul D] [Div D] [IntCast D]
variable {frame : FakeCapturedFrame D}

/-- What the query knows before it looks at the samples. -/
structure IsCount (depthOf : ℤ × ℤ → D) (bounds request roi : PixelRoi) (result : RoiDepthResult D) :
    Prop where
  requested : result.requestedRoi = request
  clampedRoi : result.clampedRoi = roi
  clamped : roi.pixels = request.pixels ∩ bounds.pixels
  nonempty : roi.pixels.Nonempty
  pixelCount : result.pixelCount = roi.pixels.card
  validPixelCount : result.validPixelCount = (positivePixels depthOf roi).card
  valid : result.valid = false
  depths : result.minDepthM = 0 ∧ result.maxDepthM = 0 ∧ result.medianDepthM = 0

/-- The samples of a count are described as the answer asks for. -/
theorem describeSamples_answers (std : StdSort D) {bounds requested roi : PixelRoi}
    {counted : RoiDepthResult D} (h : IsCount frame.depthOf bounds requested roi counted) :
    ∃ result, frame.describeSamples std counted (frame.samples roi) = .ok result ∧
      IsRoiAnswer frame.depthOf bounds requested result := by
  obtain ⟨hrequested, rfl, hclamped, hnonempty, hpixels, hvalid, hflag, hmin, hmax, hmedian⟩ := h
  have hlength := frame.length_samples counted.clampedRoi
  unfold FakeCapturedFrame.describeSamples
  cases hempty : frame.samples counted.clampedRoi with
  | nil =>
    rw [hempty] at hlength
    refine ⟨counted, rfl, ?_⟩
    constructor
    · exact hrequested
    · exact hclamped
    · exact hnonempty
    · exact hpixels
    · exact hvalid
    · rw [hflag, ← hlength]
      simp
    · rw [hflag]
      intro hfalse
      cases hfalse
    · rw [hflag]
      intro hfalse
      cases hfalse
    · rw [hflag]
      intro hfalse
      cases hfalse
    · rw [hmin, hmax, hmedian]
      exact ⟨le_rfl, le_rfl⟩
    · rw [hflag]
      intro hfalse
      cases hfalse
  | cons sample rest =>
    rw [← hempty]
    have hpos : 0 < (frame.samples counted.clampedRoi).length := by
      rw [hempty]
      exact Nat.succ_pos _
    have hsorted := (std.perm (frame.samples counted.clampedRoi)).length_eq
    have hcard : (positiveDepths frame.depthOf counted.clampedRoi).card =
        (frame.samples counted.clampedRoi).length := by
      rw [hlength]
      exact Multiset.card_map _ _
    obtain ⟨front, hfront, hfirst, -⟩ := frame.itemAt_sort std counted.clampedRoi hpos
    obtain ⟨back, hback, hlast, -⟩ := frame.itemAt_sort std counted.clampedRoi
      (i := (std.sort (frame.samples counted.clampedRoi)).length - 1) (by omega)
    obtain ⟨median, hmid, hrank, hpixel, hdepth⟩ := frame.itemAt_sort std counted.clampedRoi
      (i := (std.sort (frame.samples counted.clampedRoi)).length / 2) (by omega)
    rw [if_neg (by rw [hempty]; exact Bool.false_ne_true)]
    show ∃ result, (itemAt (std.sort _) ((0 : ℕ) : ℤ) >>= _) = .ok result ∧ _
    rw [hfront]
    show ∃ result, (itemAt (std.sort _) _ >>= _) = .ok result ∧ _
    rw [hback]
    show ∃ result, (itemAt (std.sort _) _ >>= _) = .ok result ∧ _
    rw [hmid]
    refine ⟨_, rfl, ?_⟩
    rw [hsorted] at hlast hrank
    constructor
    · exact hrequested
    · exact hclamped
    · exact hnonempty
    · exact hpixels
    · exact hvalid
    · simp only [true_iff]
      omega
    · intro _
      exact isLeast_first hfirst
    · intro _
      rw [← hcard] at hlast
      exact isGreatest_last hlast
    · intro _
      rw [hlength] at hrank
      exact hrank
    · exact ⟨rank_mono hfirst hrank (Nat.zero_le _), rank_mono hrank hlast (by omega)⟩
    · intro _
      exact ⟨hpixel, hdepth⟩

theorem buildPointCloudSnapshot_ok (h : frame.HasColors) {maxPoints : ℕ} (hmax : 1 ≤ maxPoints) {stride : ℤ}
    (hlow : 1 ≤ stride) (hright : frame.snapshot.depthProfile.width + stride < 2 ^ 31)
    (hbottom : frame.snapshot.depthProfile.height + stride < 2 ^ 31) :
    ∃ cloud, frame.buildPointCloudSnapshot maxPoints stride = .ok cloud ∧
      frame.IsSampling maxPoints stride cloud := by
  obtain ⟨found, hfound, hfoundRight, hfoundBottom, hleast⟩ :=
    FakeCapturedFrame.searchStride_least h.toHasImage hmax hlow hright hbottom
  have hpos : 0 < found := Int.lt_of_lt_of_le hlow hleast.1.1
  unfold FakeCapturedFrame.buildPointCloudSnapshot
  rw [if_neg (by omega), hfound]
  dsimp only [bind, Except.bind]
  rw [dif_pos hpos, FakeCapturedFrame.collectPoints_ok h hpos hfoundRight hfoundBottom]
  refine ⟨_, rfl, ?_⟩
  constructor
  · rfl
  · exact hleast
  · rfl
  · have hcount := FakeCapturedFrame.length_grid hpos h.toHasImage
    have hfits := hleast.1.2
    have hsub : (frame.strided found).length ≤ (frame.grid found).length := by
      rw [← FakeCapturedFrame.filter_grid hpos]
      exact List.length_filter_le _ _
    rw [List.length_map]
    omega

/-- A point cloud samples the image with the least stride that fits its points. -/
theorem buildPointCloudSnapshot_samples (h : frame.HasColors) {maxPoints : ℕ} (hmax : 1 ≤ maxPoints)
    {stride : ℤ} (hlow : 1 ≤ stride) (hhigh : stride ≤ 2 ^ 30) :
    ∃ cloud, frame.buildPointCloudSnapshot maxPoints stride = .ok cloud ∧
      frame.IsSampling maxPoints stride cloud := by
  have hmaxWidth := h.width_le
  have hmaxHeight := h.height_le
  exact buildPointCloudSnapshot_ok h hmax hlow (by omega) (by omega)

variable [Add D]

/-- The result before its samples are described. -/
def counted (frame : FakeCapturedFrame D) (request roi : PixelRoi) : RoiDepthResult D :=
  { emptyRoiResult frame.snapshot.identity request with
    clampedRoi := roi
    pixelCount := roi.width.toNat * roi.height.toNat
    validPixelCount := (frame.samples roi).length
    fillRate := if roi.width.toNat * roi.height.toNat = 0 then 0
      else (((frame.samples roi).length : ℤ) : D) / (((roi.width.toNat * roi.height.toNat : ℕ) : ℤ) : D)
    meanDepthM := ((FakeCapturedFrame.visited roi).foldl frame.addSample ([], 0)).2 }

/-- The query counts, and then describes its samples. -/
theorem queryDepthInRoi_counts (std : StdSort D) (himage : frame.HasImage) {request : RoiRequest}
    (h : isRoiRequestValid request frame.snapshot.depthProfile = true) :
    ∃ roi counted,
      IsCount frame.depthOf frame.image ⟨request.x, request.y, request.width, request.height⟩ roi
        counted ∧
      frame.queryDepthInRoi std request.x request.y request.width request.height =
        frame.describeSamples std counted (frame.samples roi) := by
  obtain ⟨hx, hy, hwidth, hheight, harea⟩ := request_bounds h
  have hmaxWidth := himage.width_le
  have hmaxHeight := himage.height_le
  have hmaxArea := (FakeCapturedFrame.index_bounds himage.width_le himage.height_le hx hy).2.2
  have hsides := side_le hwidth hheight harea
  generalize hroi : clampRoi frame.snapshot.depthProfile request.x request.y request.width
    request.height = roi
  have hpixels := clampRoi_pixels h
  have hnonempty := clampRoi_nonempty h
  have hclamp := clampRoi_eq h
  rw [hroi] at hpixels hnonempty hclamp
  have hright : clamp (request.x + request.width) 0 frame.snapshot.depthProfile.width =
      roi.x + roi.width := by
    rw [hclamp, clamp_eq_max_min (by omega)]
    dsimp only
    omega
  have hbottom : clamp (request.y + request.height) 0 frame.snapshot.depthProfile.height =
      roi.y + roi.height := by
    rw [hclamp, clamp_eq_max_min (by omega)]
    dsimp only
    omega
  have hcollect := FakeCapturedFrame.collect_ok himage roi (by rw [hclamp]; exact hx.1)
    (by rw [hclamp]; exact hy.1) (by rw [hclamp]; dsimp only; omega) (by rw [hclamp]; dsimp only; omega)
  have hleft : clamp request.x 0 frame.snapshot.depthProfile.width = roi.x := by
    rw [← hroi]
    rfl
  have htop : clamp request.y 0 frame.snapshot.depthProfile.height = roi.y := by
    rw [← hroi]
    rfl
  have hcolumns : max 0 (roi.x + roi.width - roi.x) = roi.width := by
    rw [hclamp]
    dsimp only
    omega
  have hrows : max 0 (roi.y + roi.height - roi.y) = roi.height := by
    rw [hclamp]
    dsimp only
    omega
  refine ⟨roi, counted frame ⟨request.x, request.y, request.width, request.height⟩ roi, ?_, ?_⟩
  · constructor
    · rfl
    · rfl
    · exact hpixels
    · exact hnonempty
    · exact (card_rectangle _ _ _ _).symm
    · exact frame.length_samples roi
    · rfl
    · exact ⟨rfl, rfl, rfl⟩
  · unfold FakeCapturedFrame.queryDepthInRoi
    rw [if_neg (by omega), int32_ok (by omega) (by omega), int32_ok (by omega) (by omega)]
    dsimp only [bind, Except.bind]
    rw [hright, hbottom, hleft, htop, hcolumns, hrows, hcollect, counted, ← frame.samples_eq]

/-- A query that the route accepts is answered, without overflow and within the image. -/
theorem queryDepthInRoi_answers (std : StdSort D) (himage : frame.HasImage) (request : RoiRequest)
    (h : isRoiRequestValid request frame.snapshot.depthProfile = true) :
    ∃ result, frame.queryDepthInRoi std request.x request.y request.width request.height = .ok result ∧
      IsRoiAnswer frame.depthOf frame.image ⟨request.x, request.y, request.width, request.height⟩
        result := by
  obtain ⟨roi, counted, hcounted, heq⟩ := queryDepthInRoi_counts std himage h
  rw [heq]
  exact describeSamples_answers std hcounted

end

/-- Depths in whole meters. -/
def byDepth : StdSort ℤ where
  sort samples := samples.mergeSort fun a b => a.1 ≤ b.1
  perm samples := List.mergeSort_perm samples _
  sorted samples := by
    have hsorted := @List.pairwise_mergeSort _ (fun a b : ℤ × ℤ × ℤ => decide (a.1 ≤ b.1))
      (by
        intro a b c hab hbc
        simp only [decide_eq_true_eq] at hab hbc ⊢
        omega)
      (by
        intro a b
        simp only [Bool.or_eq_true, decide_eq_true_eq]
        omega) samples
    exact hsorted.imp fun h => of_decide_eq_true h

/-- Two rows of two pixels, the first of them without a depth. -/
def square : FakeCapturedFrame ℤ where
  snapshot :=
    { identity := {}
      depthProfile := ⟨2, 2, 30, .z16⟩
      colorProfile := ⟨2, 2, 30, .rgb8⟩
      depthIntrinsics := ⟨2, 2, 1, 1, 0, 0⟩
      hasColor := true
      hasDepth := true }
  color := [1, 2, 3, 4, 5, 6, 7, 8, 9, 10, 11, 12]
  depth := [0, 3, 1, 2]

theorem square_hasColors : square.HasColors := by
  constructor
  · constructor <;> decide
  · rfl
  · rfl

theorem queryDepthInRoi_answers_square :
    isRoiRequestValid ⟨0, 1, 1, 4⟩ square.snapshot.depthProfile = true ∧
      ∃ result, square.queryDepthInRoi byDepth 0 1 1 4 = .ok result ∧
        IsRoiAnswer square.depthOf square.image ⟨0, 1, 1, 4⟩ result :=
  ⟨by decide, queryDepthInRoi_answers byDepth square_hasColors.toHasImage ⟨0, 1, 1, 4⟩ (by decide)⟩

theorem buildPointCloudSnapshot_samples_square :
    ∃ cloud, square.buildPointCloudSnapshot 3 1 = .ok cloud ∧ square.IsSampling 3 1 cloud :=
  buildPointCloudSnapshot_samples square_hasColors (by decide) (by decide) (by decide)

end NodusVision.Guarantees
