import NodusVision.Adapters.IntelD435
import NodusVision.Application.Routes
import NodusVision.Guarantees.DepthQueries

/-! The answers of the two cameras to the same request. -/
namespace NodusVision.Guarantees
open Program Recording Config Adapters

section
variable {D : Type} [LinearOrder D] [Zero D] [Add D] [Sub D] [Mul D] [Div D] [IntCast D]
variable {fake : FakeCapturedFrame D} {real : IntelD435CapturedFrame D}

/-- The requests on which the cameras agree: clouds without points at the requested stride. -/
def AgreesOn (fake : FakeCapturedFrame D) : DepthRequest → Prop
  | .roi _ => False
  | .pointCloud maxPoints stride =>
    (fake.snapshot.depthProfile.width + stride < 2 ^ 31 ∧
      fake.snapshot.depthProfile.height + stride < 2 ^ 31) ∧
    gridSlots fake.snapshot.depthProfile.width fake.snapshot.depthProfile.height stride ≤ maxPoints ∧
    ∀ p ∈ fake.image.pixels, stride ∣ p.1 → stride ∣ p.2 → fake.depthOf p ≤ 0

/-- The hardware reports no pixels, and a validated rectangle has some. -/
theorem roi_disagrees (std : StdSort D) (h : fake.HasImage) {request : RoiRequest}
    (hvalid : isRoiRequestValid request fake.snapshot.depthProfile = true) :
    ¬ Agree fake.depthOf (fake.toCapturedFrame std) real.toCapturedFrame (.roi request) := by
  rintro ⟨x, y, hx, hy, hsame⟩
  obtain ⟨result, hresult, hanswer⟩ := queryDepthInRoi_answers std h request hvalid
  obtain ⟨-, -, hwidth, hheight, -⟩ := request_bounds hvalid
  have heq : x = result := Except.ok.inj (hx.symm.trans hresult)
  have hempty : y.pixelCount = 0 := by
    have hquery : real.queryDepthInRoi request.x request.y request.width request.height = .ok y := hy
    rw [IntelD435CapturedFrame.queryDepthInRoi, if_neg (by omega)] at hquery
    cases hquery
    rfl
  have hcount := hanswer.pixelCount
  have hpos := hanswer.nonempty.card_pos
  have hpixels := hsame.pixelCount
  rw [heq] at hpixels
  omega

theorem pointCloud_agrees_iff (std : StdSort D) (h : fake.HasColors) {maxPoints : ℕ} {stride : ℤ}
    (hmax : 0 < maxPoints) (hstride : 0 < stride) :
    Agree fake.depthOf (fake.toCapturedFrame std) real.toCapturedFrame (.pointCloud maxPoints stride) ↔
      AgreesOn fake (.pointCloud maxPoints stride) := by
  have hreal : real.buildPointCloudSnapshot maxPoints stride = .ok
      ⟨real.snapshot.identity, real.snapshot.depthProfile, real.snapshot.depthIntrinsics, stride, stride,
        []⟩ := if_neg (by omega)
  constructor
  · rintro ⟨x, y, hx, hy, hsame⟩
    cases hreal.symm.trans hy
    have hfits : fake.snapshot.depthProfile.width + stride < 2 ^ 31 ∧
        fake.snapshot.depthProfile.height + stride < 2 ^ 31 := by
      by_contra hover
      cases (FakeCapturedFrame.buildPointCloudSnapshot_overflow h.toHasImage hmax hstride hover).symm.trans hx
    obtain ⟨cloud, hcloud, hsampling⟩ := buildPointCloudSnapshot_ok h hmax hstride hfits.1 hfits.2
    cases hcloud.symm.trans hx
    have hsameStride : x.stridePixels = stride := hsame.stride
    obtain ⟨pixels, hfake, hnone⟩ := hsame.pixels
    have hpixels : pixels = [] := List.map_eq_nil_iff.mp hnone.symm
    have hpoints : x.points = [] := by
      rw [hpixels] at hfake
      exact List.map_eq_nil_iff.mp hfake
    rw [hsampling.points, hsameStride] at hpoints
    have hleast := hsampling.least.1.2
    rw [hsameStride] at hleast
    exact ⟨hfits, hleast, FakeCapturedFrame.strided_eq_nil.mp (List.map_eq_nil_iff.mp hpoints)⟩
  · rintro ⟨hfits, hslots, hnone⟩
    obtain ⟨cloud, hcloud, hsampling⟩ := buildPointCloudSnapshot_ok h hmax hstride hfits.1 hfits.2
    have hsameStride : cloud.stridePixels = stride :=
      le_antisymm (hsampling.least.2 ⟨le_rfl, hslots⟩) hsampling.least.1.1
    have hpoints : cloud.points = [] := by
      rw [hsampling.points, hsameStride, FakeCapturedFrame.strided_eq_nil.mpr hnone]
      rfl
    refine ⟨cloud, _, hcloud, hreal, ?_⟩
    constructor
    · exact hsameStride
    · refine ⟨[], ?_, rfl⟩
      rw [SamplesPixels, hpoints]
      rfl
    · exact ⟨hsampling.bounded, Nat.zero_le _⟩

/-- The depth queries of the provider are advertised at its endpoints for them. -/
def AdvertisesDepthQueries (geometry : Pilot.CameraGeometry) (config : VisionConfig) : Prop :=
  ∀ path ∈ ["/query/roi_depth", "/snapshot/pointcloud.bin"],
    ∃ d ∈ (Pilot.buildCatalog geometry config).descriptors,
      d.endpoint = Pilot.makeEndpoint config.provider.advertisedBaseUrl path

theorem depthQueries_advertised (geometry : Pilot.CameraGeometry) (config : VisionConfig) :
    AdvertisesDepthQueries geometry config := by
  have hbase : ∀ d ∈ Pilot.baseDescriptors geometry config,
      d ∈ (Pilot.buildCatalog geometry config).descriptors := by
    intro d hd
    apply Application.mem_catalog.mpr
    exact List.mem_append_left _ (List.mem_append_left _ hd)
  simp only [Pilot.baseDescriptors, List.forall_mem_cons] at hbase
  obtain ⟨-, -, -, -, hroi, -, hcloud, -⟩ := hbase
  simp only [AdvertisesDepthQueries, List.forall_mem_cons]
  exact ⟨⟨_, hroi, rfl⟩, ⟨_, hcloud, rfl⟩, List.forall_mem_nil _⟩

/-- On a validated request the cameras agree exactly where the hardware has nothing to report. Their
queries are advertised whatever the device is. -/
theorem agree_iff (std : StdSort D) (h : fake.HasColors) {request : DepthRequest}
    (hvalid : request.IsValidated fake.snapshot.depthProfile) :
    (∀ real, SameImage fake real →
      (Agree fake.depthOf (fake.toCapturedFrame std) real.toCapturedFrame request ↔
        AgreesOn fake request)) ∧
    ∀ geometry config, AdvertisesDepthQueries geometry config := by
  refine ⟨?_, depthQueries_advertised⟩
  intro real _
  cases request with
  | roi request =>
    constructor
    · intro hagree
      exact roi_disagrees std h.toHasImage hvalid hagree
    · intro hfalse
      exact hfalse.elim
  | pointCloud maxPoints stride => exact pointCloud_agrees_iff std h hvalid.1 hvalid.2.1

end

/-- The image of the square as the hardware reports it. -/
def hardwareSquare : IntelD435CapturedFrame ℤ where
  snapshot := square.snapshot
  getDistance := fun x y => square.depthOf (x, y)

/-- The squares of the same image disagree on the depths of all of it. -/
theorem squares_disagree : ∃ request,
    DepthRequest.IsValidated square.snapshot.depthProfile request ∧ SameImage square hardwareSquare ∧
      ¬ Agree square.depthOf (square.toCapturedFrame byDepth) hardwareSquare.toCapturedFrame request := by
  refine ⟨.roi ⟨0, 0, 2, 2⟩, by decide, ?_, roi_disagrees byDepth square_hasColors.toHasImage (by decide)⟩
  constructor
  · rfl
  · intro p _
    rfl

theorem agree_iff_square :
    Agree square.depthOf (square.toCapturedFrame byDepth) hardwareSquare.toCapturedFrame
      (.pointCloud 1 2) ↔ AgreesOn square (.pointCloud 1 2) :=
  (agree_iff byDepth square_hasColors (by decide)).1 hardwareSquare ⟨rfl, fun _ _ => rfl⟩

end NodusVision.Guarantees
