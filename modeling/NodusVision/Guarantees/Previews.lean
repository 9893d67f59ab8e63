import NodusVision.Application.Encoder

/-! Previews stay coherent with the frames that the encoder picks up. -/
namespace NodusVision.Guarantees
open Recording (FrameIdentity VideoFrameView)
open Provider Transition Application

/-- The identities stored in one slot so far, newest first. -/
def storedIdentities (kind : PreviewKind) : List PreviewAction → List FrameIdentity
  | [] => []
  | .published other preview stored :: earlier =>
    if other = kind ∧ stored = true then preview.identity :: storedIdentities kind earlier
    else storedIdentities kind earlier
  | _ :: earlier => storedIdentities kind earlier

/-- What one slot holds: the preview accepted last, unless an invalidation for another generation
followed. -/
def heldPreview (kind : PreviewKind) : List PreviewAction → Option EncodedPreview
  | [] => none
  | .published other preview stored :: earlier =>
    if other = kind ∧ stored = true then some preview else heldPreview kind earlier
  | .invalidated generation :: earlier =>
    (heldPreview kind earlier).filter fun preview => preview.identity.captureGeneration == generation
  | .read _ _ :: earlier => heldPreview kind earlier

/-- A read gives the preview that its slot holds. -/
def ReadsHeld (actions : List PreviewAction) : Prop :=
  ∀ kind preview earlier, .read kind (some preview) :: earlier <:+ actions →
    heldPreview kind earlier = some preview

/-- A read gives no preview of a generation older than one the encoder invalidated for. -/
def ReadsCurrent (actions : List PreviewAction) : Prop :=
  ∀ kind preview earlier, .read kind (some preview) :: earlier <:+ actions →
    ∀ generation, .invalidated generation ∈ earlier →
      generation ≤ preview.identity.captureGeneration

/-- What the encoder keeps up between its steps. -/
structure EncoderInv (s : Encoding) : Prop where
  frame : ∀ frame, s.store.latestFrame = some frame → frame.OwnsViews
  current : ∀ frame, s.current = some frame →
    frame.OwnsViews ∧ frame.identity = s.lastEncodedIdentity
  holds : ∀ kind, (s.cache.slot kind).preview = heldPreview kind s.actions
  bound : ∀ kind, ∀ identity ∈ storedIdentities kind s.actions,
    orderKey identity ≤ orderKey s.lastEncodedIdentity
  pending : ∀ kind, s.isPending kind = true → ∀ identity ∈ storedIdentities kind s.actions,
    orderKey identity < orderKey s.lastEncodedIdentity
  generation : (∀ frame, s.point ≠ .pickedUp frame) → ∀ kind preview,
    (s.cache.slot kind).preview = some preview →
      preview.identity.captureGeneration = s.lastEncodedIdentity.captureGeneration
  increasing : ∀ kind, (storedIdentities kind s.actions).Pairwise
    fun newer older => orderKey older < orderKey newer
  invalidated : ∀ generation, .invalidated generation ∈ s.actions →
    generation ≤ s.lastEncodedIdentity.captureGeneration ∧ ∀ kind preview,
      (s.cache.slot kind).preview = some preview →
        generation ≤ preview.identity.captureGeneration
  accepted : ∀ kind preview stored, .published kind preview stored ∈ s.actions →
    preview.jpeg ≠ [] → stored = true
  reads : ReadsCurrent s.actions
  answers : ReadsHeld s.actions

theorem held_stored {kind : PreviewKind} {preview : EncodedPreview} {actions : List PreviewAction}
    (h : heldPreview kind actions = some preview) : preview.identity ∈ storedIdentities kind actions := by
  induction actions with
  | nil => cases h
  | cons action earlier ih =>
    cases action with
    | published other published stored =>
      rw [heldPreview] at h
      rw [storedIdentities]
      split at h
      · cases h
        rw [if_pos ‹_›]
        exact List.mem_cons_self
      · rw [if_neg ‹_›]
        exact ih h
    | invalidated generation => exact ih (Option.filter_eq_some_iff.mp h).1
    | read other answer => exact ih h

/-- A preview in a slot was stored there. -/
theorem EncoderInv.slot {s : Encoding} (h : EncoderInv s) (kind : PreviewKind) (preview : EncodedPreview)
    (hs : (s.cache.slot kind).preview = some preview) :
    preview.identity ∈ storedIdentities kind s.actions :=
  held_stored ((h.holds kind).symm.trans hs)

theorem generation_le_of_key_le {older newer : FrameIdentity}
    (h : orderKey older ≤ orderKey newer) : older.captureGeneration ≤ newer.captureGeneration := by
  unfold orderKey at h
  rw [Prod.Lex.toLex_le_toLex] at h
  rcases h with h | h
  · exact h.le
  · exact h.1.le

/-- Only the point of the encoder moves, to one where no more is pending. -/
theorem EncoderInv.move {s : Encoding} (h : EncoderInv s) {point : EncoderPoint}
    (error : Text.ByteString)
    (hc : ∀ frame, ({ s with point } : Encoding).current = some frame → s.current = some frame)
    (hp : ∀ kind, ({ s with point } : Encoding).isPending kind = true → s.isPending kind = true)
    (hn : ∀ frame, s.point ≠ .pickedUp frame) :
    EncoderInv { s with point, lastError := error } where
  frame := h.frame
  current frame hf := h.current frame (hc frame hf)
  holds := h.holds
  bound := h.bound
  pending kind hk := h.pending kind (hp kind hk)
  generation _ := h.generation hn
  increasing := h.increasing
  invalidated := h.invalidated
  accepted := h.accepted
  reads := h.reads
  answers := h.answers

/-- The encoder goes where no frame is at work. -/
theorem EncoderInv.rest {s : Encoding} (h : EncoderInv s) (hn : ∀ frame, s.point ≠ .pickedUp frame)
    {point : EncoderPoint} (hp : point = .loop ∨ point = .waiting ∨ point = .ended) :
    EncoderInv { s with point } := by
  apply h.move s.lastError _ _ hn
  · intro frame hf
    rcases hp with rfl | rfl | rfl <;> cases hf
  · intro kind hk
    rcases hp with rfl | rfl | rfl <;> cases kind <;> cases hk

theorem EncoderInv.publishFrame {s : Encoding} (h : EncoderInv s) {frame : Option CapturedFrame}
    (ho : ∀ published, frame = some published → published.OwnsViews) :
    EncoderInv { s with store := (s.store.publishFrame frame s.now).2 } where
  frame := by
    cases frame with
    | none => exact h.frame
    | some frame =>
      intro latest hl
      change (s.store.publishFrame (some frame) s.now).2.latestFrame = some latest at hl
      rcases s.store.publishFrame_some frame s.now with ⟨he, -⟩ | ⟨he, -⟩
      · rw [he] at hl
        cases hl
        exact ho frame rfl
      · rw [he] at hl
        exact h.frame latest hl
  current := h.current
  holds := h.holds
  bound := h.bound
  pending := h.pending
  generation := h.generation
  increasing := h.increasing
  invalidated := h.invalidated
  accepted := h.accepted
  reads := h.reads
  answers := h.answers

theorem EncoderInv.read {s : Encoding} (h : EncoderInv s) {kind : PreviewKind}
    {answer : Option EncodedPreview}
    (ha : ∀ preview, answer = some preview → (s.cache.slot kind).preview = some preview) :
    EncoderInv { s with actions := .read kind answer :: s.actions } where
  frame := h.frame
  current := h.current
  holds := h.holds
  bound := h.bound
  pending := h.pending
  generation := h.generation
  increasing := h.increasing
  invalidated generation hg := by
    rcases List.mem_cons.mp hg with he | hg
    · cases he
    · exact h.invalidated generation hg
  accepted other preview stored hm := by
    rcases List.mem_cons.mp hm with he | hm
    · cases he
    · exact h.accepted other preview stored hm
  reads other preview earlier hs := by
    rcases List.suffix_cons_iff.mp hs with he | hs
    · cases he
      intro generation hg
      exact (h.invalidated generation hg).2 kind preview (ha preview rfl)
    · exact h.reads other preview earlier hs
  answers other preview earlier hs := by
    rcases List.suffix_cons_iff.mp hs with he | hs
    · cases he
      rw [← h.holds kind]
      exact ha preview rfl
    · exact h.answers other preview earlier hs

/-- The encoder takes a frame that is newer than its last one. -/
theorem EncoderInv.pickUp {s : Encoding} (h : EncoderInv s) {frame : CapturedFrame}
    (hl : s.store.latestFrame = some frame)
    (hn : orderKey s.lastEncodedIdentity < orderKey frame.identity) :
    EncoderInv { s with point := .pickedUp frame, lastEncodedIdentity := frame.identity } where
  frame := h.frame
  current latest hc := by
    cases hc
    exact ⟨h.frame frame hl, rfl⟩
  holds := h.holds
  bound kind identity hi := (h.bound kind identity hi).trans hn.le
  pending kind _ identity hi := (h.bound kind identity hi).trans_lt hn
  generation hp := absurd rfl (hp frame)
  increasing := h.increasing
  invalidated generation hg :=
    ⟨(h.invalidated generation hg).1.trans (generation_le_of_key_le hn.le),
      (h.invalidated generation hg).2⟩
  accepted := h.accepted
  reads := h.reads
  answers := h.answers

theorem EncoderInv.invalidate {s : Encoding} (h : EncoderInv s) {frame : CapturedFrame}
    (hp : s.point = .pickedUp frame) :
    EncoderInv { s with
      cache := s.cache.invalidateGeneration s.lastEncodedIdentity.captureGeneration
      point := .invalidated frame
      actions := .invalidated s.lastEncodedIdentity.captureGeneration :: s.actions } where
  frame := h.frame
  current latest hc := h.current latest (by rw [Encoding.current, hp]; exact hc)
  holds kind := by
    apply Option.ext
    intro preview
    rw [EncodedPreviewCache.slot_invalidateGeneration, h.holds kind, heldPreview,
      Option.filter_eq_some_iff, beq_iff_eq]
  bound := h.bound
  pending kind _ := h.pending kind (by simp only [Encoding.isPending, hp])
  generation _ kind preview hs := (EncodedPreviewCache.slot_invalidateGeneration.mp hs).2
  increasing := h.increasing
  invalidated generation hg := by
    rcases List.mem_cons.mp hg with he | hg
    · cases he
      refine ⟨le_rfl, fun kind preview hs => ?_⟩
      exact (EncodedPreviewCache.slot_invalidateGeneration.mp hs).2.ge
    · refine ⟨(h.invalidated generation hg).1, fun kind preview hs => ?_⟩
      exact (h.invalidated generation hg).2 kind preview
        (EncodedPreviewCache.slot_invalidateGeneration.mp hs).1
  accepted other preview stored hm := by
    rcases List.mem_cons.mp hm with he | hm
    · cases he
    · exact h.accepted other preview stored hm
  reads other preview earlier hs := by
    rcases List.suffix_cons_iff.mp hs with he | hs
    · cases he
    · exact h.reads other preview earlier hs
  answers other preview earlier hs := by
    rcases List.suffix_cons_iff.mp hs with he | hs
    · cases he
    · exact h.answers other preview earlier hs

/-- A pending preview of the current frame is stored unless it is empty. -/
theorem EncoderInv.publishPreview {s : Encoding} (h : EncoderInv s) {kind : PreviewKind}
    (hk : s.isPending kind = true) {preview : EncodedPreview}
    (hi : preview.identity = s.lastEncodedIdentity) :
    (s.cache.publishPreview kind (some preview) s.now =
      (true, s.cache.setSlot kind { preview := some preview, publishedAt := s.now })) ∨
    (s.cache.publishPreview kind (some preview) s.now = (false, s.cache) ∧ preview.jpeg = []) := by
  rcases s.cache.publishPreview_cases kind preview s.now with ⟨he, -⟩ | ⟨he, hj | ⟨old, ho, hle⟩⟩
  · exact .inl he
  · exact .inr ⟨he, hj⟩
  · have hlt := h.pending kind hk old.identity (h.slot kind old ho)
    rw [← hi] at hlt
    exact absurd hle (not_le.mpr hlt)

theorem EncoderInv.publish {s : Encoding} (h : EncoderInv s) {kind : PreviewKind}
    (hk : s.isPending kind = true) (hn : ∀ frame, s.point ≠ .pickedUp frame)
    {preview : EncodedPreview} (hi : preview.identity = s.lastEncodedIdentity)
    {next : EncoderPoint}
    (hc : ∀ frame, ({ s with point := next } : Encoding).current = some frame →
      s.current = some frame)
    (hp : ∀ other, ({ s with point := next } : Encoding).isPending other = true →
      s.isPending other = true ∧ other ≠ kind) :
    EncoderInv { s.publish kind preview with point := next } := by
  unfold Encoding.publish
  rcases h.publishPreview hk hi with he | ⟨he, hj⟩
  · rw [he]
    have hstored : ∀ other, storedIdentities other (.published kind preview true :: s.actions) =
        if other = kind then preview.identity :: storedIdentities kind s.actions
        else storedIdentities other s.actions := by
      intro other
      by_cases ho : other = kind
      · subst ho
        simp [storedIdentities]
      · simp [storedIdentities, ho, Ne.symm ho]
    constructor
    · exact h.frame
    · exact fun frame hf => h.current frame (hc frame hf)
    · intro other
      dsimp only
      rw [EncodedPreviewCache.slot_setSlot, heldPreview]
      by_cases ho : other = kind
      · rw [if_pos ho, if_pos ⟨ho.symm, rfl⟩]
      · rw [if_neg ho, if_neg fun hsame => ho hsame.1.symm]
        exact h.holds other
    · intro other identity hm
      dsimp only at hm ⊢
      rw [hstored] at hm
      split at hm
      · rcases List.mem_cons.mp hm with rfl | hm
        · rw [hi]
        · exact h.bound kind identity hm
      · exact h.bound other identity hm
    · intro other ho identity hm
      obtain ⟨hs, hne⟩ := hp other ho
      dsimp only at hm ⊢
      rw [hstored, if_neg hne] at hm
      exact h.pending other hs identity hm
    · intro _ other stored hs
      dsimp only at hs ⊢
      rw [EncodedPreviewCache.slot_setSlot] at hs
      split at hs
      · cases hs
        rw [hi]
      · exact h.generation hn other stored hs
    · intro other
      dsimp only
      rw [hstored]
      split
      · apply List.pairwise_cons.mpr ⟨_, h.increasing kind⟩
        intro older ho
        rw [hi]
        exact h.pending kind hk older ho
      · exact h.increasing other
    · intro generation hg
      rcases List.mem_cons.mp hg with hg | hg
      · cases hg
      · refine ⟨(h.invalidated generation hg).1, fun other stored hs => ?_⟩
        dsimp only at hs
        rw [EncodedPreviewCache.slot_setSlot] at hs
        split at hs
        · cases hs
          rw [hi]
          exact (h.invalidated generation hg).1
        · exact (h.invalidated generation hg).2 other stored hs
    · intro other published stored hm hj
      rcases List.mem_cons.mp hm with hm | hm
      · cases hm
        rfl
      · exact h.accepted other published stored hm hj
    · intro other published earlier hs
      rcases List.suffix_cons_iff.mp hs with hs | hs
      · cases hs
      · exact h.reads other published earlier hs
    · intro other published earlier hs
      rcases List.suffix_cons_iff.mp hs with hs | hs
      · cases hs
      · exact h.answers other published earlier hs
  · rw [he]
    have hstored : ∀ other, storedIdentities other (.published kind preview false :: s.actions) =
        storedIdentities other s.actions := by
      intro other
      simp [storedIdentities]
    constructor
    · exact h.frame
    · exact fun frame hf => h.current frame (hc frame hf)
    · intro other
      dsimp only
      rw [heldPreview, if_neg fun hsame => Bool.noConfusion hsame.2]
      exact h.holds other
    · intro other
      dsimp only
      rw [hstored]
      exact h.bound other
    · intro other ho
      dsimp only
      rw [hstored]
      exact h.pending other (hp other ho).1
    · exact fun _ => h.generation hn
    · intro other
      dsimp only
      rw [hstored]
      exact h.increasing other
    · intro generation hg
      rcases List.mem_cons.mp hg with hg | hg
      · cases hg
      · exact h.invalidated generation hg
    · intro other published stored hm hne
      rcases List.mem_cons.mp hm with hm | hm
      · cases hm
        exact absurd hj hne
      · exact h.accepted other published stored hm hne
    · intro other published earlier hs
      rcases List.suffix_cons_iff.mp hs with hs | hs
      · cases hs
      · exact h.reads other published earlier hs
    · intro other published earlier hs
      rcases List.suffix_cons_iff.mp hs with hs | hs
      · cases hs
      · exact h.answers other published earlier hs

theorem EncoderInv.encode {s : Encoding} (h : EncoderInv s) {kind : PreviewKind}
    (hk : s.isPending kind = true) (hn : ∀ frame, s.point ≠ .pickedUp frame)
    {view : Except Storage.Exception (Option VideoFrameView)}
    (hv : ∀ color, view = .ok (some color) → color.identity = s.lastEncodedIdentity)
    {encoded : Encoding.Encoded} {next : EncoderPoint}
    (hc : ∀ frame, ({ s with point := next } : Encoding).current = some frame →
      s.current = some frame)
    (hp : ∀ other, ({ s with point := next } : Encoding).isPending other = true →
      s.isPending other = true ∧ other ≠ kind) :
    EncoderInv (s.encode kind view encoded next) := by
  unfold Encoding.encode
  split
  · exact h.rest hn (.inr (.inr rfl))
  · exact h.move s.lastError hc (fun other ho => (hp other ho).1) hn
  · exact h.move (Encoding.encodingFailed kind) hc (fun other ho => (hp other ho).1) hn
  · exact h.publish hk hn (hv _ rfl) hc hp

theorem EncoderInv.encoderStep {s : Encoding} (h : EncoderInv s) (encoded : Encoding.Encoded) :
    EncoderInv (s.encoderStep encoded) := by
  unfold Encoding.encoderStep
  cases hpoint : s.point with
  | loop =>
    apply h.rest
    · intro frame
      rw [hpoint]
      exact EncoderPoint.noConfusion
    · cases s.stopRequested with
      | true => exact .inr (.inr rfl)
      | false => exact .inr (.inl rfl)
  | waiting =>
    dsimp only
    split
    · apply h.rest _ (.inl rfl)
      intro frame
      rw [hpoint]
      exact EncoderPoint.noConfusion
    · rename_i frame hf
      obtain ⟨hl, hnewer⟩ := Option.filter_eq_some_iff.mp hf
      exact h.pickUp hl (isNewerIdentity_iff.mp hnewer)
  | pickedUp frame => exact h.invalidate hpoint
  | invalidated frame =>
    obtain ⟨hown, hid⟩ := h.current frame (by rw [Encoding.current, hpoint])
    apply h.encode
    · simp only [Encoding.isPending, hpoint]
    · intro other
      rw [hpoint]
      exact EncoderPoint.noConfusion
    · intro color hv
      rw [← hid]
      exact hown.1 color hv
    · intro other hc
      rw [Encoding.current, hpoint]
      exact hc
    · intro other ho
      cases other with
      | color => cases ho
      | depth => exact ⟨by simp only [Encoding.isPending, hpoint], by decide⟩
  | colorDone frame =>
    obtain ⟨hown, hid⟩ := h.current frame (by rw [Encoding.current, hpoint])
    apply h.encode
    · simp only [Encoding.isPending, hpoint]
    · intro other
      rw [hpoint]
      exact EncoderPoint.noConfusion
    · intro depth hv
      rw [← hid]
      exact hown.2 depth hv
    · intro other hc
      cases hc
    · intro other ho
      cases other <;> cases ho
  | ended => exact h

theorem encoderInv_step {s t : Encoding} {event : Encoding.Event} (h : EncoderInv s)
    (ht : Encoding.step s event = some t) (ho : Encoding.publishesOwnViews s event t) :
    EncoderInv t := by
  cases event with
  | publishFrame frame =>
    cases ht
    apply h.publishFrame
    rintro published rfl
    exact ho published rfl
  | requestStop =>
    cases ht
    exact ⟨h.1, h.2, h.3, h.4, h.5, h.6, h.7, h.8, h.9, h.10, h.11⟩
  | encoder encoded =>
    cases ht
    exact h.encoderStep encoded
  | acquirePreview kind =>
    cases ht
    exact h.read fun _ => id
  | acquireFreshPreview kind maxAgeMs =>
    cases ht
    exact h.read fun _ => EncodedPreviewCache.acquireFreshPreview_some
  | elapse duration =>
    cases ht
    exact ⟨h.1, h.2, h.3, h.4, h.5, h.6, h.7, h.8, h.9, h.10, h.11⟩

theorem encoderInv_initial {s : Encoding} (h : s.IsInitial) : EncoderInv s := by
  obtain ⟨hstore, hcache, hpoint, hlast, hactions⟩ := h
  have hslot : ∀ kind preview, (s.cache.slot kind).preview ≠ some preview := by
    intro kind preview
    rw [hcache]
    intro hs
    cases kind <;> cases hs
  constructor
  · intro frame hf
    rw [hstore] at hf
    cases hf
  · intro frame hf
    rw [Encoding.current, hpoint] at hf
    cases hf
  · intro kind
    rw [hactions, hcache]
    cases kind <;> rfl
  · intro kind identity hi
    rw [hactions] at hi
    cases hi
  · intro kind _ identity hi
    rw [hactions] at hi
    cases hi
  · exact fun _ kind preview hs => absurd hs (hslot kind preview)
  · intro kind
    rw [hactions]
    exact List.Pairwise.nil
  · intro generation hg
    rw [hactions] at hg
    cases hg
  · intro kind preview stored hm
    rw [hactions] at hm
    cases hm
  · intro kind preview earlier hs
    rw [hactions] at hs
    cases List.suffix_nil.mp hs
  · intro kind preview earlier hs
    rw [hactions] at hs
    cases List.suffix_nil.mp hs

theorem encoderInv_reachable {s : Encoding}
    (h : Reach Encoding.IsInitial Encoding.step Encoding.publishesOwnViews s) : EncoderInv s := by
  apply h.invariant
  · intro s hs
    exact encoderInv_initial hs
  · intro s event t _ hi ht ho
    exact encoderInv_step hi ht ho

/-- What the previews have to do with the frames the encoder picked up. -/
structure PreviewsCoherent (s : Encoding) : Prop where
  /-- between two iterations of the loop -/
  slots : s.current = none → ∀ kind preview, (s.cache.slot kind).preview = some preview →
    preview.identity.captureGeneration = s.lastEncodedIdentity.captureGeneration ∧
      orderKey preview.identity ≤ orderKey s.lastEncodedIdentity
  holds : ∀ kind, (s.cache.slot kind).preview = heldPreview kind s.actions
  accepted : ∀ kind preview stored, .published kind preview stored ∈ s.actions →
    preview.jpeg ≠ [] → stored = true
  increasing : ∀ kind, (storedIdentities kind s.actions).Pairwise
    fun newer older => orderKey older < orderKey newer
  reads : ReadsCurrent s.actions
  answers : ReadsHeld s.actions

/-- Whichever frames are published, encoded or skipped, and whoever reads meanwhile. -/
theorem previews_coherent (s : Encoding)
    (h : Reach Encoding.IsInitial Encoding.step Encoding.publishesOwnViews s) :
    PreviewsCoherent s := by
  have hi := encoderInv_reachable h
  refine ⟨?_, hi.holds, hi.accepted, hi.increasing, hi.reads, hi.answers⟩
  intro hc kind preview hs
  constructor
  · apply hi.generation _ kind preview hs
    intro frame hf
    rw [Encoding.current, hf] at hc
    cases hc
  · exact hi.bound kind _ (hi.slot kind preview hs)

/-- A frame with color and depth views of its own identity. -/
def viewedFrame (captureGeneration frameNumber : ℕ) : CapturedFrame :=
  let view : VideoFrameView :=
    { width := 2, height := 2, strideBytes := 6, format := .rgb8, hasOwner := true, hasData := true
      identity := { captureGeneration, frameNumber } }
  { identity := view.identity
    colorFrameView := .ok (some view)
    depthPreviewFrameView := .ok (some view) }

/-- Two frames of different generations; the color view of the second does not encode. -/
def sampleEncoding : List Encoding.Event :=
  [.publishFrame (some (viewedFrame 1 7)), .encoder (.ok []), .encoder (.ok []), .encoder (.ok []),
    .encoder (.ok [1]), .publishFrame (some (viewedFrame 2 3)), .encoder (.ok [2]),
    .acquirePreview .depth, .encoder (.ok []), .encoder (.ok []), .encoder (.ok []),
    .encoder (.error ()), .acquirePreview .color, .encoder (.ok [3]), .acquirePreview .depth]

theorem ownsViews_viewedFrame (captureGeneration frameNumber : ℕ) :
    (viewedFrame captureGeneration frameNumber).OwnsViews := by
  constructor <;>
    · rintro view ⟨⟩
      rfl

theorem previews_coherent_sample :
    ∃ s : Encoding, (s.actions.length = 8 ∧ s.current.isNone ∧ s.lastError ≠ [] ∧
        (s.cache.slot .depth).preview.isSome) ∧
      PreviewsCoherent s := by
  have hr : Reach Encoding.IsInitial Encoding.step Encoding.publishesOwnViews {} :=
    .start ⟨rfl, rfl, rfl, rfl, rfl⟩
  have hrun : (runEvents Encoding.step (fun _ _ => true) {} sampleEncoding).any
      (fun s => s.actions.length = 8 ∧ s.current.isNone ∧ s.lastError ≠ [] ∧
        (s.cache.slot .depth).preview.isSome) = true := by decide
  have hown : ∀ event ∈ sampleEncoding, ∀ s t, Encoding.publishesOwnViews s event t := by
    rintro event he s t frame rfl
    simp only [sampleEncoding, List.mem_cons, Encoding.Event.publishFrame.injEq,
      Option.some.injEq, reduceCtorEq, List.not_mem_nil, or_false, false_or] at he
    rcases he with rfl | rfl <;> exact ownsViews_viewedFrame _ _
  obtain ⟨s, hs, ht⟩ := hr.exists_run_all hown hrun
  exact ⟨s, of_decide_eq_true ht, previews_coherent s hs⟩

end NodusVision.Guarantees
