import NodusVision.Provider.Stages

/-! The preview cache of the application, and a session that a stream was opened on beside it. -/
namespace NodusVision.Provider
open Text Recording

structure EncodedPreview where
  identity : FrameIdentity
  jpeg : ByteString
  deriving DecidableEq

abbrev PreviewKind := ProviderStreamKind

/-- Times are of the steady clock, in nanoseconds. -/
structure PreviewSlot where
  preview : Option EncodedPreview := none
  publishedAt : ℤ := 0

structure EncodedPreviewCache where
  colorPreview : PreviewSlot := {}
  depthPreview : PreviewSlot := {}

namespace EncodedPreviewCache

def slot (cache : EncodedPreviewCache) : PreviewKind → PreviewSlot
  | .color => cache.colorPreview
  | .depth => cache.depthPreview

def setSlot (cache : EncodedPreviewCache) (kind : PreviewKind) (slot : PreviewSlot) :
    EncodedPreviewCache :=
  match kind with
  | .color => { cache with colorPreview := slot }
  | .depth => { cache with depthPreview := slot }

@[simp] theorem slot_setSlot (cache : EncodedPreviewCache) (kind other : PreviewKind)
    (slot : PreviewSlot) :
    (cache.setSlot kind slot).slot other = if other = kind then slot else cache.slot other := by
  cases kind <;> cases other <;> rfl

/-- The answer says whether the preview was stored. -/
def publishPreview (cache : EncodedPreviewCache) (kind : PreviewKind)
    (preview : Option EncodedPreview) (now : ℤ) : Bool × EncodedPreviewCache :=
  match preview.filter fun preview => !preview.jpeg.isEmpty with
  | none => (false, cache)
  | some preview =>
    if (cache.slot kind).preview.any (fun old => !isNewerIdentity preview.identity old.identity) then
      (false, cache)
    else (true, cache.setSlot kind { preview := some preview, publishedAt := now })

def acquirePreview (cache : EncodedPreviewCache) (kind : PreviewKind) : Option EncodedPreview :=
  (cache.slot kind).preview

def acquireFreshPreview (cache : EncodedPreviewCache) (kind : PreviewKind) (maxAgeMs now : ℤ) :
    Option EncodedPreview :=
  if maxAgeMs ≤ 0 ∨ maxAgeMs * 1000000 < now - (cache.slot kind).publishedAt then none
  else (cache.slot kind).preview

/-- Empties a slot whose preview is of another generation. -/
def invalidateGeneration (cache : EncodedPreviewCache) (captureGeneration : ℕ) :
    EncodedPreviewCache :=
  let keep (slot : PreviewSlot) : PreviewSlot :=
    if slot.preview.any (fun p => p.identity.captureGeneration != captureGeneration) then {}
    else slot
  { colorPreview := keep cache.colorPreview, depthPreview := keep cache.depthPreview }

theorem publishPreview_cases (cache : EncodedPreviewCache) (kind : PreviewKind)
    (preview : EncodedPreview) (now : ℤ) :
    (cache.publishPreview kind (some preview) now =
        (true, cache.setSlot kind { preview := some preview, publishedAt := now }) ∧
      preview.jpeg ≠ []) ∨
    (cache.publishPreview kind (some preview) now = (false, cache) ∧
      (preview.jpeg = [] ∨ ∃ old, (cache.slot kind).preview = some old ∧
        orderKey preview.identity ≤ orderKey old.identity)) := by
  unfold publishPreview
  cases hj : preview.jpeg with
  | nil =>
    right
    exact ⟨by simp [Option.filter, hj], .inl rfl⟩
  | cons byte rest =>
    have hf : (some preview).filter (fun preview => !preview.jpeg.isEmpty) = some preview := by
      simp [Option.filter, hj]
    rw [hf]
    dsimp only
    split
    · rename_i ha
      right
      obtain ⟨old, ho, hn⟩ := (Option.any_eq_true _ _).mp ha
      refine ⟨rfl, .inr ⟨old, ho, ?_⟩⟩
      rw [← not_isNewerIdentity_iff]
      exact Bool.not_eq_true' _ ▸ hn
    · left
      exact ⟨rfl, by simp⟩

theorem slot_invalidateGeneration {cache : EncodedPreviewCache} {captureGeneration : ℕ}
    {kind : PreviewKind} {preview : EncodedPreview} :
    ((cache.invalidateGeneration captureGeneration).slot kind).preview = some preview ↔
      (cache.slot kind).preview = some preview ∧
        preview.identity.captureGeneration = captureGeneration := by
  have hkeep : ∀ slot : PreviewSlot,
      (if slot.preview.any (fun p => p.identity.captureGeneration != captureGeneration) then {}
        else slot : PreviewSlot).preview = some preview ↔
      slot.preview = some preview ∧ preview.identity.captureGeneration = captureGeneration := by
    intro slot
    cases hp : slot.preview with
    | none => simp [hp]
    | some p =>
      by_cases hg : p.identity.captureGeneration = captureGeneration
      · simp only [Option.any_some, hg, bne_self_eq_false, Bool.false_eq_true, if_false, hp]
        constructor
        · rintro ⟨⟩
          exact ⟨rfl, hg⟩
        · exact And.left
      · simp only [Option.any_some, bne_iff_ne, ne_eq, hg, not_false_eq_true, if_true]
        constructor
        · intro h
          cases h
        · rintro ⟨⟨⟩, h⟩
          exact absurd h hg
  cases kind with
  | color => exact hkeep cache.colorPreview
  | depth => exact hkeep cache.depthPreview

theorem acquireFreshPreview_some {cache : EncodedPreviewCache} {kind : PreviewKind}
    {maxAgeMs now : ℤ} {preview : EncodedPreview}
    (h : cache.acquireFreshPreview kind maxAgeMs now = some preview) :
    (cache.slot kind).preview = some preview := by
  unfold acquireFreshPreview at h
  split at h
  · cases h
  · exact h

end EncodedPreviewCache

/-- The labels of `CameraMountTransform` that a frame carries. -/
structure MountLabels where
  sensorFrame : ByteString
  mountFrame : ByteString
  calibrationId : ByteString

def makeIdentityHeaders (identity : FrameIdentity) (labels : MountLabels) : HeaderList :=
  [(ascii "X-Nodus-Capture-Generation", jsonNat identity.captureGeneration),
    (ascii "X-Nodus-Frame-Number", jsonNat identity.frameNumber),
    (ascii "X-Nodus-Capture-Timestamp-Ns", jsonInt identity.captureTimestampNs),
    (ascii "X-Nodus-Capture-Unix-Epoch-Ns", jsonInt identity.captureUnixEpochNs),
    (ascii "X-Nodus-Sensor-Frame", labels.sensorFrame),
    (ascii "X-Nodus-Mount-Frame", labels.mountFrame),
    (ascii "X-Nodus-Calibration-Id", labels.calibrationId)]

def makeStreamFrame (labels : MountLabels) (preview : Option EncodedPreview) :
    Option ProviderStreamFrame :=
  (preview.filter fun preview => !preview.jpeg.isEmpty).map fun preview =>
    { identity := preview.identity
      jpegData := some preview.jpeg
      headers := makeIdentityHeaders preview.identity labels }

/-- An announcement that nobody made. -/
def SessionEvent.isUnposted (event : SessionEvent) (inFlight : PreviewKind → ℕ) : Bool :=
  match event with
  | .notify kind => inFlight kind == 0
  | _ => false

/-- Announcements of a kind that are left after an event. -/
def SessionEvent.left (event : SessionEvent) (kind : PreviewKind) (n : ℕ) : ℕ :=
  match event with
  | .notify other => if other = kind then n - 1 else n
  | _ => n

/-- The server, the routes and the age limit that a stream is opened with. -/
structure ViewerSetup (S : Type) where
  handlers : Handlers S
  session : SessionSetup
  labels : MountLabels
  maxAgeMs : ℤ

/-- A session, the cache, and how many published previews of each kind were not announced to the
session yet. -/
structure Viewer (S : Type) where
  hosted : Hosted S
  cache : EncodedPreviewCache
  inFlight : PreviewKind → ℕ

namespace Viewer
variable {S : Type}

/-- `get_color_stream_frame` or `get_depth_stream_frame` -/
def streamFrame (setup : ViewerSetup S) (cache : EncodedPreviewCache) (kind : PreviewKind)
    (now : ℤ) : Acquired :=
  .ok (makeStreamFrame setup.labels (cache.acquireFreshPreview kind setup.maxAgeMs now))

inductive Event where
  | publish (kind : PreviewKind) (preview : Option EncodedPreview) (now : ℤ)
  | session (event : SessionEvent) (now : ℤ)

/-- A stored preview is announced once; the session handles the announcements in any order. -/
def step (setup : ViewerSetup S) (v : Viewer S) : Event → Option (Viewer S)
  | .publish kind preview now =>
    let published := v.cache.publishPreview kind preview now
    some { v with
      cache := published.2
      inFlight := if published.1 then fun other =>
        if other = kind then v.inFlight kind + 1 else v.inFlight other else v.inFlight }
  | .session event now =>
    if event.isUnposted v.inFlight then none
    else
      (sessionStep setup.handlers setup.session
        { frame := streamFrame setup v.cache v.hosted.conn.session.streamKind now
          answer := .error () } v.hosted event).map fun x =>
        { v with hosted := x, inFlight := fun kind => event.left kind (v.inFlight kind) }

/-- `startStream` has just served a request, with previews and announcements of any kind around. -/
def IsOpened (setup : ViewerSetup S) (v : Viewer S) : Prop :=
  ∃ kind version now origin host,
    v.hosted = startStream setup.handlers setup.session kind version
      (streamFrame setup v.cache kind now)
      { conn := { reading := false, session := { allowedOrigin := origin } }, host } ∧
    v.hosted.conn.session.streaming = true

end Viewer

end NodusVision.Provider
