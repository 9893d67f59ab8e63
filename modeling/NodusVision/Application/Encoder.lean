import NodusVision.Application.FrameStore
import NodusVision.Provider.Preview

/-! The thread that encodes previews, beside publishers of frames and readers of previews. -/
namespace NodusVision.Application
open Text Storage Provider Transition
open Recording (FrameIdentity VideoFrameView)

/-- Where the loop of the encoder thread stands. -/
inductive EncoderPoint where
  | loop
  | waiting
  | pickedUp (frame : CapturedFrame)
  | invalidated (frame : CapturedFrame)
  | colorDone (frame : CapturedFrame)
  | ended

/-- What the threads did to the preview cache. -/
inductive PreviewAction where
  | invalidated (captureGeneration : ℕ)
  | published (kind : PreviewKind) (preview : EncodedPreview) (stored : Bool)
  | read (kind : PreviewKind) (answer : Option EncodedPreview)

/-- `notified` counts the calls of `notifyStreamFrame`; `actions` has the newest first. -/
structure Encoding where
  store : FrameStore := {}
  cache : EncodedPreviewCache := {}
  point : EncoderPoint := .loop
  lastEncodedIdentity : FrameIdentity := {}
  stopRequested : Bool := false
  lastError : ByteString := []
  notified : PreviewKind → ℕ := fun _ => 0
  now : ℤ := 0
  actions : List PreviewAction := []

namespace Encoding

def encodingFailed : PreviewKind → ByteString
  | .color => ascii "Color preview JPEG encoding failed."
  | .depth => ascii "Depth preview JPEG encoding failed."

/-- `encodeRgbJpeg` answers bytes or throws. -/
abbrev Encoded := Except Unit ByteString

def publish (s : Encoding) (kind : PreviewKind) (preview : EncodedPreview) : Encoding :=
  let published := s.cache.publishPreview kind (some preview) s.now
  { s with
    cache := published.2
    notified := if published.1 then fun other =>
      if other = kind then s.notified kind + 1 else s.notified other else s.notified
    actions := .published kind preview published.1 :: s.actions }

/-- One kind of preview, and the point the loop goes on at; a view that throws ends the thread. -/
def encode (s : Encoding) (kind : PreviewKind) (view : Except Exception (Option VideoFrameView))
    (encoded : Encoded) (next : EncoderPoint) : Encoding :=
  match view, encoded with
  | .error _, _ => { s with point := .ended }
  | .ok none, _ => { s with point := next }
  | .ok (some _), .error _ => { s with point := next, lastError := encodingFailed kind }
  | .ok (some view), .ok jpeg =>
    { s.publish kind { identity := view.identity, jpeg } with point := next }

inductive Event where
  | publishFrame (frame : Option CapturedFrame)
  | requestStop
  | encoder (encoded : Encoded)
  | acquirePreview (kind : PreviewKind)
  | acquireFreshPreview (kind : PreviewKind) (maxAgeMs : ℤ)
  | elapse (duration : ℕ)

/-- The next step of the encoder thread -/
def encoderStep (s : Encoding) (encoded : Encoded) : Encoding :=
  match s.point with
  | .loop => { s with point := if s.stopRequested then .ended else .waiting }
  | .waiting =>
    match s.store.latestFrame.filter fun latest =>
        isNewerIdentity latest.identity s.lastEncodedIdentity with
    -- the wait timed out
    | none => { s with point := .loop }
    | some frame => { s with point := .pickedUp frame, lastEncodedIdentity := frame.identity }
  | .pickedUp frame =>
    { s with
      cache := s.cache.invalidateGeneration s.lastEncodedIdentity.captureGeneration
      point := .invalidated frame
      actions := .invalidated s.lastEncodedIdentity.captureGeneration :: s.actions }
  | .invalidated frame => s.encode .color frame.colorFrameView encoded (.colorDone frame)
  | .colorDone frame => s.encode .depth frame.depthPreviewFrameView encoded .loop
  | .ended => s

def step (s : Encoding) : Event → Option Encoding
  | .publishFrame frame => some { s with store := (s.store.publishFrame frame s.now).2 }
  | .requestStop => some { s with stopRequested := true }
  | .encoder encoded => some (s.encoderStep encoded)
  | .acquirePreview kind =>
    some { s with actions := .read kind (s.cache.acquirePreview kind) :: s.actions }
  | .acquireFreshPreview kind maxAgeMs =>
    some { s with
      actions := .read kind (s.cache.acquireFreshPreview kind maxAgeMs s.now) :: s.actions }
  | .elapse duration => some { s with now := s.now + duration }

/-- The threads have just started. -/
def IsInitial (s : Encoding) : Prop :=
  s.store = {} ∧ s.cache = {} ∧ s.point = .loop ∧ s.lastEncodedIdentity = {} ∧ s.actions = []

end Encoding

/-- The views of a frame carry its identity. -/
def CapturedFrame.OwnsViews (frame : CapturedFrame) : Prop :=
  (∀ view, frame.colorFrameView = .ok (some view) → view.identity = frame.identity) ∧
    ∀ view, frame.depthPreviewFrameView = .ok (some view) → view.identity = frame.identity

namespace Encoding

/-- Every published frame owns its views. -/
def publishesOwnViews (_ : Encoding) (event : Event) (_ : Encoding) : Prop :=
  ∀ frame, event = .publishFrame (some frame) → frame.OwnsViews

/-- The frame the encoder is at work on -/
def current (s : Encoding) : Option CapturedFrame :=
  match s.point with
  | .pickedUp frame | .invalidated frame | .colorDone frame => some frame
  | .loop | .waiting | .ended => none

/-- A preview of the current frame is still to come. -/
def isPending (s : Encoding) (kind : PreviewKind) : Bool :=
  match s.point, kind with
  | .pickedUp _, _ | .invalidated _, _ | .colorDone _, .depth => true
  | .colorDone _, .color | .loop, _ | .waiting, _ | .ended, _ => false

end Encoding

end NodusVision.Application
