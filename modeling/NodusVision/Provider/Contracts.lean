import Mathlib.Data.Prod.Lex
import NodusVision.Recording.Contracts

/-! Payloads of the HTTP provider and the order in which frames are newer than others. -/
namespace NodusVision.Provider
open Text Recording

inductive ProviderStreamKind where
  | color
  | depth
  deriving DecidableEq

abbrev HeaderList := List (ByteString × ByteString)

structure ProviderHttpResponse where
  status : ℕ := 200
  contentType : ByteString := ascii "application/json"
  body : ByteString := []
  headers : HeaderList := []
  deriving DecidableEq

/-- A null `jpeg_data` is `none`. -/
structure ProviderStreamFrame where
  identity : FrameIdentity
  jpegData : Option ByteString
  headers : HeaderList
  deriving DecidableEq

/-- What a frame callback answers: a frame or null, or a `std::exception`. -/
abbrev Acquired := Except Unit (Option ProviderStreamFrame)

def makeErrorResponse (status : ℕ) (code message : ByteString) (retryable : Bool) :
    ProviderHttpResponse where
  status := status
  body := ascii "\x7b\"schema_version\":1,\"error\":\x7b\"code\":\"" ++ code ++
    ascii "\",\"message\":\"" ++ message ++ ascii "\",\"retryable\":" ++
    (if retryable then ascii "true" else ascii "false") ++ ascii "\x7d\x7d"

def isNewerIdentity (candidate current : FrameIdentity) : Bool :=
  isStrictlyAfter candidate current

/-- Generation first, then frame number. -/
def orderKey (identity : FrameIdentity) : ℕ ×ₗ ℕ :=
  toLex (identity.captureGeneration, identity.frameNumber)

theorem isNewerIdentity_iff {candidate current : FrameIdentity} :
    isNewerIdentity candidate current = true ↔ orderKey current < orderKey candidate := by
  unfold isNewerIdentity isStrictlyAfter orderKey
  rw [Prod.Lex.toLex_lt_toLex]
  simp only [Bool.or_eq_true, Bool.and_eq_true, decide_eq_true_eq, beq_iff_eq]
  constructor
  · intro h
    rcases h with h | ⟨h, h'⟩
    · exact .inl h
    · exact .inr ⟨h.symm, h'⟩
  · intro h
    rcases h with h | ⟨h, h'⟩
    · exact .inl h
    · exact .inr ⟨h.symm, h'⟩

theorem not_isNewerIdentity_iff {candidate current : FrameIdentity} :
    isNewerIdentity candidate current = false ↔ orderKey candidate ≤ orderKey current := by
  rw [← not_lt, ← isNewerIdentity_iff, Bool.not_eq_true]

def crlf : ByteString := [13, 10]

def mjpegBoundary : ByteString := ascii "nodus_frame"

/-- The frame is sent with its JPEG bytes. -/
def buildMjpegPart (frame : ProviderStreamFrame) (jpeg : ByteString) : ByteString :=
  ascii "--" ++ mjpegBoundary ++ crlf ++ ascii "Content-Type: image/jpeg" ++ crlf ++
    ascii "Content-Length: " ++ jsonNat jpeg.length ++ crlf ++
    frame.headers.flatMap (fun item => item.1 ++ ascii ": " ++ item.2 ++ crlf) ++ crlf ++
    jpeg ++ crlf

/-- The JPEG bytes of a frame that can be sent. -/
def ProviderStreamFrame.image (frame : ProviderStreamFrame) : Option ByteString :=
  frame.jpegData.filter fun jpeg => !jpeg.isEmpty

end NodusVision.Provider
