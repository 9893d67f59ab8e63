import NodusVision.Provider.Preview
import NodusVision.Text.Multipart

/-! The body of a stream response, and how a viewer reads it back. -/
namespace NodusVision.Provider
open Text Recording

/-- What one part of the body tells a viewer. -/
structure StreamedPreview where
  preview : EncodedPreview
  labels : MountLabels

def readIdentity (fields : HeaderList) : Option FrameIdentity := do
  let captureGeneration ← (fields.lookup (ascii "X-Nodus-Capture-Generation")).bind readNat
  let frameNumber ← (fields.lookup (ascii "X-Nodus-Frame-Number")).bind readNat
  let captureTimestampNs ← (fields.lookup (ascii "X-Nodus-Capture-Timestamp-Ns")).bind readInt
  let captureUnixEpochNs ← (fields.lookup (ascii "X-Nodus-Capture-Unix-Epoch-Ns")).bind readInt
  some { captureGeneration, frameNumber, captureTimestampNs, captureUnixEpochNs }

def readLabels (fields : HeaderList) : Option MountLabels := do
  let sensorFrame ← fields.lookup (ascii "X-Nodus-Sensor-Frame")
  let mountFrame ← fields.lookup (ascii "X-Nodus-Mount-Frame")
  let calibrationId ← fields.lookup (ascii "X-Nodus-Calibration-Id")
  some { sensorFrame, mountFrame, calibrationId }

def readStreamed : Reader UInt8 StreamedPreview := do
  let part ← readPart mjpegBoundary
  let identity ← readIdentity part.fields
  let labels ← readLabels part.fields
  pure { preview := { identity, jpeg := part.content }, labels }

/-- The part that is sent for a preview. -/
def streamedPart (labels : MountLabels) (preview : EncodedPreview) : ByteString :=
  buildMjpegPart
    { identity := preview.identity
      jpegData := some preview.jpeg
      headers := makeIdentityHeaders preview.identity labels } preview.jpeg

/-- The fields of a part, those of its content before those of the frame. -/
def partFields (headers : HeaderList) (jpeg : ByteString) : HeaderList :=
  (ascii "Content-Type", ascii "image/jpeg") ::
    (ascii "Content-Length", jsonNat jpeg.length) :: headers

theorem buildMjpegPart_eq (frame : ProviderStreamFrame) (jpeg : ByteString) :
    buildMjpegPart frame jpeg =
      writePart mjpegBoundary { fields := partFields frame.headers jpeg, content := jpeg } := by
  have htype : ascii "Content-Type: image/jpeg" =
      writeField (ascii "Content-Type", ascii "image/jpeg") := by decide
  have hlength : ascii "Content-Length: " = ascii "Content-Length" ++ ascii ": " := by decide
  have hend : crlf = lineEnd := rfl
  simp only [buildMjpegPart, writePart, partFields, List.flatMap_cons, htype, hlength, hend, writeField,
    List.append_assoc]

/-- Labels that fit on a header line. -/
structure MountLabels.Clean (labels : MountLabels) : Prop where
  sensorFrame : ∀ b ∈ labels.sensorFrame, b ≠ 13
  mountFrame : ∀ b ∈ labels.mountFrame, b ≠ 13
  calibrationId : ∀ b ∈ labels.calibrationId, b ≠ 13

theorem jsonNat_clean (n : ℕ) : ∀ b ∈ jsonNat n, b ≠ 13 := by
  rintro b hb rfl
  cases isJsonDigit_jsonNat n 13 hb

theorem jsonInt_clean (n : ℤ) : ∀ b ∈ jsonInt n, b ≠ 13 := by
  cases n with
  | ofNat n => exact jsonNat_clean n
  | negSucc n =>
    intro b hb
    rcases List.mem_cons.mp hb with rfl | hb
    · decide
    · exact jsonNat_clean (n + 1) b hb

theorem partFields_clean {labels : MountLabels} (h : labels.Clean) (identity : FrameIdentity)
    (jpeg : ByteString) :
    ∀ field ∈ partFields (makeIdentityHeaders identity labels) jpeg, FieldClean field := by
  have hname (name : String) (hn : (ascii name).all (fun b => b != 13 && b != 58) = true) :
      ∀ b ∈ ascii name, b ≠ 13 ∧ b ≠ 58 := by
    intro b hb
    simpa using List.all_eq_true.mp hn b hb
  unfold partFields makeIdentityHeaders
  simp only [List.forall_mem_cons, List.not_mem_nil, false_implies, implies_true, and_true]
  have htype : ∀ b ∈ ascii "image/jpeg", b ≠ 13 := fun b hb => (hname _ (by decide) b hb).1
  exact ⟨⟨hname _ (by decide), htype⟩, ⟨hname _ (by decide), jsonNat_clean _⟩,
    ⟨hname _ (by decide), jsonNat_clean _⟩, ⟨hname _ (by decide), jsonNat_clean _⟩,
    ⟨hname _ (by decide), jsonInt_clean _⟩, ⟨hname _ (by decide), jsonInt_clean _⟩,
    ⟨hname _ (by decide), h.sensorFrame⟩, ⟨hname _ (by decide), h.mountFrame⟩,
    ⟨hname _ (by decide), h.calibrationId⟩⟩

theorem readIdentity_partFields (identity : FrameIdentity) (labels : MountLabels)
    (jpeg : ByteString) :
    readIdentity (partFields (makeIdentityHeaders identity labels) jpeg) = some identity := by
  have hgeneration : (partFields (makeIdentityHeaders identity labels) jpeg).lookup
      (ascii "X-Nodus-Capture-Generation") = some (jsonNat identity.captureGeneration) := rfl
  have hnumber : (partFields (makeIdentityHeaders identity labels) jpeg).lookup
      (ascii "X-Nodus-Frame-Number") = some (jsonNat identity.frameNumber) := rfl
  have htimestamp : (partFields (makeIdentityHeaders identity labels) jpeg).lookup
      (ascii "X-Nodus-Capture-Timestamp-Ns") = some (jsonInt identity.captureTimestampNs) := rfl
  have hepoch : (partFields (makeIdentityHeaders identity labels) jpeg).lookup
      (ascii "X-Nodus-Capture-Unix-Epoch-Ns") = some (jsonInt identity.captureUnixEpochNs) := rfl
  unfold readIdentity
  rw [hgeneration, hnumber, htimestamp, hepoch]
  simp only [Option.bind_some, Option.bind_eq_bind, readNat_jsonNat, readInt_jsonInt]

theorem readLabels_partFields (identity : FrameIdentity) (labels : MountLabels)
    (jpeg : ByteString) :
    readLabels (partFields (makeIdentityHeaders identity labels) jpeg) = some labels := rfl

theorem framing_readStreamed : Framing readStreamed where
  extend := (framing_readPart mjpegBoundary).extend.bind fun _ => (extends_lift _).bind fun _ =>
    (extends_lift _).bind fun _ => extends_pure _
  nil := rfl

theorem readStreamed_streamedPart {labels : MountLabels} (h : labels.Clean)
    (preview : EncodedPreview) :
    readStreamed.run (streamedPart labels preview) = some (⟨preview, labels⟩, []) := by
  have hclean : PartClean {
      fields := partFields (makeIdentityHeaders preview.identity labels) preview.jpeg
      content := preview.jpeg } := ⟨partFields_clean h _ _, readNat_jsonNat _⟩
  have hpart := readPart_writePart mjpegBoundary hclean
  unfold readStreamed streamedPart
  rw [buildMjpegPart_eq, run_bind_some hpart,
    run_bind_some (run_lift_some (readIdentity_partFields _ _ _)),
    run_bind_some (run_lift_some (readLabels_partFields _ _ _))]
  rfl

end NodusVision.Provider
