import NodusVision.Recording.Confinement

/-! The writers and the digests stay at the files of the artifact that they are opened for. -/
namespace NodusVision.Recording
open Text Storage Program RecordingStore

section Outputs
variable {recordingId : ByteString}

/-- The output of a recording is a file of its staging artifact. -/
theorem output_entry {p : ManagedPath} (h : IsOutput recordingId p) :
    ∃ n, p = .entry .staging recordingId n := by
  rcases h with rfl | rfl
  · exact ⟨_, rfl⟩
  · exact ⟨_, rfl⟩

end Outputs

namespace ColorVideoWriter
variable {recordingId : ByteString} {w : ColorVideoWriter}

theorem stays_libraryCalls (whats : List String) : Stays recordingId (libraryCalls whats) := by
  induction whats with
  | nil => exact only_pure ()
  | cons what rest ih => exact only_bind (only_require rfl _ trivial) fun _ => ih

private theorem stays_encode {p : ManagedPath} (hp : IsOutput recordingId p) (what : String) :
    Stays recordingId (require (.encode p) rfl (.runtimeError what)) :=
  only_require rfl _ (output_entry hp)

theorem stays_construct {config : ColorVideoWriterConfig}
    (hp : IsOutput recordingId config.outputPath) : Stays recordingId (construct config) := by
  refine only_bind (only_throwIf _) fun _ => only_bind (stays_libraryCalls _) fun _ => ?_
  refine only_bind (only_require rfl _ (output_entry hp)) fun _ => ?_
  exact only_bind (stays_encode hp _) fun _ => only_bind (stays_libraryCalls _) fun _ => only_pure _

theorem stays_writeFrame (hp : IsOutput recordingId w.config.outputPath)
    (frame : VideoFrameView) : Stays recordingId (w.writeFrame frame) := by
  refine only_bind (only_throwIf _) fun _ => only_bind (stays_libraryCalls _) fun _ => ?_
  exact only_bind (stays_encode hp _) fun _ => only_pure _

theorem stays_finalize (hp : IsOutput recordingId w.config.outputPath) :
    Stays recordingId w.finalize := by
  refine only_ite (only_pure _) (only_bind (stays_libraryCalls _) fun _ => ?_)
  refine only_bind (stays_encode hp _) fun _ => only_bind (stays_encode hp _) fun _ => ?_
  exact only_bind (stays_encode hp _) fun _ => only_pure _

theorem stays_destroy (hp : IsOutput recordingId w.config.outputPath) :
    Stays recordingId w.destroy := by
  have hfinish : Stays recordingId (w.finalize.bind fun _ => .pure ()) :=
    only_bind (stays_finalize hp) fun _ => only_pure _
  exact only_ite (hfinish.tryCatch fun _ _ => only_pure _) (only_pure _)

end ColorVideoWriter

namespace RecordingSidecarWriter
variable {recordingId : ByteString} {w : RecordingSidecarWriter}

theorem stays_construct {p : ManagedPath} (hp : IsOutput recordingId p)
    (id sensorFrame calibrationId : ByteString) :
    Stays recordingId (construct p id sensorFrame calibrationId) :=
  only_call (output_entry hp) fun (_ : Bool) => only_bind (only_throwIf _) fun _ => only_pure _

theorem stays_append (hp : IsOutput recordingId w.outputPath) (entry : RecordingFrameEntry) :
    Stays recordingId (w.append entry) := by
  refine only_bind (only_throwIf _) fun _ =>
    only_call (output_entry hp) fun (written : Option ℕ) => ?_
  cases written with
  | none => exact only_throw _
  | some n => exact only_pure _

theorem stays_finalize (hp : IsOutput recordingId w.outputPath) :
    Stays recordingId w.finalize := by
  refine only_ite (only_pure _) (only_bind (only_require rfl _ (output_entry hp)) fun _ => ?_)
  refine only_bind (only_require rfl _ ?_) fun _ => only_pure _
  obtain ⟨n, hn⟩ := output_entry hp
  exact hn ▸ within_entry .staging n

theorem stays_destroy (hp : IsOutput recordingId w.outputPath) : Stays recordingId w.destroy :=
  only_ite (only_pure _) ⟨output_entry hp, fun _ => only_pure _⟩

end RecordingSidecarWriter

section Digests
variable {recordingId : ByteString}

theorem stays_digestChunks {path : ManagedPath} (hp : Within recordingId path)
    (deadline : Option ℕ) (n : ℕ) : Stays recordingId (digestChunks path deadline n) := by
  induction n with
  | zero => exact only_pure ()
  | succ n ih =>
    refine only_call trivial fun (now : ℕ) => only_bind (only_throwIf _) fun _ => ?_
    exact only_call hp fun (good : Bool) => only_bind (only_throwIf _) fun _ => ih

/-- A digest reads one file of the artifact. -/
theorem stays_calculateDigest (sha256 : ByteString → List UInt8) (m : ManagedDirectory)
    (f : ArtifactFile) (deadline : Option ℕ) :
    Stays recordingId
      (calculateRecordingArtifactDigest sha256 (.artifact m recordingId) f deadline) := by
  have hp : Within recordingId (ManagedPath.entry m recordingId (.file f)) := within_entry m _
  refine only_bind (only_symlinkStatus fun _ => confined_of_question hp) fun _ => ?_
  refine only_bind (only_throwIf _) fun _ => only_call hp fun (regular : Option Bool) => ?_
  refine only_bind (only_orThrow _) fun _ => only_bind (only_throwIf _) fun _ => ?_
  refine only_call hp fun (input : Option ByteString) =>
    only_call trivial fun (hashReady : Bool) => ?_
  cases input with
  | none => exact only_throw _
  | some contents =>
    refine only_bind (only_throwIf _) fun _ => only_bind (stays_digestChunks hp _ _) fun _ => ?_
    exact only_call hp fun (size : Option ℕ) => only_bind (only_orThrow _) fun _ => only_pure _

end Digests

end NodusVision.Recording
