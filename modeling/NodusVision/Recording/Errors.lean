import NodusVision.Recording.Lookup

/-! Which exceptions the store programs of a stop can throw: none that says "not found". -/
namespace NodusVision.Recording
open Text Storage Program RecordingStore

/-- Every exception but `RecordingNotFoundError` -/
def IsConflict (e : Exception) : Prop := ∀ what, e ≠ .recordingNotFound what

/-- A program that throws conflicts only. -/
def Conflicts {α : Type} (p : StoreProg α) : Prop :=
  p.Uses (fun _ => True) (fun _ => True) IsConflict

theorem isConflict_runtimeError (what : String) : IsConflict (.runtimeError what) := nofun

theorem isConflict_invalidArgument (what : String) : IsConflict (.invalidArgument what) := nofun

theorem isConflict_filesystemError : IsConflict .filesystemError := nofun

namespace RecordingStore
variable {α β : Type} {p : StoreProg α} {path : ManagedPath}

theorem conflicts_bind {f : α → StoreProg β} (h : Conflicts p) (hf : ∀ a, Conflicts (f a)) :
    Conflicts (p.bind f) := Prog.Uses.bind _ h fun a _ => hf a

theorem conflicts_throwIf {c : Prop} [Decidable c] {e : Exception} (he : IsConflict e) :
    Conflicts (throwIf c e) := .ite (fun _ => he) fun _ => trivial

theorem conflicts_orThrow (a : Option α) : Conflicts (orThrow a) := by
  cases a with
  | none => exact isConflict_filesystemError
  | some a => trivial

theorem conflicts_call {o : FsOp} {f : o.Res → StoreProg β} (hf : ∀ r, Conflicts (f r)) :
    Conflicts ((call o).bind f) := ⟨trivial, hf⟩

theorem conflicts_require {o : FsOp} (h : o.Res = Bool) {e : Exception} (he : IsConflict e) :
    Conflicts (require o h e) := ⟨trivial, fun _ => conflicts_throwIf he⟩

theorem conflicts_pathExists : Conflicts (pathExists path) := ⟨trivial, conflicts_orThrow⟩

theorem conflicts_symlinkStatus : Conflicts (symlinkStatus path) := ⟨trivial, conflicts_orThrow⟩

theorem conflicts_isDirectory : Conflicts (isDirectory path) := ⟨trivial, conflicts_orThrow⟩

theorem conflicts_rejectSymlink : Conflicts (rejectSymlink path) :=
  conflicts_bind conflicts_symlinkStatus fun _ => conflicts_throwIf (isConflict_invalidArgument _)

theorem conflicts_rejectSymlinkIfPresent : Conflicts (rejectSymlinkIfPresent path) :=
  conflicts_bind conflicts_pathExists fun _ => .ite (fun _ => conflicts_rejectSymlink)
    fun _ => trivial

theorem conflicts_readBoundedRegularFile : Conflicts (readBoundedRegularFile path) := by
  have hlong : IsConflict evidenceUnbounded := isConflict_runtimeError _
  apply conflicts_bind conflicts_symlinkStatus
  intro status
  apply conflicts_bind (conflicts_throwIf (isConflict_runtimeError _))
  intro _
  apply conflicts_call
  intro (size : Option ℕ)
  cases size with
  | none => exact hlong
  | some size =>
    apply conflicts_bind (conflicts_throwIf hlong)
    intro _
    apply conflicts_call
    intro (input : Option ByteString)
    cases input with
    | none => exact isConflict_runtimeError _
    | some input =>
      apply conflicts_call
      intro (good : Bool)
      exact conflicts_bind (conflicts_throwIf (isConflict_runtimeError _)) fun _ => trivial

theorem conflicts_readStopRequest : Conflicts (readStopRequest path) := by
  apply conflicts_bind conflicts_pathExists
  intro present
  apply Prog.Uses.ite
  · intro _
    exact conflicts_bind conflicts_readBoundedRegularFile fun _ => trivial
  · intro _
    trivial

theorem conflicts_readArtifact (recordingId : ByteString) (finalized : Bool) :
    Conflicts (readArtifact recordingId finalized) := by
  apply conflicts_bind conflicts_rejectSymlink
  intro _
  apply conflicts_bind conflicts_isDirectory
  intro present
  apply conflicts_bind (conflicts_throwIf (isConflict_runtimeError _))
  intro _
  apply conflicts_bind conflicts_readBoundedRegularFile
  intro startRequest
  exact conflicts_bind conflicts_readStopRequest fun _ => trivial

theorem conflicts_findPersistedArtifact (recordingId : ByteString) :
    Conflicts (findPersistedArtifact recordingId) := by
  apply conflicts_bind (conflicts_throwIf (isConflict_invalidArgument _))
  intro _
  apply conflicts_bind conflicts_rejectSymlinkIfPresent
  intro _
  apply conflicts_bind conflicts_rejectSymlinkIfPresent
  intro _
  apply conflicts_bind conflicts_rejectSymlinkIfPresent
  intro _
  apply conflicts_bind conflicts_pathExists
  intro stagingExists
  apply conflicts_bind conflicts_pathExists
  intro finalizedExists
  apply conflicts_bind (conflicts_throwIf (isConflict_runtimeError _))
  intro _
  exact .ite (fun _ => trivial) fun _ => conflicts_readArtifact recordingId finalizedExists

theorem conflicts_syncDirectory : Conflicts (syncDirectory path) :=
  conflicts_bind (conflicts_require rfl (isConflict_runtimeError _)) fun _ =>
    conflicts_require rfl (isConflict_runtimeError _)

theorem conflicts_writeRemaining (n : ℕ) (contents : ByteString) :
    Conflicts (writeRemaining path n contents) := by
  induction n generalizing contents with
  | zero =>
    cases contents with
    | nil => trivial
    | cons b rest => trivial
  | succ n ih =>
    cases contents with
    | nil => trivial
    | cons b rest =>
      constructor
      · trivial
      · intro (written : Option ℕ)
        cases written with
        | some k => exact ih _
        | none => exact ⟨trivial, fun _ => isConflict_runtimeError _⟩

theorem conflicts_writeAtomically (filename : ArtifactFile) (contents : ByteString) :
    Conflicts (writeAtomically path filename contents) := by
  have hfailed : IsConflict fileWriteFailed := isConflict_runtimeError _
  apply conflicts_bind (conflicts_require rfl (isConflict_runtimeError _))
  intro _
  apply conflicts_bind (conflicts_writeRemaining _ _)
  intro _
  apply conflicts_call
  intro (syncResult : Bool)
  apply conflicts_call
  intro (closeResult : Bool)
  apply conflicts_bind (conflicts_throwIf hfailed)
  intro _
  exact conflicts_bind (conflicts_require rfl (isConflict_runtimeError _)) fun _ =>
    conflicts_syncDirectory

theorem conflicts_writeStopRequest (paths : RecordingArtifactPaths) (contents : ByteString) :
    Conflicts (writeStopRequest paths contents) := by
  apply conflicts_bind
  · apply conflicts_bind (conflicts_throwIf (isConflict_invalidArgument _))
    intro _
    exact conflicts_bind conflicts_symlinkStatus fun _ =>
      conflicts_throwIf (isConflict_invalidArgument _)
  · intro _
    exact conflicts_writeAtomically _ _

end RecordingStore
end NodusVision.Recording
