import NodusVision.Recording.Encoding
import NodusVision.Recording.PathText

/-! The operations of the store stay at the paths of the artifact that an id names. -/
namespace NodusVision.Recording
open Text Storage Program

/-- The paths that a call names. -/
def FsOp.paths : FsOp → List ManagedPath
  | .pathExists p | .symlinkStatus p | .isDirectory p | .isRegularFile p | .createDirectories p
  | .createDirectory p | .space p | .openExclusive p | .write p _ | .fsync p | .close p
  | .openDirectory p | .fileSize p | .openInput p | .read p | .truncate p | .encode p
  | .streamWrite p _ | .streamFlush p _ => [p]
  | .rename source target => [source, target]
  | .library | .steadyNow => []

/-- The calls that a lookup makes at a path. -/
def questions (p : ManagedPath) : List FsOp :=
  [.pathExists p, .symlinkStatus p, .isDirectory p, .fileSize p, .openInput p, .read p]

/-- What is asked about, what is created as a directory, and what is written or renamed. -/
def FsOp.Confined (recordingId : ByteString) : FsOp → Prop
  | .pathExists p | .symlinkStatus p | .isDirectory p | .isRegularFile p | .space p | .fsync p
  | .close p | .openDirectory p | .fileSize p | .openInput p | .read p => Within recordingId p
  | .createDirectories p => p = .root
  | .createDirectory p => (∃ m, p = .managed m) ∨ p = .artifact .staging recordingId
  | .openExclusive p | .write p _ | .truncate p | .encode p | .streamWrite p _
  | .streamFlush p _ => ∃ n, p = .entry .staging recordingId n
  | .rename source target =>
    (∃ n n', source = .entry .staging recordingId n ∧ target = .entry .staging recordingId n') ∨
      source = .artifact .staging recordingId ∧ target = .artifact .finalized recordingId
  | .library | .steadyNow => True

section Within
variable {recordingId : ByteString}

theorem within_root : Within recordingId .root := .inl rfl

theorem within_managed (m : ManagedDirectory) : Within recordingId (.managed m) :=
  .inr (.inl ⟨m, rfl⟩)

theorem artifact_isArtifactPath (m : ManagedDirectory) :
    IsArtifactPath recordingId (.artifact m recordingId) := .inl ⟨m, rfl⟩

theorem entry_isArtifactPath (m : ManagedDirectory) (n : EntryName) :
    IsArtifactPath recordingId (.entry m recordingId n) := .inr ⟨m, n, rfl⟩

theorem within_artifact (m : ManagedDirectory) : Within recordingId (.artifact m recordingId) :=
  .inr (.inr (artifact_isArtifactPath m))

theorem within_entry (m : ManagedDirectory) (n : EntryName) :
    Within recordingId (.entry m recordingId n) := .inr (.inr (entry_isArtifactPath m n))

/-- A confined operation names paths of the artifact only. -/
theorem FsOp.Confined.within {o : FsOp} (h : FsOp.Confined recordingId o) :
    ∀ p ∈ FsOp.paths o, Within recordingId p := by
  intro p hp
  cases o <;> simp only [FsOp.paths, List.mem_cons, List.not_mem_nil, or_false] at hp <;>
    simp only [FsOp.Confined] at h
  case createDirectories => exact hp ▸ h ▸ within_root
  case createDirectory =>
    rcases h with ⟨m, rfl⟩ | rfl
    · exact hp ▸ within_managed m
    · exact hp ▸ within_artifact _
  case rename =>
    rcases h with ⟨n, n', rfl, rfl⟩ | ⟨rfl, rfl⟩ <;> rcases hp with rfl | rfl
    · exact within_entry _ _
    · exact within_entry _ _
    · exact within_artifact _
    · exact within_artifact _
  case openExclusive | write | truncate | encode | streamWrite | streamFlush =>
    obtain ⟨n, rfl⟩ := h
    exact hp ▸ within_entry _ _
  all_goals exact hp ▸ h

theorem confined_of_question {p : ManagedPath} {o : FsOp} (hp : Within recordingId p)
    (ho : o ∈ questions p) : FsOp.Confined recordingId o := by
  simp only [questions, List.mem_cons, List.not_mem_nil, or_false] at ho
  rcases ho with rfl | rfl | rfl | rfl | rfl | rfl <;> exact hp

theorem reads_of_question {p : ManagedPath} {o : FsOp} (ho : o ∈ questions p) : Reads o := by
  simp only [questions, List.mem_cons, List.not_mem_nil, or_false] at ho
  rcases ho with rfl | rfl | rfl | rfl | rfl | rfl <;> exact fun _ _ => rfl

end Within

/-- The directories of an id and its request files, which the lookup reads. -/
def IsLedgerPath (recordingId : ByteString) (p : ManagedPath) : Prop :=
  (∃ m, p = .artifact m recordingId) ∨ ∃ m f, Disk.IsRequestFile f ∧
    (p = .entry m recordingId (.file f) ∨ p = .entry m recordingId (.temporary f))

theorem IsLedgerPath.isArtifactPath {recordingId : ByteString} {p : ManagedPath}
    (h : IsLedgerPath recordingId p) : IsArtifactPath recordingId p := by
  rcases h with ⟨m, rfl⟩ | ⟨m, f, -, rfl | rfl⟩
  · exact artifact_isArtifactPath m
  · exact entry_isArtifactPath m _
  · exact entry_isArtifactPath m _

theorem artifact_isLedgerPath {recordingId : ByteString} (m : ManagedDirectory) :
    IsLedgerPath recordingId (.artifact m recordingId) := .inl ⟨m, rfl⟩

theorem request_isLedgerPath {recordingId : ByteString} {f : ArtifactFile}
    (m : ManagedDirectory) (hf : Disk.IsRequestFile f) :
    IsLedgerPath recordingId (.entry m recordingId (.file f)) := .inr ⟨m, f, hf, .inl rfl⟩

/-- A program that makes calls of one kind only. -/
def Only {α : Type} (ops : FsOp → Prop) (p : StoreProg α) : Prop :=
  p.Uses ops (fun _ => True) fun _ => True

namespace RecordingStore
variable {α β : Type} {ops : FsOp → Prop} {p : StoreProg α} {path : ManagedPath}

section Rules

theorem only_bind {f : α → StoreProg β} (h : Only ops p) (hf : ∀ a, Only ops (f a)) :
    Only ops (p.bind f) := Prog.Uses.bind _ h fun a _ => hf a

theorem only_pure (a : α) : Only ops (.pure a : StoreProg α) := trivial

theorem only_throw (e : Exception) : Only ops (.throw e : StoreProg α) := trivial

theorem only_ite {c : Prop} [Decidable c] {q : StoreProg α} (hp : Only ops p)
    (hq : Only ops q) : Only ops (if c then p else q) := .ite (fun _ => hp) fun _ => hq

theorem only_throwIf {c : Prop} [Decidable c] (e : Exception) : Only ops (throwIf c e) :=
  only_ite (only_throw e) (only_pure ())

theorem only_orThrow (a : Option α) : Only ops (orThrow a) := by
  cases a <;> trivial

theorem only_call {o : FsOp} {f : o.Res → StoreProg β} (ho : ops o)
    (hf : ∀ r, Only ops (f r)) : Only ops ((call o).bind f) := ⟨ho, hf⟩

theorem only_require {o : FsOp} (h : o.Res = Bool) (e : Exception) (ho : ops o) :
    Only ops (require o h e) := ⟨ho, fun _ => only_throwIf e⟩

end Rules

section Questions
variable (hask : ∀ o ∈ questions path, ops o)
include hask

theorem only_pathExists : Only ops (pathExists path) :=
  ⟨hask _ (by simp [questions]), only_orThrow⟩

theorem only_symlinkStatus : Only ops (symlinkStatus path) :=
  ⟨hask _ (by simp [questions]), only_orThrow⟩

theorem only_isDirectory : Only ops (isDirectory path) :=
  ⟨hask _ (by simp [questions]), only_orThrow⟩

theorem only_rejectSymlink : Only ops (rejectSymlink path) :=
  only_bind (only_symlinkStatus hask) fun _ => only_throwIf _

theorem only_rejectSymlinkIfPresent : Only ops (rejectSymlinkIfPresent path) :=
  only_bind (only_pathExists hask) fun _ => only_ite (only_rejectSymlink hask) (only_pure ())

theorem only_readBoundedRegularFile : Only ops (readBoundedRegularFile path) := by
  refine only_bind (only_symlinkStatus hask) fun _ => only_bind (only_throwIf _) fun _ => ?_
  refine only_call (hask _ (by simp [questions])) fun (size : Option ℕ) => ?_
  cases size with
  | none => exact only_throw _
  | some size =>
    refine only_bind (only_throwIf _) fun _ =>
      only_call (hask _ (by simp [questions])) fun (input : Option ByteString) => ?_
    cases input with
    | none => exact only_throw _
    | some input =>
      exact only_call (hask _ (by simp [questions])) fun (good : Bool) =>
        only_bind (only_throwIf _) fun _ => only_pure _

end Questions

theorem only_readStopRequest {directory : ManagedPath}
    (hask : ∀ o ∈ questions (directory.child (.file .stopRequest)), ops o) :
    Only ops (readStopRequest directory) :=
  only_bind (only_pathExists hask) fun _ =>
    only_ite (only_bind (only_readBoundedRegularFile hask) fun _ => only_pure _) (only_pure _)

variable {recordingId : ByteString}

/-- Reading an artifact asks about its directory and its request files. -/
theorem only_readArtifact (hask : ∀ p, IsLedgerPath recordingId p → ∀ o ∈ questions p, ops o)
    (finalized : Bool) : Only ops (readArtifact recordingId finalized) := by
  have hdirectory : ∃ m, (if finalized then (artifactPaths recordingId).finalizedDirectory
      else (artifactPaths recordingId).stagingDirectory) = .artifact m recordingId := by
    cases finalized
    · exact ⟨.staging, rfl⟩
    · exact ⟨.finalized, rfl⟩
  obtain ⟨m, hm⟩ := hdirectory
  have hartifact := hask _ (artifact_isLedgerPath m)
  have hstart := hask _ (request_isLedgerPath m (.inl rfl))
  have hstop := hask _ (request_isLedgerPath m (.inr rfl))
  unfold readArtifact
  simp only [hm, ManagedPath.child_artifact]
  refine only_bind (only_rejectSymlink hartifact) fun _ => ?_
  refine only_bind (only_isDirectory hartifact) fun _ => only_bind (only_throwIf _) fun _ => ?_
  refine only_bind (only_readBoundedRegularFile hstart) fun _ => ?_
  exact only_bind (only_readStopRequest hstop) fun _ => only_pure _

/-- The part of the lookup that is about the artifact. -/
def locateArtifact (recordingId : ByteString) : StoreProg (Option PersistedRecordingArtifact) := do
  let stagingExists ← pathExists (artifactPaths recordingId).stagingDirectory
  let finalizedExists ← pathExists (artifactPaths recordingId).finalizedDirectory
  throwIf (stagingExists = true ∧ finalizedExists = true)
    (.runtimeError "Recording identity exists in staging and finalized storage.")
  if stagingExists = false ∧ finalizedExists = false then .pure none
  else readArtifact recordingId finalizedExists

theorem findPersistedArtifact_eq (recordingId : ByteString) :
    findPersistedArtifact recordingId =
      (throwIf (isRecordingIdValid recordingId = false) unsafeRecordingId).bind fun _ =>
      (rejectSymlinkIfPresent .root).bind fun _ =>
      (rejectSymlinkIfPresent (.managed .staging)).bind fun _ =>
      (rejectSymlinkIfPresent (.managed .finalized)).bind fun _ => locateArtifact recordingId := rfl

theorem only_locateArtifact (hask : ∀ p, IsLedgerPath recordingId p → ∀ o ∈ questions p, ops o) :
    Only ops (locateArtifact recordingId) := by
  refine only_bind (only_pathExists (hask _ (artifact_isLedgerPath _))) fun _ => ?_
  refine only_bind (only_pathExists (hask _ (artifact_isLedgerPath _))) fun _ => ?_
  exact only_bind (only_throwIf _) fun _ => only_ite (only_pure _) (only_readArtifact hask _)

/-- The lookup asks about the paths of the id it is given. -/
theorem only_findPersistedArtifact (hask : ∀ p, Within recordingId p → ∀ o ∈ questions p, ops o) :
    Only ops (findPersistedArtifact recordingId) := by
  rw [findPersistedArtifact_eq]
  refine only_bind (only_throwIf _) fun _ => ?_
  refine only_bind (only_rejectSymlinkIfPresent (hask _ within_root)) fun _ => ?_
  refine only_bind (only_rejectSymlinkIfPresent (hask _ (within_managed _))) fun _ => ?_
  refine only_bind (only_rejectSymlinkIfPresent (hask _ (within_managed _))) fun _ => ?_
  exact only_locateArtifact fun p hp => hask p (.inr (.inr hp.isArtifactPath))

/-- A program whose calls are confined to an artifact. -/
def Stays (recordingId : ByteString) (p : StoreProg α) : Prop := Only (FsOp.Confined recordingId) p

theorem stays_findPersistedArtifact : Stays recordingId (findPersistedArtifact recordingId) :=
  only_findPersistedArtifact fun _ hp _ ho => confined_of_question hp ho

/-- The calls of `writeAtomically` for one file of a staging artifact. -/
def FsOp.WritesFile (recordingId : ByteString) (f : ArtifactFile) : FsOp → Prop
  | .openExclusive p | .write p _ | .close p => p = .entry .staging recordingId (.temporary f)
  | .fsync p => p = .entry .staging recordingId (.temporary f) ∨ p = .artifact .staging recordingId
  | .openDirectory p => p = .artifact .staging recordingId
  | .rename source target => source = .entry .staging recordingId (.temporary f) ∧
      target = .entry .staging recordingId (.file f)
  | _ => False

theorem FsOp.WritesFile.confined {f : ArtifactFile} {o : FsOp}
    (h : FsOp.WritesFile recordingId f o) : FsOp.Confined recordingId o := by
  cases o <;> simp only [FsOp.WritesFile] at h
  case fsync =>
    rcases h with rfl | rfl
    · exact within_entry _ _
    · exact within_artifact _
  case rename =>
    obtain ⟨rfl, rfl⟩ := h
    exact .inl ⟨_, _, rfl, rfl⟩
  case openExclusive | write => exact ⟨_, h⟩
  case close => exact h ▸ within_entry _ _
  case openDirectory => exact h ▸ within_artifact _

/-- Writing one file atomically. -/
theorem only_writeAtomically {f : ArtifactFile} (contents : ByteString)
    (hwrites : ∀ o, FsOp.WritesFile recordingId f o → ops o) :
    Only ops (writeAtomically (.artifact .staging recordingId) f contents) := by
  have hremaining : ∀ n rest, Only ops
      (writeRemaining (.entry .staging recordingId (.temporary f)) n rest) := by
    intro n
    induction n with
    | zero =>
      intro rest
      cases rest <;> trivial
    | succ n ih =>
      intro rest
      cases rest with
      | nil => trivial
      | cons b rest =>
        refine ⟨hwrites _ rfl, fun (written : Option ℕ) => ?_⟩
        cases written with
        | none => exact ⟨hwrites _ rfl, fun _ => trivial⟩
        | some k => exact ih _
  refine only_bind (only_require rfl _ (hwrites _ rfl)) fun _ => only_bind (hremaining _ _) fun _ => ?_
  refine only_call (hwrites _ (.inl rfl)) fun (syncResult : Bool) => ?_
  refine only_call (hwrites _ rfl) fun (closeResult : Bool) => only_bind (only_throwIf _) fun _ => ?_
  refine only_bind (only_require rfl _ (hwrites _ ⟨rfl, rfl⟩)) fun _ => ?_
  exact only_bind (only_require rfl _ (hwrites _ rfl)) fun _ => only_require rfl _ (hwrites _ (.inr rfl))

theorem stays_syncDirectory (hp : Within recordingId path) :
    Stays recordingId (syncDirectory path) :=
  only_bind (only_require rfl _ hp) fun _ => only_require rfl _ hp

theorem stays_initializeStore : Stays recordingId initializeStore := by
  have hask : ∀ p, Within recordingId p → ∀ o ∈ questions p, FsOp.Confined recordingId o :=
    fun _ hp _ ho => confined_of_question hp ho
  have hchild : ∀ m, Stays recordingId (initializeChild m) := by
    intro m
    have hmanaged := hask _ (within_managed m)
    refine only_call (.inl ⟨m, rfl⟩) fun (creation : DirectoryCreation) => ?_
    refine only_bind (only_throwIf _) fun _ => only_bind (only_isDirectory hmanaged) fun _ => ?_
    exact only_bind (only_throwIf _) fun _ => only_rejectSymlink hmanaged
  refine only_bind (only_require rfl _ rfl) fun _ => ?_
  refine only_bind (only_isDirectory (hask _ within_root)) fun _ => ?_
  refine only_bind (only_throwIf _) fun _ => ?_
  refine only_bind (only_rejectSymlink (hask _ within_root)) fun _ => ?_
  exact only_bind (hchild _) fun _ => hchild _

theorem stays_writeAtomically (f : ArtifactFile) (contents : ByteString) :
    Stays recordingId (writeAtomically (.artifact .staging recordingId) f contents) :=
  only_writeAtomically contents fun _ h => h.confined

theorem stays_createStaging (request : RecordingStartRequest) :
    Stays request.recordingId (createStaging request) := by
  refine only_bind (only_throwIf _) fun _ => only_bind stays_initializeStore fun _ => ?_
  refine only_bind (only_pathExists fun _ => confined_of_question (within_artifact _)) fun _ => ?_
  refine only_bind (only_throwIf _) fun _ => ?_
  refine only_call (.inr rfl) fun (creation : DirectoryCreation) => ?_
  refine only_bind (only_throwIf _) fun _ => ?_
  cases serializeRecordingStartRequest request with
  | error e => exact only_throw e
  | ok canonical => exact only_bind (stays_writeAtomically _ _) fun _ => only_pure _

theorem only_requireStagingPath {what : String}
    (hask : ∀ o ∈ questions (.artifact .staging recordingId), ops o) :
    Only ops (requireStagingPath (artifactPaths recordingId) what) :=
  only_bind (only_throwIf _) fun _ => only_bind (only_symlinkStatus hask) fun _ => only_throwIf _

/-- Both evidence writers check the directory and write one file. -/
theorem only_writeEvidence {f : ArtifactFile} {what : String} {contents : ByteString}
    (hask : ∀ o ∈ questions (.artifact .staging recordingId), ops o)
    (hwrites : ∀ o, FsOp.WritesFile recordingId f o → ops o) :
    Only ops ((requireStagingPath (artifactPaths recordingId) what).bind fun _ =>
      writeAtomically (artifactPaths recordingId).stagingDirectory f contents) :=
  only_bind (only_requireStagingPath hask) fun _ => only_writeAtomically contents hwrites

theorem stays_writeStopRequest (contents : ByteString) :
    Stays recordingId (writeStopRequest (artifactPaths recordingId) contents) :=
  only_writeEvidence (fun _ => confined_of_question (within_artifact _)) fun _ h => h.confined

theorem only_writeFinalizedManifest (contents : ByteString)
    (hask : ∀ o ∈ questions (.artifact .staging recordingId), ops o)
    (hwrites : ∀ o, FsOp.WritesFile recordingId .manifest o → ops o) :
    Only ops (writeFinalizedManifest (artifactPaths recordingId) contents) :=
  only_writeEvidence hask hwrites

theorem stays_writeFinalizedManifest (contents : ByteString) :
    Stays recordingId (writeFinalizedManifest (artifactPaths recordingId) contents) :=
  only_writeFinalizedManifest contents (fun _ => confined_of_question (within_artifact _))
    fun _ h => h.confined

theorem stays_activateFinalized :
    Stays recordingId (activateFinalized (artifactPaths recordingId)) := by
  have hask : ∀ m, ∀ o ∈ questions (.artifact m recordingId), FsOp.Confined recordingId o :=
    fun m _ => confined_of_question (within_artifact m)
  refine only_bind (only_throwIf _) fun _ => only_bind (only_isDirectory (hask _)) fun _ => ?_
  refine only_bind (only_throwIf _) fun _ => only_bind (only_pathExists (hask _)) fun _ => ?_
  refine only_bind (only_throwIf _) fun _ => only_bind (only_rejectSymlink (hask _)) fun _ => ?_
  refine only_bind (only_require rfl _ (.inr ⟨rfl, rfl⟩)) fun _ => ?_
  exact only_bind (stays_syncDirectory (within_managed _)) fun _ =>
    stays_syncDirectory (within_managed _)

end RecordingStore

end NodusVision.Recording
