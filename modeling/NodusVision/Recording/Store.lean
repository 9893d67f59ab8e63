import NodusVision.Recording.Contracts

/-! The staging and finalized layout of one recording root. -/
namespace NodusVision.Recording
open Text Storage Program

structure RecordingArtifactPaths where
  stagingDirectory : ManagedPath := .unset
  finalizedDirectory : ManagedPath := .unset
  deriving DecidableEq

structure PersistedRecordingArtifact where
  paths : RecordingArtifactPaths
  finalized : Bool
  startRequest : ByteString
  stopRequest : Option ByteString
  deriving DecidableEq

def maxRequestFileBytes : ℕ := 1048576

/-- `m_root / ".staging" / id` and `m_root / "finalized" / id` -/
def artifactPaths (recordingId : ByteString) : RecordingArtifactPaths where
  stagingDirectory := .artifact .staging recordingId
  finalizedDirectory := .artifact .finalized recordingId

namespace RecordingStore

def call (o : FsOp) : StoreProg o.Res := .op o .pure

/-- The answer of a throwing `std::filesystem` query. -/
def orThrow {α : Type} : Option α → StoreProg α
  | some a => .pure a
  | none => .throw .filesystemError

def pathExists (p : ManagedPath) : StoreProg Bool :=
  .op (.pathExists p) orThrow

def symlinkStatus (p : ManagedPath) : StoreProg FileKind :=
  .op (.symlinkStatus p) orThrow

def isDirectory (p : ManagedPath) : StoreProg Bool :=
  .op (.isDirectory p) orThrow

def throwIf (c : Prop) [Decidable c] (e : Exception) : StoreProg Unit :=
  if c then .throw e else .pure ()

/-- A call that reports failure, with the exception the source throws for it. -/
def require (o : FsOp) (h : o.Res = Bool) (e : Exception) : StoreProg Unit :=
  .op o fun r => throwIf (cast h r = false) e

def rejectSymlink (path : ManagedPath) : StoreProg Unit := do
  let status ← symlinkStatus path
  throwIf (status = .symlink)
    (.invalidArgument "Recording managed directory must not be a symlink.")

def syncDirectory (directory : ManagedPath) : StoreProg Unit := do
  require (.openDirectory directory) rfl
    (.runtimeError "Recording directory cannot be opened for synchronization.")
  require (.fsync directory) rfl (.runtimeError "Recording directory synchronization failed.")

def fileWriteFailed : Exception := .runtimeError "Recording request file write failed."

/-- The write loop. A call interrupted by a signal is repeated, so an answer is a transfer of
at least one byte or a failure, and the initial length bounds the number of transfers. -/
def writeRemaining (temporary : ManagedPath) : ℕ → ByteString → StoreProg Unit
  | _, [] => .pure ()
  | 0, _ => .pure ()
  | n + 1, remaining => .op (.write temporary remaining) fun (written : Option ℕ) =>
    match written with
    | some k => writeRemaining temporary n (remaining.drop k)
    | none => .op (.close temporary) fun _ => .throw fileWriteFailed

def writeAtomically (directory : ManagedPath) (filename : ArtifactFile) (contents : ByteString) :
    StoreProg Unit := do
  let temporary := directory.child (.temporary filename)
  require (.openExclusive temporary) rfl
    (.runtimeError "Recording request temporary file cannot be created.")
  writeRemaining temporary contents.length contents
  let syncResult : Bool ← call (.fsync temporary)
  let closeResult : Bool ← call (.close temporary)
  throwIf (syncResult = false ∨ closeResult = false) fileWriteFailed
  require (.rename temporary (directory.child (.file filename))) rfl
    (.runtimeError "Recording request file activation failed.")
  syncDirectory directory

def evidenceUnbounded : Exception :=
  .runtimeError "Recording request evidence exceeds its bounded size."

def readBoundedRegularFile (path : ManagedPath) : StoreProg ByteString := do
  let status ← symlinkStatus path
  throwIf (status ≠ .regular)
    (.runtimeError "Recording request evidence must be a regular file.")
  let size : Option ℕ ← call (.fileSize path)
  match size with
  | none => .throw evidenceUnbounded
  | some size =>
    throwIf (maxRequestFileBytes < size) evidenceUnbounded
    let input : Option ByteString ← call (.openInput path)
    match input with
    | none => .throw (.runtimeError "Recording request evidence cannot be opened.")
    | some input =>
      let good : Bool ← call (.read path)
      throwIf (good = false ∨ input.length < size)
        (.runtimeError "Recording request evidence cannot be read completely.")
      .pure (input.take size)

def initializeChild (m : ManagedDirectory) : StoreProg Unit := do
  let creation : DirectoryCreation ← call (.createDirectory (.managed m))
  throwIf (creation = .failed)
    (.runtimeError "Recording managed directory cannot be prepared.")
  let directory ← isDirectory (.managed m)
  throwIf (directory = false) (.runtimeError "Recording managed path is not a directory.")
  rejectSymlink (.managed m)

def rootUnprepared : Exception := .runtimeError "Recording root cannot be prepared."

/-- `RecordingStore::initialize` -/
def initializeStore : StoreProg Unit := do
  require (.createDirectories .root) rfl rootUnprepared
  let directory ← isDirectory .root
  throwIf (directory = false) rootUnprepared
  rejectSymlink .root
  initializeChild .staging
  initializeChild .finalized

def unsafeRecordingId : Exception := .invalidArgument "Recording ID is unsafe."

def createStaging (request : RecordingStartRequest) : StoreProg RecordingArtifactPaths := do
  throwIf (isRecordingIdValid request.recordingId = false) unsafeRecordingId
  initializeStore
  let paths := artifactPaths request.recordingId
  let finalizedExists ← pathExists paths.finalizedDirectory
  throwIf (finalizedExists = true) (.runtimeError "Finalized recording identity already exists.")
  let creation : DirectoryCreation ← call (.createDirectory paths.stagingDirectory)
  throwIf (creation ≠ .created)
    (.runtimeError "Recording staging identity already exists or cannot be created.")
  match serializeRecordingStartRequest request with
  | .error e => .throw e
  | .ok canonical =>
    writeAtomically paths.stagingDirectory .startRequest canonical
    .pure paths

def activationPathsInvalid : Exception :=
  .runtimeError "Recording artifact activation paths are invalid."

def activateFinalized (paths : RecordingArtifactPaths) : StoreProg Unit := do
  throwIf (paths.stagingDirectory.parentPath ≠ .managed .staging ∨
    paths.finalizedDirectory.parentPath ≠ .managed .finalized) activationPathsInvalid
  let directory ← isDirectory paths.stagingDirectory
  throwIf (directory = false) activationPathsInvalid
  let finalizedExists ← pathExists paths.finalizedDirectory
  throwIf (finalizedExists = true) activationPathsInvalid
  rejectSymlink paths.stagingDirectory
  require (.rename paths.stagingDirectory paths.finalizedDirectory) rfl
    (.runtimeError "Recording artifact activation failed.")
  syncDirectory (.managed .staging)
  syncDirectory (.managed .finalized)

/-- The path check that both evidence writers make, with their own text. -/
def requireStagingPath (paths : RecordingArtifactPaths) (what : String) : StoreProg Unit := do
  throwIf (paths.stagingDirectory.parentPath ≠ .managed .staging) (.invalidArgument what)
  let status ← symlinkStatus paths.stagingDirectory
  throwIf (status = .symlink) (.invalidArgument what)

def writeStopRequest (paths : RecordingArtifactPaths) (contents : ByteString) : StoreProg Unit := do
  requireStagingPath paths "Recording stop staging path is unsafe."
  writeAtomically paths.stagingDirectory .stopRequest contents

def writeFinalizedManifest (paths : RecordingArtifactPaths) (contents : ByteString) :
    StoreProg Unit := do
  requireStagingPath paths "Recording manifest staging path is unsafe."
  writeAtomically paths.stagingDirectory .manifest contents

def rejectSymlinkIfPresent (path : ManagedPath) : StoreProg Unit := do
  let present ← pathExists path
  if present = true then rejectSymlink path else .pure ()

/-- `stop_request.json` of an artifact, when it has one. -/
def readStopRequest (directory : ManagedPath) : StoreProg (Option ByteString) := do
  let present ← pathExists (directory.child (.file .stopRequest))
  if present = true then
    let contents ← readBoundedRegularFile (directory.child (.file .stopRequest))
    .pure (some contents)
  else .pure none

def readArtifact (recordingId : ByteString) (finalized : Bool) :
    StoreProg (Option PersistedRecordingArtifact) := do
  let paths := artifactPaths recordingId
  let directory := if finalized then paths.finalizedDirectory else paths.stagingDirectory
  rejectSymlink directory
  let present ← isDirectory directory
  throwIf (present = false) (.runtimeError "Recording artifact identity is not a directory.")
  let startRequest ← readBoundedRegularFile (directory.child (.file .startRequest))
  let stopRequest ← readStopRequest directory
  .pure (some ⟨paths, finalized, startRequest, stopRequest⟩)

def findPersistedArtifact (recordingId : ByteString) :
    StoreProg (Option PersistedRecordingArtifact) := do
  throwIf (isRecordingIdValid recordingId = false) unsafeRecordingId
  rejectSymlinkIfPresent .root
  rejectSymlinkIfPresent (.managed .staging)
  rejectSymlinkIfPresent (.managed .finalized)
  let stagingExists ← pathExists (artifactPaths recordingId).stagingDirectory
  let finalizedExists ← pathExists (artifactPaths recordingId).finalizedDirectory
  throwIf (stagingExists = true ∧ finalizedExists = true)
    (.runtimeError "Recording identity exists in staging and finalized storage.")
  if stagingExists = false ∧ finalizedExists = false then .pure none
  else readArtifact recordingId finalizedExists

end RecordingStore

end NodusVision.Recording
