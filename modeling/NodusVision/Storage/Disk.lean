import NodusVision.Text.Json
import NodusVision.Program.Prog
import Mathlib.Logic.Function.Basic

/-! The recording root as the system calls of the recorder see it. Every call takes an
environment choice that can make it fail. -/
namespace NodusVision.Storage
open Text Program

/-- Exceptions of the recording code, with the texts of the source. -/
inductive Exception where
  | invalidArgument (what : String)
  | runtimeError (what : String)
  | recordingNotFound (what : String)
  | filesystemError
  | systemError
  deriving DecidableEq

inductive ManagedDirectory where
  | staging
  | finalized
  deriving DecidableEq

inductive ArtifactFile where
  | startRequest
  | stopRequest
  | manifest
  | video
  | sidecar
  deriving DecidableEq

/-- A directory entry of one artifact; `writeAtomically` appends ".tmp" to a temporary one. -/
inductive EntryName where
  | file (name : ArtifactFile)
  | temporary (name : ArtifactFile)
  deriving DecidableEq

/-- The paths the recorder builds: `root`, `root/.staging`, `root/.staging/<id>`,
`root/.staging/<id>/<name>`; `unset` is a default-constructed path. -/
inductive ManagedPath where
  | unset
  | root
  | managed (m : ManagedDirectory)
  | artifact (m : ManagedDirectory) (id : ByteString)
  | entry (m : ManagedDirectory) (id : ByteString) (name : EntryName)
  deriving DecidableEq

namespace ManagedPath

/-- `directory / filename` for an artifact directory. -/
def child : ManagedPath → EntryName → ManagedPath
  | .artifact m id, name => .entry m id name
  | _, _ => .unset

def parentPath : ManagedPath → ManagedPath
  | .managed _ => .root
  | .artifact m _ => .managed m
  | .entry m id _ => .artifact m id
  | _ => .unset

@[simp] theorem child_artifact (m : ManagedDirectory) (id : ByteString) (name : EntryName) :
    (artifact m id).child name = .entry m id name := rfl

@[simp] theorem parentPath_artifact (m : ManagedDirectory) (id : ByteString) :
    (artifact m id).parentPath = .managed m := rfl

end ManagedPath

inductive FileKind where
  | absent
  | regular
  | directory
  | symlink
  deriving DecidableEq

inductive Node where
  | directory
  | regular (contents : ByteString)
  | symlink (toDirectory : Bool)
  deriving DecidableEq

abbrev Disk := ManagedPath → Option Node

def Disk.set (d : Disk) (p : ManagedPath) (n : Option Node) : Disk := Function.update d p n

def Disk.isDirectory (d : Disk) (p : ManagedPath) : Bool :=
  match d p with
  | some .directory => true
  | some (.symlink toDirectory) => toDirectory
  | _ => false

def Disk.isRegular (d : Disk) (p : ManagedPath) : Bool :=
  match d p with
  | some (.regular _) => true
  | _ => false

def Disk.pathExists (d : Disk) (p : ManagedPath) : Bool :=
  match d p with
  | none => false
  | some (.symlink toDirectory) => toDirectory
  | _ => true

def Disk.kind (d : Disk) (p : ManagedPath) : FileKind :=
  match d p with
  | none => .absent
  | some .directory => .directory
  | some (.regular _) => .regular
  | some (.symlink _) => .symlink

def Disk.contents (d : Disk) (p : ManagedPath) : Option ByteString :=
  match d p with
  | some (.regular contents) => some contents
  | _ => none

/-- A new entry needs its parent directory. -/
def Disk.parentPresent (d : Disk) : ManagedPath → Bool
  | .root => true
  | .unset => false
  | p => d.isDirectory p.parentPath

/-- Bytes added to an open file; a file that is gone takes none. -/
def Disk.append (d : Disk) (p : ManagedPath) (bytes : ByteString) : Disk :=
  match d p with
  | some (.regular contents) => d.set p (some (.regular (contents ++ bytes)))
  | _ => d

/-- `rename` of an artifact directory moves every entry with it. -/
def Disk.moveArtifact (d : Disk) (m : ManagedDirectory) (id : ByteString)
    (m' : ManagedDirectory) (id' : ByteString) : Disk
  | .artifact k i =>
    if k = m' ∧ i = id' then d (.artifact m id)
    else if k = m ∧ i = id then none
    else d (.artifact k i)
  | .entry k i name =>
    if k = m' ∧ i = id' then d (.entry m id name)
    else if k = m ∧ i = id then none
    else d (.entry k i name)
  | p => d p

/-- `rename(2)`; a directory is only moved to a free name. -/
def Disk.rename (d : Disk) (source target : ManagedPath) : Option Disk :=
  match source, target with
  | .artifact m id, .artifact m' id' =>
    if d (.artifact m id) = some .directory ∧ d (.artifact m' id') = none ∧
        d.parentPresent (.artifact m' id') = true
    then some (d.moveArtifact m id m' id') else none
  | .entry m id name, .entry m' id' name' =>
    match d (.entry m id name) with
    | some (.regular contents) =>
      if d.parentPresent (.entry m' id' name') = true
      then some ((d.set (.entry m id name) none).set (.entry m' id' name') (some (.regular contents)))
      else none
    | _ => none
  | _, _ => none

/-- The disk and the clocks, `steady_clock` and `system_clock` in nanoseconds. -/
structure Machine where
  disk : Disk
  steady : ℕ
  unix : ℤ

/-- Answer of the environment to one call: whether it fails, how far a partial transfer goes,
and the bytes an encoder call produces. -/
structure Choice where
  fails : Bool := false
  amount : ℕ := 0
  bytes : ByteString := []
  deriving DecidableEq

inductive DirectoryCreation where
  | created
  | existing
  | fileExists
  | failed
  deriving DecidableEq

/-- System and library calls; `library` does not touch the disk, `encode` is a libav call
that writes to its output file. -/
inductive FsOp where
  | pathExists (p : ManagedPath)
  | symlinkStatus (p : ManagedPath)
  | isDirectory (p : ManagedPath)
  | isRegularFile (p : ManagedPath)
  | createDirectories (p : ManagedPath)
  | createDirectory (p : ManagedPath)
  | space (p : ManagedPath)
  | openExclusive (p : ManagedPath)
  | write (p : ManagedPath) (bytes : ByteString)
  | fsync (p : ManagedPath)
  | close (p : ManagedPath)
  | rename (source target : ManagedPath)
  | openDirectory (p : ManagedPath)
  | fileSize (p : ManagedPath)
  | openInput (p : ManagedPath)
  | read (p : ManagedPath)
  | truncate (p : ManagedPath)
  | library
  | encode (p : ManagedPath)
  | streamWrite (p : ManagedPath) (buffer : ByteString)
  | streamFlush (p : ManagedPath) (buffer : ByteString)
  | steadyNow

/-- `none` and `false` are failures reported by the call. -/
@[reducible] def FsOp.Res : FsOp → Type
  | .pathExists _ | .isDirectory _ | .isRegularFile _ => Option Bool
  | .symlinkStatus _ => Option FileKind
  | .createDirectory _ => DirectoryCreation
  | .space _ | .write _ _ | .fileSize _ | .streamWrite _ _ => Option ℕ
  | .createDirectories _ | .openExclusive _ | .fsync _ | .close _ | .rename _ _
  | .openDirectory _ | .read _ | .truncate _ | .library | .encode _ | .streamFlush _ _ => Bool
  | .openInput _ => Option ByteString
  | .steadyNow => ℕ

def Choice.answer {α : Type} (c : Choice) (a : α) : Option α := if c.fails then none else some a

/-- A successful `write` transfers at least one byte of a non-empty buffer. -/
def Choice.transferred (c : Choice) (bytes : ByteString) : ℕ :=
  if 0 < c.amount ∧ c.amount < bytes.length then c.amount else bytes.length

def Machine.withDisk (m : Machine) (d : Disk) : Machine := { m with disk := d }

/-- Effect and answer of one call. -/
def exec : (o : FsOp) → Choice → Machine → o.Res × Machine
  | .pathExists p, c, m => (c.answer (m.disk.pathExists p), m)
  | .symlinkStatus p, c, m => (c.answer (m.disk.kind p), m)
  | .isDirectory p, c, m => (c.answer (m.disk.isDirectory p), m)
  | .isRegularFile p, c, m => (c.answer (m.disk.isRegular p), m)
  | .createDirectories p, c, m =>
    if c.fails then (false, m)
    else match m.disk p with
      | none => if m.disk.parentPresent p then (true, m.withDisk (m.disk.set p (some .directory)))
        else (false, m)
      | some _ => (m.disk.isDirectory p, m)
  | .createDirectory p, c, m =>
    if c.fails then (.failed, m)
    else match m.disk p with
      | none => if m.disk.parentPresent p then (.created, m.withDisk (m.disk.set p (some .directory)))
        else (.failed, m)
      | some _ => (if m.disk.isDirectory p then .existing else .fileExists, m)
  | .space _, c, m => (c.answer c.amount, m)
  | .openExclusive p, c, m =>
    if c.fails = true ∨ (m.disk p).isSome = true ∨ m.disk.parentPresent p = false then (false, m)
    else (true, m.withDisk (m.disk.set p (some (.regular []))))
  | .write p bytes, c, m =>
    if c.fails then (none, m)
    else (some (c.transferred bytes), m.withDisk (m.disk.append p (bytes.take (c.transferred bytes))))
  | .fsync _, c, m => (!c.fails, m)
  | .close _, c, m => (!c.fails, m)
  | .rename source target, c, m =>
    if c.fails then (false, m)
    else match m.disk.rename source target with
      | none => (false, m)
      | some d => (true, m.withDisk d)
  | .openDirectory p, c, m => (!c.fails && m.disk.isDirectory p, m)
  | .fileSize p, c, m => (if c.fails then none else (m.disk.contents p).map List.length, m)
  | .openInput p, c, m => (if c.fails then none else m.disk.contents p, m)
  | .read _, c, m => (!c.fails, m)
  | .truncate p, c, m =>
    if c.fails = true ∨ m.disk.isDirectory p = true ∨ m.disk.parentPresent p = false then (false, m)
    else (true, m.withDisk (m.disk.set p (some (.regular []))))
  | .library, c, m => (!c.fails, m)
  | .encode p, c, m => (!c.fails, m.withDisk (m.disk.append p c.bytes))
  | .streamWrite p buffer, c, m =>
    if c.fails then (none, m)
    else (some (min c.amount buffer.length), m.withDisk (m.disk.append p (buffer.take c.amount)))
  | .streamFlush p buffer, c, m =>
    if c.fails then (false, m.withDisk (m.disk.append p (buffer.take c.amount)))
    else (true, m.withDisk (m.disk.append p buffer))
  | .steadyNow, _, m => (m.steady, m)

abbrev StoreProg := Prog FsOp.Res Exception

end NodusVision.Storage
