import NodusVision.Recording.Returns

/-! What the lookup returns when no call fails, as a function of the disk. -/
namespace NodusVision.Recording
open Text Storage Disk Program RecordingStore

section Lookup
variable {α β : Type} {p : StoreProg α} {recordingId : ByteString} {d d' : Disk}

/-- What a program that only asks returns when no call fails. -/
def outcome (p : StoreProg α) (d : Disk) : Except Exception α := (p.run exec {} ⟨d, 0, 0⟩).1

/-- What `findPersistedArtifact` returns when no call fails. -/
def lookup (d : Disk) (recordingId : ByteString) :
    Except Exception (Option PersistedRecordingArtifact) :=
  outcome (findPersistedArtifact recordingId) d

theorem run_of_reads (h : Only Reads p) (m : Machine) : (p.run exec {} m).2 = m := by
  induction p with
  | pure a => rfl
  | throw e => rfl
  | op o k ih =>
    rw [run_op, h.1]
    exact ih _ (h.2 _)

theorem outcome_bind {f : α → StoreProg β} (h : Only Reads p) :
    outcome (p.bind f) d = (outcome p d).bind fun a => outcome (f a) d := by
  have hstate := run_of_reads h ⟨d, 0, 0⟩
  unfold outcome
  cases hrun : p.run exec {} ⟨d, 0, 0⟩ with
  | mk r t =>
    rw [hrun] at hstate
    cases hstate
    cases r with
    | ok a =>
      rw [run_bind_ok hrun]
      rfl
    | error e =>
      rw [run_bind_error hrun]
      rfl

/-- The calls of a lookup do not depend on how the environment answers, as long as they succeed. -/
theorem exec_question {q : ManagedPath} {o : FsOp} (ho : o ∈ questions q) {c : Choice}
    (hc : c.fails = false) (m : Machine) :
    (exec o c m).1 = (exec o {} ⟨m.disk, 0, 0⟩).1 := by
  simp only [questions, List.mem_cons, List.not_mem_nil, or_false] at ho
  rcases ho with rfl | rfl | rfl | rfl | rfl | rfl <;> simp [exec, Choice.answer, hc]

theorem outcome_of_completes (h : Only (fun o => ∃ q, o ∈ questions q) p) {m m' : Machine}
    {r : Except Exception α} (hruns : Completes exec (alone Machine) faultless p m r m') :
    r = outcome p m.disk := by
  induction hruns with
  | pure => rfl
  | throw => rfl
  | @op o k s t u c r hr hc _ ih =>
    cases hr
    obtain ⟨q, hq⟩ := h.1
    have hrest := ih (h.2 _)
    rw [reads_of_question hq] at hrest
    rw [hrest, exec_question hq hc]
    unfold outcome
    rw [run_op, reads_of_question hq]

theorem outcome_congr (h : Only (fun o => ∃ q, IsLedgerPath recordingId q ∧ o ∈ questions q) p)
    (hu : Untouched recordingId d d') : outcome p d' = outcome p d := by
  refine run_agree (R := fun s t => s = ⟨d', 0, 0⟩ ∧ t = ⟨d, 0, 0⟩) ?_ h ⟨rfl, rfl⟩
  rintro o _ _ ⟨q, hq, ho⟩ ⟨rfl, rfl⟩
  have hnode := hu.ledger q hq
  rw [reads_of_question ho, reads_of_question ho]
  refine ⟨?_, rfl, rfl⟩
  simp only [questions, List.mem_cons, List.not_mem_nil, or_false] at ho
  rcases ho with rfl | rfl | rfl | rfl | rfl | rfl <;>
    simp [exec, Disk.pathExists, Disk.kind, Disk.isDirectory, Disk.contents, hnode]

theorem outcome_rejectSymlinkIfPresent {q : ManagedPath} :
    outcome (rejectSymlinkIfPresent q) d =
      if d.pathExists q = true ∧ d.kind q = .symlink then
        .error (.invalidArgument "Recording managed directory must not be a symlink.")
      else .ok () := by
  show (Prog.run exec {} (if d.pathExists q = true then rejectSymlink q else .pure ()) ⟨d, 0, 0⟩).1 = _
  by_cases hp : d.pathExists q = true
  · rw [if_pos hp]
    show (Prog.run exec {} (throwIf (d.kind q = .symlink) _) ⟨d, 0, 0⟩).1 = _
    unfold throwIf
    by_cases hk : d.kind q = .symlink
    · rw [if_pos hk, if_pos ⟨hp, hk⟩]
      rfl
    · rw [if_neg hk, if_neg fun h => hk h.2]
      rfl
  · rw [if_neg hp, if_neg fun h => hp h.1]
    rfl

/-- The check of a managed directory does not tell whether it has appeared. -/
theorem outcome_rejectSymlinkIfPresent_congr {q : ManagedPath}
    (hq : q = .root ∨ ∃ m, q = .managed m) (hu : Untouched recordingId d d') :
    outcome (rejectSymlinkIfPresent q) d' = outcome (rejectSymlinkIfPresent q) d := by
  rw [outcome_rejectSymlinkIfPresent, outcome_rejectSymlinkIfPresent]
  rcases hu.managed q hq with he | ⟨hn, he⟩
  · have hkind : d'.kind q = d.kind q := by simp only [Disk.kind, he]
    simp only [pathExists_congr he, hkind]
  · simp [Disk.pathExists, Disk.kind, hn, he]

theorem lookup_eq (d : Disk) (recordingId : ByteString) :
    lookup d recordingId =
      (outcome (throwIf (isRecordingIdValid recordingId = false) unsafeRecordingId) d).bind fun _ =>
      (outcome (rejectSymlinkIfPresent .root) d).bind fun _ =>
      (outcome (rejectSymlinkIfPresent (.managed .staging)) d).bind fun _ =>
      (outcome (rejectSymlinkIfPresent (.managed .finalized)) d).bind fun _ =>
        outcome (locateArtifact recordingId) d := by
  have hreads : ∀ q, Only Reads (rejectSymlinkIfPresent q) :=
    fun q => only_rejectSymlinkIfPresent fun _ => reads_of_question
  rw [lookup, findPersistedArtifact_eq, outcome_bind (only_throwIf _)]
  simp only [outcome_bind (hreads _)]

/-- What leaves the stored requests of an id alone leaves its lookup alone. -/
theorem lookup_untouched (hu : Untouched recordingId d d') :
    lookup d' recordingId = lookup d recordingId := by
  have hlocate : Only (fun o => ∃ q, IsLedgerPath recordingId q ∧ o ∈ questions q)
      (locateArtifact recordingId) := only_locateArtifact fun p hp _ ho => ⟨p, hp, ho⟩
  have hguard : outcome (throwIf (isRecordingIdValid recordingId = false) unsafeRecordingId) d' =
      outcome (throwIf (isRecordingIdValid recordingId = false) unsafeRecordingId) d := by
    unfold throwIf outcome
    split <;> rfl
  rw [lookup_eq, lookup_eq, hguard, outcome_rejectSymlinkIfPresent_congr (.inl rfl) hu,
    outcome_rejectSymlinkIfPresent_congr (.inr ⟨.staging, rfl⟩) hu,
    outcome_rejectSymlinkIfPresent_congr (.inr ⟨.finalized, rfl⟩) hu, outcome_congr hlocate hu]

theorem outcome_throwIf {c : Prop} [Decidable c] {e : Exception} (hc : ¬c) :
    outcome (throwIf c e) d = .ok () := by
  unfold throwIf
  rw [if_neg hc]
  rfl

/-- A bounded read of a regular file. -/
theorem outcome_readBoundedRegularFile {q : ManagedPath} {c : ByteString}
    (hq : d q = some (.regular c)) :
    outcome (readBoundedRegularFile q) d =
      if maxRequestFileBytes < c.length then .error evidenceUnbounded else .ok c := by
  have hkind : d.kind q = .regular := by simp only [Disk.kind, hq]
  have hcontents : d.contents q = some c := by simp only [Disk.contents, hq]
  have hsize : (call (.fileSize q) : StoreProg (Option ℕ)).run exec {} ⟨d, 0, 0⟩ =
      (.ok (some c.length), ⟨d, 0, 0⟩) := by
    show (Except.ok ((d.contents q).map List.length), _) = _
    rw [hcontents]
    rfl
  have hopen : (call (.openInput q) : StoreProg (Option ByteString)).run exec {} ⟨d, 0, 0⟩ =
      (.ok (some c), ⟨d, 0, 0⟩) := by
    show (Except.ok (d.contents q), _) = _
    rw [hcontents]
    rfl
  show (Prog.run exec {} ((throwIf (d.kind q ≠ .regular) _).bind fun _ => _) ⟨d, 0, 0⟩).1 = _
  rw [hkind, run_bind_ok rfl, Prog.bind_eq, run_bind_ok hsize]
  dsimp only
  unfold throwIf
  by_cases hlong : maxRequestFileBytes < c.length
  · rw [if_pos hlong, if_pos hlong]
    rfl
  · rw [if_neg hlong, if_neg hlong, Prog.bind_eq, run_bind_ok rfl, Prog.bind_eq,
      run_bind_ok hopen]
    dsimp only
    show (Prog.run exec {} ((throwIf (true = false ∨ c.length < c.length) _).bind fun _ =>
      .pure (c.take c.length)) ⟨d, 0, 0⟩).1 = _
    unfold throwIf
    rw [if_neg (by simp), List.take_length]
    rfl

theorem outcome_rejectSymlink {q : ManagedPath} (hq : d q = some .directory) :
    outcome (rejectSymlink q) d = .ok () := by
  have hkind : d.kind q = .directory := by simp only [Disk.kind, hq]
  show (Prog.run exec {} (throwIf (d.kind q = .symlink) _) ⟨d, 0, 0⟩).1 = _
  rw [hkind]
  rfl

theorem outcome_readStopRequest {directory : ManagedPath} {stopRequest : Option ByteString}
    (hstop : d (directory.child (.file .stopRequest)) = stopRequest.map .regular) :
    outcome (readStopRequest directory) d =
      if ∃ c ∈ stopRequest, maxRequestFileBytes < c.length then .error evidenceUnbounded
      else .ok stopRequest := by
  have hexists : outcome (pathExists (directory.child (.file .stopRequest))) d =
      .ok stopRequest.isSome := by
    show Except.ok (d.pathExists (directory.child (.file .stopRequest))) = _
    cases stopRequest <;> simp [Disk.pathExists, hstop]
  have hask : ∀ q, ∀ o ∈ questions q, Reads o := fun _ _ => reads_of_question
  unfold readStopRequest
  rw [Prog.bind_eq, outcome_bind (only_pathExists (hask _)), hexists]
  cases stopRequest with
  | none => rfl
  | some c =>
    show outcome ((readBoundedRegularFile _).bind fun contents => .pure (some contents)) d = _
    rw [outcome_bind (only_readBoundedRegularFile (hask _)), outcome_readBoundedRegularFile hstop]
    by_cases hlong : maxRequestFileBytes < c.length
    · rw [if_pos hlong, if_pos ⟨c, rfl, hlong⟩]
      rfl
    · rw [if_neg hlong, if_neg]
      · rfl
      · rintro ⟨c', hc', hlong'⟩
        cases hc'
        exact hlong hlong'

/-- The lookup of a registered artifact returns its requests when they are short enough. -/
theorem lookup_registered {finalized : Bool} {startRequest : ByteString}
    {stopRequest : Option ByteString} (hid : isRecordingIdValid recordingId = true)
    (h : Registered recordingId finalized (some startRequest) stopRequest d) :
    lookup d recordingId =
      if maxRequestFileBytes < startRequest.length ∨
          ∃ c ∈ stopRequest, maxRequestFileBytes < c.length then .error evidenceUnbounded
      else .ok (some ⟨artifactPaths recordingId, finalized, startRequest, stopRequest⟩) := by
  obtain ⟨⟨hroot, hmanaged⟩, ⟨hdirectory, hstart, hstop⟩, helsewhere⟩ := h
  have hask : ∀ q, ∀ o ∈ questions q, Reads o := fun _ _ => reads_of_question
  have hreject : ∀ q, d q = some .directory → outcome (rejectSymlinkIfPresent q) d = .ok () := by
    intro q hq
    rw [outcome_rejectSymlinkIfPresent]
    simp [Disk.kind, hq]
  have hhere : d.pathExists (.artifact (place finalized) recordingId) = true := by
    simp only [Disk.pathExists, hdirectory]
  have hstaging : outcome (pathExists (artifactPaths recordingId).stagingDirectory) d =
      .ok !finalized := by
    cases finalized
    · exact congrArg Except.ok hhere
    · exact congrArg Except.ok helsewhere
  have hfinalized : outcome (pathExists (artifactPaths recordingId).finalizedDirectory) d =
      .ok finalized := by
    cases finalized
    · exact congrArg Except.ok helsewhere
    · exact congrArg Except.ok hhere
  have hdir : (if finalized then (artifactPaths recordingId).finalizedDirectory
      else (artifactPaths recordingId).stagingDirectory) = .artifact (place finalized) recordingId := by
    cases finalized <;> rfl
  have hisDirectory : outcome (isDirectory (.artifact (place finalized) recordingId)) d = .ok true := by
    show Except.ok (d.isDirectory _) = _
    simp only [Disk.isDirectory, hdirectory]
  have hread : outcome (readArtifact recordingId finalized) d =
      (outcome (readBoundedRegularFile
        (.entry (place finalized) recordingId (.file .startRequest))) d).bind fun start =>
      (outcome (readStopRequest (.artifact (place finalized) recordingId)) d).bind fun stop =>
        .ok (some ⟨artifactPaths recordingId, finalized, start, stop⟩) := by
    unfold readArtifact
    simp only [hdir, Prog.bind_eq, ManagedPath.child_artifact]
    rw [outcome_bind (only_rejectSymlink (hask _)), outcome_rejectSymlink hdirectory]
    show outcome (Prog.bind _ _) d = _
    rw [outcome_bind (only_isDirectory (hask _)), hisDirectory]
    show outcome (Prog.bind (throwIf (true = false) _) _) d = _
    rw [outcome_bind (only_throwIf _), outcome_throwIf (by simp)]
    show outcome (Prog.bind _ _) d = _
    rw [outcome_bind (only_readBoundedRegularFile (hask _))]
    refine congrArg _ (funext fun start => ?_)
    rw [outcome_bind (only_readStopRequest (hask _))]
    rfl
  have hlocate : outcome (locateArtifact recordingId) d = outcome (readArtifact recordingId finalized) d := by
    unfold locateArtifact
    rw [Prog.bind_eq, outcome_bind (only_pathExists (hask _)), hstaging]
    show outcome (Prog.bind _ _) d = _
    rw [outcome_bind (only_pathExists (hask _)), hfinalized]
    show outcome (Prog.bind _ _) d = _
    rw [outcome_bind (only_throwIf _), outcome_throwIf (by cases finalized <;> simp)]
    show outcome (if (!finalized) = false ∧ finalized = false then _ else _) d = _
    rw [if_neg (by cases finalized <;> simp)]
  rw [lookup_eq, outcome_throwIf (by simp [hid]), hreject _ hroot, hreject _ (hmanaged _),
    hreject _ (hmanaged _)]
  show outcome (locateArtifact recordingId) d = _
  rw [hlocate, hread, outcome_readBoundedRegularFile hstart,
    @outcome_readStopRequest _ (.artifact (place finalized) recordingId) _ hstop]
  by_cases hlong : maxRequestFileBytes < startRequest.length
  · have heither : maxRequestFileBytes < startRequest.length ∨
        ∃ c ∈ stopRequest, maxRequestFileBytes < c.length := .inl hlong
    rw [if_pos hlong, if_pos heither]
    rfl
  · rw [if_neg hlong]
    by_cases hstopLong : ∃ c ∈ stopRequest, maxRequestFileBytes < c.length
    · have heither : maxRequestFileBytes < startRequest.length ∨
          ∃ c ∈ stopRequest, maxRequestFileBytes < c.length := .inr hstopLong
      rw [if_pos hstopLong, if_pos heither]
      rfl
    · rw [if_neg hstopLong, if_neg (not_or.mpr ⟨hlong, hstopLong⟩)]
      rfl

/-- A lookup in which no call fails. -/
def Finds (m : Machine) (recordingId : ByteString)
    (r : Except Exception (Option PersistedRecordingArtifact)) : Prop :=
  ∃ m', Completes exec (alone Machine) faultless (findPersistedArtifact recordingId) m r m'

theorem finds_iff {m : Machine} {r : Except Exception (Option PersistedRecordingArtifact)} :
    Finds m recordingId r ↔ r = lookup m.disk recordingId := by
  have hasks : Only (fun o => ∃ q, o ∈ questions q) (findPersistedArtifact recordingId) :=
    only_findPersistedArtifact fun p _ _ ho => ⟨p, ho⟩
  constructor
  · rintro ⟨m', hruns⟩
    exact outcome_of_completes hasks hruns
  · rintro rfl
    have hchoice : faultless {} := rfl
    have hruns : Completes exec (alone Machine) faultless (findPersistedArtifact recordingId) m _ _ :=
      run_completes hchoice
    have hresult := outcome_of_completes hasks hruns
    rw [hresult] at hruns
    exact ⟨_, hruns⟩

end Lookup

section Smooth
variable {recordingId contents : ByteString} {f : ArtifactFile} {m : Machine}

theorem run_require {o : FsOp} (h : o.Res = Bool) {e : Exception} {m m' : Machine}
    (hcall : exec o {} m = (cast h.symm true, m')) :
    (require o h e).run exec {} m = (.ok (), m') := by
  unfold require
  rw [run_op, hcall]
  simp [throwIf]

theorem writeRemaining_run (n : ℕ) (written rest : ByteString) (hn : rest.length ≤ n)
    (hopen : m.disk (.entry .staging recordingId (.temporary f)) = some (.regular written)) :
    (writeRemaining (.entry .staging recordingId (.temporary f)) n rest).run exec {} m =
      (.ok (), m.withDisk (m.disk.set (.entry .staging recordingId (.temporary f))
        (some (.regular (written ++ rest))))) := by
  have hself : m.disk.set (.entry .staging recordingId (.temporary f)) (some (.regular written)) =
      m.disk := by
    rw [← hopen]
    exact Function.update_eq_self _ _
  cases rest with
  | nil =>
    rw [List.append_nil, hself]
    cases n <;> rfl
  | cons b rest =>
    cases n with
    | zero => cases hn
    | succ n =>
      have hwrite : exec (.write (.entry .staging recordingId (.temporary f)) (b :: rest)) {} m =
          (some (b :: rest).length, m.withDisk (m.disk.set
            (.entry .staging recordingId (.temporary f)) (some (.regular (written ++ b :: rest))))) := by
        simp [exec, Choice.transferred, append, hopen]
      show (Prog.op (FsOp.write _ (b :: rest)) _).run exec {} m = _
      rw [run_op, hwrite]
      show (writeRemaining _ n ((b :: rest).drop (b :: rest).length)).run exec {} _ = _
      rw [List.drop_length]
      cases n <;> rfl

/-- When no call fails and the name is free, the file is written. -/
theorem writeAtomically_run
    (hstaging : m.disk (.artifact .staging recordingId) = some .directory)
    (hfree : m.disk (.entry .staging recordingId (.temporary f)) = none) :
    (writeAtomically (.artifact .staging recordingId) f contents).run exec {} m =
      (.ok (), m.withDisk ((m.disk.set (.entry .staging recordingId (.temporary f)) none).set
        (.entry .staging recordingId (.file f)) (some (.regular contents)))) := by
  have hparent : ∀ n, m.disk.parentPresent (.entry .staging recordingId n) = true := by
    intro n
    simp [parentPresent, ManagedPath.parentPath, Disk.isDirectory, hstaging]
  let opened := m.withDisk (m.disk.set (.entry .staging recordingId (.temporary f))
    (some (.regular [])))
  let filled := m.withDisk (m.disk.set (.entry .staging recordingId (.temporary f))
    (some (.regular contents)))
  let renamed := m.withDisk ((m.disk.set (.entry .staging recordingId (.temporary f)) none).set
    (.entry .staging recordingId (.file f)) (some (.regular contents)))
  have hopen : exec (.openExclusive (.entry .staging recordingId (.temporary f))) {} m =
      (true, opened) := by
    simp [exec, hfree, hparent, opened]
  have hfill : (writeRemaining (.entry .staging recordingId (.temporary f)) contents.length
      contents).run exec {} opened = (.ok (), filled) := by
    rw [writeRemaining_run _ [] contents le_rfl (set_self _ _ _)]
    simp [opened, filled, Machine.withDisk, Disk.set]
  have hrename : exec (.rename (.entry .staging recordingId (.temporary f))
      (.entry .staging recordingId (.file f))) {} filled = (true, renamed) := by
    have hstill : parentPresent (Function.update m.disk (.entry .staging recordingId (.temporary f))
        (some (.regular contents))) (.entry .staging recordingId (.file f)) = true := by
      simp [parentPresent, ManagedPath.parentPath, Disk.isDirectory, hstaging]
    simp [exec, Disk.rename, filled, renamed, Machine.withDisk, hstill, Disk.set]
  have hsync : (syncDirectory (.artifact .staging recordingId)).run exec {} renamed =
      (.ok (), renamed) := by
    have hdirectory : renamed.disk.isDirectory (.artifact .staging recordingId) = true := by
      simp [renamed, Machine.withDisk, Disk.isDirectory, Disk.set, hstaging]
    have hopened : exec (.openDirectory (.artifact .staging recordingId)) {} renamed =
        (true, renamed) := by
      simp [exec, hdirectory]
    unfold syncDirectory
    rw [Prog.bind_eq, run_bind_ok (run_require rfl hopened)]
    exact run_require rfl rfl
  unfold writeAtomically
  simp only [ManagedPath.child_artifact, Prog.bind_eq]
  rw [run_bind_ok (run_require rfl hopen), run_bind_ok hfill]
  show Prog.run exec {} ((require _ rfl _).bind fun _ => _) filled = _
  rw [run_bind_ok (run_require rfl hrename)]
  exact hsync

end Smooth

end NodusVision.Recording
