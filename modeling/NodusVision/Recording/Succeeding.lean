import NodusVision.Program.Robust
import NodusVision.Recording.FrameLog
import NodusVision.Recording.Staging

/-! Programs of the recorder of which no call fails: the writers go on from every state, the
digests and the closing of the artifact where its files are there and the deadline is ahead. -/
namespace NodusVision.Recording
open Text Storage Disk Program RecordingStore

section Robust

theorem throwIf_robust (c : Prop) [Decidable c] (e : Exception) :
    (throwIf c e).Robust exec faultless := by
  unfold throwIf
  split <;> trivial

theorem throwIf_starts {c : Prop} [Decidable c] (e : Exception) (h : ¬c) :
    ¬(throwIf c e).Throws := by
  rw [throwIf, if_neg h]
  exact Prog.not_throws_pure _

/-- A call that fails only where the environment makes it fail. -/
theorem require_robust {o : FsOp} (h : o.Res = Bool) (e : Exception)
    (hanswer : ∀ c m, c.fails = false → cast h (exec o c m).1 = true) :
    (require o h e).Robust exec faultless := by
  refine ⟨fun c m hc => throwIf_starts e ?_, fun r => throwIf_robust _ e⟩
  rw [hanswer c m hc]
  exact fun hfalse => by cases hfalse

namespace ColorVideoWriter

theorem libraryCalls_starts (whats : List String) : ¬(libraryCalls whats).Throws := by
  cases whats with
  | nil => exact Prog.not_throws_pure _
  | cons what rest => exact Prog.not_throws_op _ _

theorem libraryCalls_robust (whats : List String) : (libraryCalls whats).Robust exec faultless := by
  induction whats with
  | nil => trivial
  | cons what rest ih =>
    refine .bind (require_robust _ _ fun c m hc => ?_) (fun _ => ih)
      fun _ => libraryCalls_starts rest
    simp [exec, hc]

theorem encode_robust (p : ManagedPath) (what : String) :
    (require (.encode p) rfl (.runtimeError what)).Robust exec faultless :=
  require_robust _ _ fun c m hc => by simp [exec, hc]

theorem writeFrame_robust (w : ColorVideoWriter) (color : VideoFrameView) :
    (w.writeFrame color).Robust exec faultless := by
  refine .bind (throwIf_robust _ _) (fun _ => ?_) fun _ => Prog.not_throws_op _ _
  refine .bind (libraryCalls_robust _) (fun _ => ?_) fun _ => Prog.not_throws_op _ _
  exact .bind (encode_robust _ _) (fun _ => trivial) fun _ => Prog.not_throws_pure _

/-- A frame of the right profile comes to the encoder. -/
theorem writeFrame_starts {w : ColorVideoWriter} {color : VideoFrameView}
    (h : w.matchesProfile color = true) : ¬(w.writeFrame color).Throws := by
  refine Prog.not_throws_bind (throwIf_starts _ ?_) fun _ => Prog.not_throws_op _ _
  rw [h]
  exact fun hfalse => by cases hfalse

theorem finalize_robust (w : ColorVideoWriter) : w.finalize.Robust exec faultless := by
  unfold finalize
  split
  · trivial
  · refine .bind (libraryCalls_robust _) (fun _ => ?_) fun _ => Prog.not_throws_op _ _
    refine .bind (encode_robust _ _) (fun _ => ?_) fun _ => Prog.not_throws_op _ _
    refine .bind (encode_robust _ _) (fun _ => ?_) fun _ => Prog.not_throws_op _ _
    exact .bind (encode_robust _ _) (fun _ => trivial) fun _ => Prog.not_throws_pure _

theorem finalize_starts (w : ColorVideoWriter) : ¬w.finalize.Throws := by
  unfold finalize
  split
  · exact Prog.not_throws_pure _
  · exact Prog.not_throws_op _ _

end ColorVideoWriter

namespace RecordingSidecarWriter

theorem append_robust (w : RecordingSidecarWriter) (entry : RecordingFrameEntry) :
    (w.append entry).Robust exec faultless := by
  refine .bind (throwIf_robust _ _) (fun _ => ⟨fun c m hc => ?_, fun (written : Option ℕ) => ?_⟩)
    fun _ => Prog.not_throws_op _ _
  · have hanswer : (exec (.streamWrite w.outputPath (w.buffer ++ w.line entry)) c m).1 =
        some (min c.amount (w.buffer ++ w.line entry).length) := by
      simp [exec, show c.fails = false from hc]
    rw [hanswer]
    exact Prog.not_throws_pure _
  · cases written <;> trivial

/-- An entry in order comes to the stream. -/
theorem append_starts {w : RecordingSidecarWriter} {entry : RecordingFrameEntry}
    (h : w.acceptsEntry entry = true) : ¬(w.append entry).Throws := by
  refine Prog.not_throws_bind (throwIf_starts _ ?_) fun _ => Prog.not_throws_op _ _
  rw [h]
  exact fun hfalse => by cases hfalse

theorem finalize_robust (w : RecordingSidecarWriter) : w.finalize.Robust exec faultless := by
  unfold finalize
  split
  · trivial
  · refine .bind (require_robust _ _ fun c m hc => ?_) (fun _ => ?_) fun _ => Prog.not_throws_op _ _
    · simp [exec, hc]
    · refine .bind (require_robust _ _ fun c m hc => ?_) (fun _ => trivial)
        fun _ => Prog.not_throws_pure _
      simp [exec, hc]

theorem finalize_starts (w : RecordingSidecarWriter) : ¬w.finalize.Throws := by
  unfold finalize
  split
  · exact Prog.not_throws_pure _
  · exact Prog.not_throws_op _ _

end RecordingSidecarWriter

end Robust

/-- Other threads leave the disk alone, and the deadline stays ahead. -/
def punctual (deadline : ℕ) : Interference Machine where
  rely m m' := m'.disk = m.disk ∧ (m.steady < deadline → m'.steady < deadline)
  guar _ _ := True
  rely_refl _ := ⟨rfl, fun h => h⟩
  rely_trans h k := ⟨k.1.trans h.1, fun hm => k.2 (h.2 hm)⟩

/-- While no call fails and the deadline is ahead, the program returns with the postcondition. -/
def Achieves {α : Type} (deadline : ℕ) (P : Disk → Prop) (p : StoreProg α)
    (Q : α → Disk → Prop) : Prop :=
  Triple exec (punctual deadline) faultless (fun m => m.steady < deadline ∧ P m.disk) p
    (fun a m => m.steady < deadline ∧ Q a m.disk) fun _ _ => False

namespace Achieves
variable {α β : Type} {deadline : ℕ} {P : Disk → Prop} {Q Q' : α → Disk → Prop}
  {p : StoreProg α}

theorem stable (deadline : ℕ) (P : Disk → Prop) :
    (punctual deadline).Stable fun m => m.steady < deadline ∧ P m.disk := by
  rintro m m' ⟨hdisk, hahead⟩ ⟨hm, hP⟩
  exact ⟨hahead hm, hdisk ▸ hP⟩

theorem pure {a : α} (h : ∀ d, P d → Q a d) : Achieves deadline P (.pure a) Q :=
  Triple.pure (stable _ _) fun _ hm => ⟨hm.1, h _ hm.2⟩

theorem post (h : ∀ a d, Q a d → Q' a d) (hp : Achieves deadline P p Q) :
    Achieves deadline P p Q' :=
  Triple.post (fun a _ hm => ⟨hm.1, h a _ hm.2⟩) (fun _ _ he => he) hp

theorem op {o : FsOp} {k : o.Res → StoreProg α} (R : o.Res → Disk → Prop)
    (hstep : ∀ m c, m.steady < deadline → P m.disk → c.fails = false →
      R (exec o c m).1 (exec o c m).2.disk)
    (hk : ∀ r, Achieves deadline (R r) (k r) Q) : Achieves deadline P (.op o k) Q := by
  refine Triple.op (stable _ _) (fun r m => m.steady < deadline ∧ R r m.disk) ?_ hk
  rintro m c ⟨hm, hP⟩ hc
  exact ⟨trivial, (exec_steady o c m).trans_lt hm, hstep m c hm hP hc⟩

theorem bind {f : α → StoreProg β} {R : β → Disk → Prop} (Q : α → Disk → Prop)
    (hp : Achieves deadline P p Q) (hf : ∀ a, Achieves deadline (Q a) (f a) R) :
    Achieves deadline P (p.bind f) R := Triple.bind _ hp hf

theorem assume {c : Prop} (h : c → Achieves deadline P p Q) :
    Achieves deadline (fun d => c ∧ P d) p Q := fun m hm => h hm.2.1 m ⟨hm.1, hm.2.2⟩

/-- The machine of the precondition, at a state in which the deadline is ahead. -/
theorem safe {m : Machine} (h : Achieves deadline P p Q) (hm : m.steady < deadline)
    (hP : P m.disk) :
    p.Safe exec (punctual deadline) faultless (fun _ _ => True) (fun _ _ => False) m :=
  (h m ⟨hm, hP⟩).mono (fun _ _ _ => trivial) fun _ _ he => he

theorem call {o : FsOp} {f : o.Res → StoreProg α} (R : o.Res → Disk → Prop)
    (hstep : ∀ m c, m.steady < deadline → P m.disk → c.fails = false →
      R (exec o c m).1 (exec o c m).2.disk)
    (hk : ∀ r, Achieves deadline (R r) (f r) Q) :
    Achieves deadline P ((RecordingStore.call o).bind f) Q := op R hstep hk

theorem throwIf {c : Prop} [Decidable c] {e : Exception} (h : ∀ d, P d → ¬c) :
    Achieves deadline P (RecordingStore.throwIf c e) fun _ => P := by
  intro m hm
  rw [RecordingStore.throwIf, if_neg (h m.disk hm.2)]
  exact pure (fun _ hd => hd) m hm

theorem require {o : FsOp} (h : o.Res = Bool) {e : Exception} {R : Disk → Prop}
    (hstep : ∀ m c, P m.disk → c.fails = false →
      cast h (exec o c m).1 = true ∧ R (exec o c m).2.disk) :
    Achieves deadline P (RecordingStore.require o h e) fun _ => R := by
  refine op (fun r d => cast h r = true ∧ R d) (fun m c _ hP hc => hstep m c hP hc) fun r => ?_
  refine assume fun hr => throwIf fun _ _ hfalse => ?_
  cases hr.symm.trans hfalse

/-- A question that is answered from the disk. -/
theorem observe {o : FsOp} {k : o.Res → StoreProg α} {f : Disk → α}
    (h : ∀ m c, c.fails = false → k (exec o c m).1 = .pure (f m.disk) ∧ (exec o c m).2 = m) :
    Achieves deadline P (.op o k) fun a d => a = f d ∧ P d := by
  rintro m ⟨hm, hP⟩ m' hr c hc
  obtain ⟨hk, hsame⟩ := h m' c hc
  rw [hk, hsame]
  have hsays : Achieves deadline (fun d => d = m'.disk ∧ P d) (.pure (f m'.disk))
      fun a d => a = f d ∧ P d := pure fun d hd => ⟨by rw [hd.1], hd.2⟩
  exact ⟨trivial, hsays m' ⟨hr.2 hm, rfl, hr.1.symm ▸ hP⟩⟩

theorem symlinkStatus (path : ManagedPath) : Achieves deadline P (RecordingStore.symlinkStatus path)
    fun status d => status = d.kind path ∧ P d :=
  observe fun m c hc => by simp [exec, Choice.answer, hc, orThrow]

theorem isDirectory (path : ManagedPath) : Achieves deadline P (RecordingStore.isDirectory path)
    fun directory d => directory = d.isDirectory path ∧ P d :=
  observe fun m c hc => by simp [exec, Choice.answer, hc, orThrow]

theorem pathExists (path : ManagedPath) : Achieves deadline P (RecordingStore.pathExists path)
    fun present d => present = d.pathExists path ∧ P d :=
  observe fun m c hc => by simp [exec, Choice.answer, hc, orThrow]

theorem rejectSymlink {path : ManagedPath} {e : Exception} (h : ∀ d, P d → d.kind path ≠ .symlink) :
    Achieves deadline P ((RecordingStore.symlinkStatus path).bind fun status =>
      RecordingStore.throwIf (status = .symlink) e) fun _ => P := by
  refine bind _ (symlinkStatus path) fun status => (throwIf ?_).post fun _ _ hd => hd.2
  rintro d ⟨rfl, hd⟩ hlink
  exact h d hd hlink

/-- A directory that is there is synchronized. -/
theorem syncDirectory {directory : ManagedPath} (h : ∀ d, P d → d directory = some .directory) :
    Achieves deadline P (RecordingStore.syncDirectory directory) fun _ => P := by
  refine bind (fun _ => P) (require rfl fun m c hP hc => ?_)
    fun _ => require rfl fun m c hP hc => ?_
  · simpa [exec, hc, Disk.isDirectory, h _ hP] using hP
  · simpa [exec, hc] using hP

end Achieves

section Closing
variable {deadline : ℕ} {recordingId contents : ByteString} {f : ArtifactFile} {P : Disk → Prop}

theorem digestChunks_succeeds (path : ManagedPath) (n : ℕ) :
    Achieves deadline P (digestChunks path (some deadline) n) fun _ => P := by
  induction n with
  | zero => exact .pure fun _ hd => hd
  | succ n ih =>
    refine .call (fun (now : ℕ) d => now < deadline ∧ P d) (fun m c hm hP _ => ⟨hm, hP⟩)
      fun (now : ℕ) => ?_
    refine .bind (fun _ => P) (.assume fun hahead => .throwIf ?_) fun _ => ?_
    · rintro d - ⟨limit, hlimit, hlate⟩
      cases hlimit
      omega
    · refine .call (fun (good : Bool) d => good = true ∧ P d)
        (fun m c _ hP hc => ⟨by simp [exec, hc], hP⟩) fun (good : Bool) => .assume fun hgood => ?_
      exact .bind _ (.throwIf fun _ _ hbad => by cases hgood.symm.trans hbad) fun _ => ih

/-- A file that is there has its digest. -/
theorem digest_succeeds {sha256 : ByteString → List UInt8}
    (h : ∀ d, P d → d (.entry .staging recordingId (.file f)) = some (.regular contents)) :
    Achieves deadline P (calculateRecordingArtifactDigest sha256
      (artifactPaths recordingId).stagingDirectory f (some deadline)) fun _ _ => True := by
  refine .bind _ (.symlinkStatus _) fun status => ?_
  refine .bind _ (.throwIf ?_) fun _ => ?_
  · rintro d ⟨rfl, hd⟩ hlink
    simp [artifactPaths, Disk.kind, h d hd] at hlink
  refine .call (fun (regular : Option Bool) d => regular = some true ∧ P d)
    (fun m c _ hm hc => ?_) fun (regular : Option Bool) => .assume fun hregular => ?_
  · simpa [exec, Choice.answer, hc, artifactPaths, Disk.isRegular, h _ hm.2] using hm.2
  subst hregular
  refine .bind (fun answer d => answer = true ∧ P d) (.pure fun d hd => ⟨rfl, hd⟩) fun answer => ?_
  refine .assume fun hanswer => .bind _ (.throwIf fun _ _ hbad => ?_) fun _ => ?_
  · cases hanswer.symm.trans hbad
  refine .call (fun (input : Option ByteString) d => input = some contents ∧ P d)
    (fun m c _ hm hc => ?_) fun (input : Option ByteString) => .assume fun hinput => ?_
  · simpa [exec, hc, artifactPaths, Disk.contents, h _ hm] using hm
  refine .call (fun (ready : Bool) d => ready = true ∧ P d) (fun m c _ hm hc => ?_)
    fun (ready : Bool) => .assume fun hready => ?_
  · exact ⟨by simp [exec, hc], hm⟩
  subst hinput
  refine .bind _ (.throwIf fun _ _ hbad => by cases hready.symm.trans hbad) fun _ => ?_
  refine .bind _ (digestChunks_succeeds _ _) fun _ => ?_
  refine .call (fun (size : Option ℕ) d => size = some contents.length ∧ P d)
    (fun m c _ hm hc => ?_) fun (size : Option ℕ) => .assume fun hsize => ?_
  · simpa [exec, hc, artifactPaths, Disk.contents, h _ hm] using hm
  subst hsize
  exact .bind (fun _ _ => True) (.pure fun _ _ => trivial) fun _ => .pure fun _ _ => trivial

/-- The staging directory is there, and the temporary file holds what has been written. -/
def InWriting (recordingId : ByteString) (f : ArtifactFile) (d : Disk) : Prop :=
  d (.artifact .staging recordingId) = some .directory ∧
    ∃ written, d (.entry .staging recordingId (.temporary f)) = some (.regular written)

theorem writeRemaining_succeeds (n : ℕ) (rest : ByteString) (hn : rest.length ≤ n) :
    Achieves deadline (InWriting recordingId f)
      (writeRemaining (.entry .staging recordingId (.temporary f)) n rest)
      fun _ => InWriting recordingId f := by
  induction n generalizing rest with
  | zero =>
    have hnil : rest = [] := List.length_eq_zero_iff.mp (by omega)
    subst hnil
    exact .pure fun _ hd => hd
  | succ n ih =>
    cases rest with
    | nil => exact .pure fun _ hd => hd
    | cons b rest =>
      refine .op (fun (answer : Option ℕ) d => (∃ k, answer = some k ∧ 0 < k) ∧
        InWriting recordingId f d) (fun m c _ hm hc => ?_) fun (answer : Option ℕ) => .assume ?_
      · obtain ⟨hstaging, written, hwritten⟩ := hm
        have hpos : 0 < c.transferred (b :: rest) := by
          unfold Choice.transferred
          split
          · exact (‹_ ∧ _›).1
          · exact Nat.succ_pos _
        simp only [exec, hc, Bool.false_eq_true, if_false, Machine.withDisk]
        refine ⟨⟨_, rfl, hpos⟩, ?_, written ++ (b :: rest).take (c.transferred (b :: rest)), ?_⟩
        · simpa [append, hwritten, Disk.set] using hstaging
        · simp [append, hwritten, Disk.set]
      · rintro ⟨k, rfl, hk⟩
        refine ih _ ?_
        simp only [List.length_drop, List.length_cons] at hn ⊢
        omega

/-- The artifact directory is there and the temporary name is free. -/
theorem writeAtomically_succeeds :
    Achieves deadline (fun d => d (.artifact .staging recordingId) = some .directory ∧
        d (.entry .staging recordingId (.temporary f)) = none)
      (writeAtomically (.artifact .staging recordingId) f contents) fun _ _ => True := by
  unfold writeAtomically
  simp only [ManagedPath.child_artifact]
  have hparent : ∀ d : Disk, d (.artifact .staging recordingId) = some .directory →
      ∀ n, d.parentPresent (.entry .staging recordingId n) = true := by
    intro d hd n
    simp [parentPresent, ManagedPath.parentPath, Disk.isDirectory, hd]
  refine .bind (fun _ => InWriting recordingId f) (.require rfl fun m c hm hc => ?_) fun _ => ?_
  · simp only [exec, hc, hm.2, hparent _ hm.1, Option.isSome_none, Bool.false_eq_true, or_self,
      if_false, Bool.true_eq_false, Machine.withDisk, cast_eq, true_and]
    exact ⟨(set_other _ _ (by simp)).trans hm.1, [], set_self _ _ _⟩
  refine .bind _ (writeRemaining_succeeds _ _ le_rfl) fun _ => ?_
  refine .call (fun (synced : Bool) d => synced = true ∧ InWriting recordingId f d)
    (fun m c _ hm hc => ⟨by simp [exec, hc], hm⟩) fun (synced : Bool) => .assume fun hsynced => ?_
  refine .call (fun (closed : Bool) d => closed = true ∧ InWriting recordingId f d)
    (fun m c _ hm hc => ⟨by simp [exec, hc], hm⟩) fun (closed : Bool) => .assume fun hclosed => ?_
  refine .bind (fun _ => InWriting recordingId f) (.throwIf fun _ _ hbad => ?_) fun _ => ?_
  · rcases hbad with hbad | hbad
    · cases hsynced.symm.trans hbad
    · cases hclosed.symm.trans hbad
  refine .bind (fun _ d => d (.artifact .staging recordingId) = some .directory)
    (.require rfl fun m c hm hc => ?_) fun _ => ?_
  · obtain ⟨hstaging, written, hwritten⟩ := hm
    simp only [exec, hc, Disk.rename, hwritten, hparent _ hstaging, Bool.false_eq_true, if_false,
      if_true, Machine.withDisk, cast_eq, true_and]
    exact ((set_other _ _ (by simp)).trans (set_other _ _ (by simp))).trans hstaging
  · exact (Achieves.syncDirectory fun _ hd => hd).post fun _ _ _ => trivial

/-- The manifest of an artifact that has none yet is written. -/
theorem writeFinalizedManifest_succeeds :
    Achieves deadline (fun d => d (.artifact .staging recordingId) = some .directory ∧
        d (.entry .staging recordingId (.temporary .manifest)) = none)
      (writeFinalizedManifest (artifactPaths recordingId) contents) fun _ _ => True := by
  refine .bind _ (.bind _ (.throwIf fun _ _ hne => hne rfl) fun _ => .rejectSymlink fun d hd => ?_)
    fun _ => writeAtomically_succeeds
  simp [artifactPaths, Disk.kind, hd.1]

/-- An artifact in staging is activated. -/
theorem activateFinalized_succeeds :
    Achieves deadline (fun d => d.WellFormed ∧
        d (.artifact .staging recordingId) = some .directory ∧
        d (.managed .finalized) = some .directory)
      (activateFinalized (artifactPaths recordingId)) fun _ _ => True := by
  have hfree : ∀ d : Disk, d.WellFormed → d (.artifact .staging recordingId) = some .directory →
      d (.artifact .finalized recordingId) = none := by
    intro d hw hd
    exact (hw.one_place recordingId).resolve_left (by simp [hd])
  refine .bind _ (.throwIf fun _ _ hne => ?_) fun _ => ?_
  · rcases hne with hne | hne <;> exact hne rfl
  refine .bind _ (.isDirectory _) fun directory => .bind _ (.throwIf ?_) fun _ => ?_
  · rintro d ⟨rfl, hd⟩ hbad
    simp [artifactPaths, Disk.isDirectory, hd.2.1] at hbad
  refine .bind _ (.pathExists _) fun present => .bind _ (.throwIf ?_) fun _ => ?_
  · rintro d ⟨rfl, -, hd⟩ hbad
    simp [artifactPaths, Disk.pathExists, hfree d hd.1 hd.2.1] at hbad
  refine .bind _ (.rejectSymlink fun d hd => ?_) fun _ => ?_
  · simp [artifactPaths, Disk.kind, hd.2.2.2.1]
  refine .bind (fun _ d => ∀ m, d (.managed m) = some .directory)
    (.require rfl fun m c hm hc => ?_) fun _ => ?_
  · obtain ⟨-, -, hw, hstaging, hmanaged⟩ := hm
    have hparent : m.disk.parentPresent (.artifact .finalized recordingId) = true := by
      simp [parentPresent, ManagedPath.parentPath, Disk.isDirectory, hmanaged]
    simp only [exec, hc, artifactPaths, Disk.rename, hstaging, hfree _ hw hstaging, hparent,
      and_self, Bool.false_eq_true, if_false, if_true, Machine.withDisk, cast_eq, true_and]
    intro k
    cases k with
    | staging => exact (hw.artifact_dir .staging recordingId (by simp [hstaging])).2
    | finalized => exact hmanaged
  · refine .bind _ (.syncDirectory fun _ hd => hd _) fun _ => ?_
    exact (Achieves.syncDirectory fun _ hd => hd _).post fun _ _ _ => trivial

end Closing

end NodusVision.Recording
