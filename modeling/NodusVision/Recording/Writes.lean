import NodusVision.Recording.Lookup

/-! What the writing operations of the store leave behind: request files, staging directories
and activation. -/
namespace NodusVision.Recording.RecordingStore
open Text Storage Disk Program

/-- The names that `writeAtomically` uses for one file of a staging artifact. -/
def writtenPaths (recordingId : ByteString) (f : ArtifactFile) : Set ManagedPath :=
  {.entry .staging recordingId (.temporary f), .entry .staging recordingId (.file f)}

theorem temporary_mem (recordingId : ByteString) (f : ArtifactFile) :
    ManagedPath.entry .staging recordingId (.temporary f) ∈ writtenPaths recordingId f :=
  .inl rfl

theorem file_mem (recordingId : ByteString) (f : ArtifactFile) :
    ManagedPath.entry .staging recordingId (.file f) ∈ writtenPaths recordingId f :=
  .inr rfl

variable {admits : Choice → Prop} {others : Set ManagedPath} {does : Disk → Disk → Prop}
  {P : Disk → Prop} {E : Exception → Disk → Prop}

/-- A call whose failure is an exception. -/
theorem require_spec {o : FsOp} (h : o.Res = Bool) {e : Exception} {Q : Disk → Prop}
    (hP : Stable others P) (hQ : Stable others Q) (hE : Stable others (E e))
    (hstep : ∀ m c, P m.disk → admits c → does m.disk (exec o c m).2.disk ∧
      if cast h (exec o c m).1 = true then Q (exec o c m).2.disk else E e (exec o c m).2.disk) :
    Spec admits others does P (require o h e) (fun _ => Q) E := by
  refine Spec.op hP (fun r d => if cast h r = true then Q d else E e d) hstep fun r => ?_
  cases hr : cast h r with
  | true =>
    simp only [if_true]
    exact Spec.ite (fun hf => by cases hf) fun _ => Spec.pure hQ fun _ hd => hd
  | false =>
    simp only [Bool.false_eq_true, if_false]
    exact Spec.ite (fun _ => Spec.throw hE fun _ hd => hd) fun hf => absurd trivial hf

theorem require_uses {ops : FsOp → Prop} {throws : Exception → Prop} {o : FsOp} (h : o.Res = Bool)
    {e : Exception} (ho : ops o) (he : throws e) :
    (require o h e).Uses ops (fun _ => True) throws :=
  ⟨ho, fun _ => (throwIf_uses he).mono (fun _ h => h) (fun _ _ => trivial) fun _ h => h⟩

theorem syncDirectory_uses (directory : ManagedPath) :
    (syncDirectory directory).Uses Reads (fun _ => True) fun _ => True :=
  (require_uses rfl (fun _ _ => rfl) trivial).bind _ fun _ _ =>
    require_uses rfl (fun _ _ => rfl) trivial

theorem syncDirectory_spec {directory : ManagedPath} (hP : Stable others P)
    (hdoes : ∀ d, does d d) (hE : ∀ e d, P d → E e d) :
    Spec admits others does P (syncDirectory directory) (fun _ => P) E :=
  (Spec.of_reads (syncDirectory_uses directory) hP hdoes).post (fun _ _ h => h.2)
    fun e d h => hE e d h.2

section WriteAtomically
variable {recordingId : ByteString} {f : ArtifactFile} {contents : ByteString} {R : Disk → Prop}

/-- The staging directory is there, the target is free if it is a request file, and the
temporary file holds what has been written. -/
structure Writing (recordingId : ByteString) (f : ArtifactFile) (R : Disk → Prop)
    (written : ByteString) (d : Disk) : Prop where
  frame : R d
  staging : d (.artifact .staging recordingId) = some .directory
  target : IsRequestFile f → d (.entry .staging recordingId (.file f)) = none
  temporary : d (.entry .staging recordingId (.temporary f)) = some (.regular written)

/-- The other threads do not touch the artifact or the file being written. -/
structure Separate (others : Set ManagedPath) (recordingId : ByteString) (f : ArtifactFile) :
    Prop where
  artifact : ManagedPath.artifact .staging recordingId ∉ others
  written : ∀ p ∈ writtenPaths recordingId f, p ∉ others

variable (hR : Stable (others ∪ writtenPaths recordingId f) R) (hw : ∀ d, R d → d.WellFormed)
  (hdoes : ∀ d d', Changes (writtenPaths recordingId f) d d' → does d d')
  (hsep : Separate others recordingId f)
include hR hsep

private theorem stable_writing (written : ByteString) :
    Stable others (Writing recordingId f R written) := by
  intro d d' hc h
  refine ⟨hR _ _ (hc.mono Set.subset_union_left) h.frame, ?_, fun hreq => ?_, ?_⟩
  · rw [hc.2 _ hsep.artifact, h.staging]
  · rw [hc.2 _ (hsep.written _ (file_mem _ _)), h.target hreq]
  · rw [hc.2 _ (hsep.written _ (temporary_mem _ _)), h.temporary]

include hdoes

private theorem writeRemaining_spec (n : ℕ) (written rest : ByteString)
    (hall : written ++ rest = contents) (hn : rest.length ≤ n) :
    Spec admits others does (Writing recordingId f R written)
      (writeRemaining (.entry .staging recordingId (.temporary f)) n rest)
      (fun _ => Writing recordingId f R contents) fun _ => R := by
  have hst := stable_writing hR hsep
  have hRo : Stable others R := hR.mono Set.subset_union_left
  induction n generalizing written rest with
  | zero =>
    have hnil : rest = [] := List.length_eq_zero_iff.mp (by omega)
    subst hnil
    rw [List.append_nil] at hall
    subst hall
    exact Spec.pure (hst _) fun _ hd => hd
  | succ n ih =>
    cases rest with
    | nil =>
      rw [List.append_nil] at hall
      subst hall
      exact Spec.pure (hst _) fun _ hd => hd
    | cons b rest =>
      refine Spec.op (hst _) (fun (answer : Option ℕ) d =>
        answer.elim (Writing recordingId f R written d) fun k =>
          0 < k ∧ Writing recordingId f R (written ++ (b :: rest).take k) d)
        (fun m c hm _ => ?_) fun answer => ?_
      · cases hf : c.fails with
        | true => simpa [exec, hf] using ⟨hdoes _ _ (.refl _ _), hm⟩
        | false =>
          have hpos : 0 < c.transferred (b :: rest) := by
            unfold Choice.transferred
            split
            · exact (‹_ ∧ _›).1
            · simp
          have hchange : Changes (writtenPaths recordingId f) m.disk
              (m.disk.append (.entry .staging recordingId (.temporary f))
                ((b :: rest).take (c.transferred (b :: rest)))) :=
            ⟨lawful_append _ (by simp), touches_append _ (temporary_mem _ _)⟩
          simp only [exec, hf, Bool.false_eq_true, if_false, Machine.withDisk]
          refine ⟨hdoes _ _ hchange, hpos,
            ⟨hR _ _ (hchange.mono Set.subset_union_right) hm.frame, ?_, fun hreq => ?_, ?_⟩⟩
          · simpa [append, hm.temporary, Disk.set] using hm.staging
          · simpa [append, hm.temporary, Disk.set] using hm.target hreq
          · simp [append, hm.temporary, Disk.set]
      · cases answer with
        | some k =>
          refine Spec.assume fun hk => ih _ _ ?_ ?_
          · rw [List.append_assoc, List.take_append_drop, hall]
          · simp only [List.length_drop, List.length_cons] at hn ⊢
            omega
        | none =>
          refine Spec.query (hst _) (fun _ => hdoes _ _ (.refl _ _)) (fun _ => R)
            (fun m c hm _ => ⟨rfl, hm.frame⟩) fun _ => ?_
          exact Spec.throw hRo fun _ hd => hd

include hw

/-- A file written atomically is complete under its name, or its name is as it was. -/
theorem writeAtomically_spec :
    Spec admits others does
      (fun d => R d ∧ (IsRequestFile f → d (.entry .staging recordingId (.file f)) = none))
      (writeAtomically (.artifact .staging recordingId) f contents)
      (fun _ d => R d ∧ d (.entry .staging recordingId (.file f)) = some (.regular contents))
      fun _ => R := by
  have hst := stable_writing hR hsep
  have hRo : Stable others R := hR.mono Set.subset_union_left
  have hfile := hsep.written _ (file_mem _ _)
  have hdone : Stable others fun d => R d ∧
      d (.entry .staging recordingId (.file f)) = some (.regular contents) :=
    hRo.and (stable_at hfile (· = some (.regular contents)))
  have hquiet : ∀ d, does d d := fun d => hdoes _ _ (.refl _ d)
  unfold writeAtomically
  simp only [ManagedPath.child_artifact]
  refine Spec.bind (fun _ => Writing recordingId f R []) (require_spec rfl
    (hRo.and (stable_at hfile fun n => IsRequestFile f → n = none)) (hst _) hRo
    fun m c hm _ => ?_) fun _ => ?_
  · by_cases hc : c.fails = true ∨
        (m.disk (.entry .staging recordingId (.temporary f))).isSome = true ∨
        m.disk.parentPresent (.entry .staging recordingId (.temporary f)) = false
    · simpa [exec, hc] using ⟨hquiet _, hm.1⟩
    · simp only [exec, if_neg hc]
      push Not at hc
      obtain ⟨-, -, hparent⟩ := hc
      have hstaging : m.disk (.artifact .staging recordingId) = some .directory := by
        have hne : m.disk (.artifact .staging recordingId) ≠ none := by
          intro hnone
          simp [parentPresent, Disk.isDirectory, ManagedPath.parentPath, hnone] at hparent
        exact ((hw _ hm.1).artifact_dir _ _ hne).1
      have hchange : Changes (writtenPaths recordingId f) m.disk
          (m.disk.set (.entry .staging recordingId (.temporary f)) (some (.regular []))) :=
        ⟨lawful_set_entry (c := some []) hstaging (by simp), touches_set _ (temporary_mem _ _)⟩
      refine ⟨hdoes _ _ hchange, ?_⟩
      simp only [cast_eq, if_true, Machine.withDisk]
      refine ⟨hR _ _ (hchange.mono Set.subset_union_right) hm.1, ?_, fun hreq => ?_, ?_⟩
      · simpa [Disk.set] using hstaging
      · simpa [Disk.set] using hm.2 hreq
      · simp [Disk.set]
  refine Spec.bind _ (writeRemaining_spec hR hdoes hsep _ [] contents rfl le_rfl) fun _ => ?_
  refine query_spec (hst _) hquiet (fun _ => Writing recordingId f R contents)
    (fun m c hm _ => ⟨rfl, hm⟩) fun (syncResult : Bool) => ?_
  refine query_spec (hst _) hquiet (fun _ => Writing recordingId f R contents)
    (fun m c hm _ => ⟨rfl, hm⟩) fun (closeResult : Bool) => ?_
  refine Spec.bind _ (check_spec (hst _) fun _ d hd => hd.frame) fun _ => ?_
  refine Spec.bind _ (require_spec rfl (hst _) hdone hRo fun m c hm _ => ?_) fun _ =>
    syncDirectory_spec hdone hquiet fun _ _ hd => hd.1
  cases hf : c.fails with
  | true => simpa [exec, hf] using ⟨hquiet _, hm.frame⟩
  | false =>
    have hchange : Changes (writtenPaths recordingId f) m.disk
        ((m.disk.set (.entry .staging recordingId (.temporary f)) none).set
          (.entry .staging recordingId (.file f)) (some (.regular contents))) :=
      ⟨lawful_activate_entry hm.staging hm.target,
        (touches_set _ (temporary_mem _ _)).trans (touches_set _ (file_mem _ _))⟩
    have hparent : m.disk.parentPresent (.entry .staging recordingId (.file f)) = true := by
      simp [parentPresent, Disk.isDirectory, ManagedPath.parentPath, hm.staging]
    simp only [exec, hf, Disk.rename, hm.temporary, hparent, Bool.false_eq_true, if_false,
      if_true, cast_eq, Machine.withDisk]
    exact ⟨hdoes _ _ hchange, hR _ _ (hchange.mono Set.subset_union_right) hm.frame,
      set_self _ _ _⟩

end WriteAtomically

section Initialize
variable {R : Disk → Prop}

def managedPaths : Set ManagedPath := {p | p = .root ∨ ∃ m, p = .managed m}

variable (hR : Stable (others ∪ managedPaths) R) (hw : ∀ d, R d → d.WellFormed)
  (hdoes : ∀ d d', Changes managedPaths d d' → does d d')
include hR hdoes

/-- The root or a managed directory is created when it is missing. -/
private theorem create_changes {d : Disk} {p : ManagedPath} (hp : p ∈ managedPaths) (hn : d p = none)
    (hpar : d.parentPresent p = true) (hd : R d) :
    does d (d.set p (some .directory)) ∧ R (d.set p (some .directory)) := by
  have hlaw : d.Lawful (d.set p (some .directory)) := by
    refine lawful_set_directory ?_ hn hpar
    rcases hp with rfl | ⟨m, rfl⟩
    · exact .inl rfl
    · exact .inr (.inl ⟨m, rfl⟩)
  have hchange : Changes managedPaths d (d.set p (some .directory)) := ⟨hlaw, touches_set _ hp⟩
  exact ⟨hdoes _ _ hchange, hR _ _ (hchange.mono Set.subset_union_right) hd⟩

include hw

private theorem checkDirectory_spec {p : ManagedPath} (hp : p ∈ managedPaths) (e : Exception) :
    Spec admits others does R
      ((isDirectory p).bind fun directory => (throwIf (directory = false) e).bind fun _ =>
        rejectSymlink p) (fun _ => R) fun _ => R := by
  have hRo : Stable others R := hR.mono Set.subset_union_left
  have hquiet : ∀ d, does d d := fun d => hdoes _ _ (.refl _ d)
  refine Spec.bind (fun _ => R) (isDirectory_spec hRo hquiet (fun _ _ hd => hd)
    (fun _ hd => hd) fun _ => hRo) fun directory => ?_
  refine Spec.bind _ (check_spec hRo fun _ _ hd => hd) fun _ => ?_
  refine rejectSymlink_spec hRo hquiet (fun _ _ hd => hd) fun d hd => ?_
  rcases hp with rfl | ⟨m, rfl⟩
  · exact (hw d hd).kind_root
  · exact (hw d hd).kind_managed m

private theorem initializeChild_spec (m : ManagedDirectory) :
    Spec admits others does R (initializeChild m) (fun _ => R) fun _ => R := by
  have hRo : Stable others R := hR.mono Set.subset_union_left
  have hp : ManagedPath.managed m ∈ managedPaths := .inr ⟨m, rfl⟩
  refine call_spec hRo (fun _ => R) (fun mach c hm _ => ?_) fun (creation : DirectoryCreation) =>
    Spec.bind _ (check_spec hRo fun _ _ hd => hd) fun _ => checkDirectory_spec hR hw hdoes hp _
  have hsame := And.intro (hdoes _ _ (.refl _ mach.disk)) hm
  simp only [exec]
  split
  · exact hsame
  · split
    · split
      · exact create_changes hR hdoes hp ‹_› ‹_› hm
      · exact hsame
    · exact hsame

theorem initializeStore_spec :
    Spec admits others does R initializeStore (fun _ => R) fun _ => R := by
  have hRo : Stable others R := hR.mono Set.subset_union_left
  have hp : ManagedPath.root ∈ managedPaths := .inl rfl
  refine Spec.bind _ (require_spec rfl hRo hRo hRo fun m c hm _ => ?_) fun _ => ?_
  · have hsame := And.intro (hdoes _ _ (.refl _ m.disk)) hm
    simp only [exec]
    split
    · simpa using hsame
    · split
      · split
        · simpa [Machine.withDisk] using create_changes hR hdoes hp ‹_› ‹_› hm
        · simpa using hsame
      · simpa using hsame
  · have hroot : Spec admits others does R _ (fun _ => R) fun _ => R :=
      checkDirectory_spec hR hw hdoes hp rootUnprepared
    have hchildren := Spec.bind _ hroot fun _ =>
      Spec.bind _ (initializeChild_spec hR hw hdoes .staging)
        fun _ => initializeChild_spec hR hw hdoes .finalized
    simpa only [Prog.bind_assoc, Prog.bind_eq] using hchildren

end Initialize

end NodusVision.Recording.RecordingStore
