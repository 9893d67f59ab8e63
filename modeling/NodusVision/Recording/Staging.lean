import NodusVision.Recording.Writes

/-! The staging artifact from its creation to its activation. -/
namespace NodusVision.Recording.RecordingStore
open Text Storage Disk Program

/-- An artifact directory with every name below it. -/
def artifactTree (m : ManagedDirectory) (recordingId : ByteString) : Set ManagedPath :=
  {p | p = .artifact m recordingId ∨ ∃ n, p = .entry m recordingId n}

/-- The identity is in neither place. -/
structure Absent (recordingId : ByteString) (d : Disk) : Prop where
  wellFormed : d.WellFormed
  absent : ∀ m, d (.artifact m recordingId) = none

/-- A staging artifact that holds its start request and no other file. -/
structure Prepared (recordingId canonical : ByteString) (d : Disk) : Prop where
  wellFormed : d.WellFormed
  staging : d (.artifact .staging recordingId) = some .directory
  start : d (.entry .staging recordingId (.file .startRequest)) = some (.regular canonical)
  fresh : ∀ f, f ≠ .startRequest → d (.entry .staging recordingId (.file f)) = none

/-- What a start may write. -/
def startPaths (recordingId : ByteString) : Set ManagedPath :=
  managedPaths ∪ artifactTree .staging recordingId

variable {admits : Choice → Prop} {others : Set ManagedPath} {does : Disk → Disk → Prop}

theorem stable_absent (recordingId : ByteString) :
    Stable (∅ ∪ managedPaths) (Absent recordingId) := by
  intro d d' hc h
  refine ⟨(hc.1 h.wellFormed).1, fun m => ?_⟩
  rw [hc.2 _ (by simp [managedPaths]), h.absent m]

private theorem changes_startPaths {recordingId : ByteString} {paths : Set ManagedPath} {d d' : Disk}
    (hsub : paths ⊆ startPaths recordingId) (hc : Changes paths d d') :
    Changes (startPaths recordingId) d d' := hc.mono hsub

private theorem written_subset (recordingId : ByteString) (f : ArtifactFile) :
    writtenPaths recordingId f ⊆ artifactTree .staging recordingId := by
  rintro p (rfl | rfl)
  · exact .inr ⟨_, rfl⟩
  · exact .inr ⟨_, rfl⟩

private theorem separate_empty (recordingId : ByteString) (f : ArtifactFile) :
    Separate ∅ recordingId f := ⟨by simp, by simp⟩

/-- The new staging directory before its start request. -/
private structure Created (recordingId : ByteString) (d : Disk) : Prop where
  wellFormed : d.WellFormed
  staging : d (.artifact .staging recordingId) = some .directory
  fresh : ∀ f, f ≠ .startRequest → d (.entry .staging recordingId (.file f)) = none
  free : ∀ f, f ≠ .startRequest → d (.entry .staging recordingId (.temporary f)) = none

private theorem stable_created (recordingId : ByteString) :
    Stable (∅ ∪ writtenPaths recordingId .startRequest) (Created recordingId) := by
  intro d d' hc h
  refine ⟨(hc.1 h.wellFormed).1, ?_, fun f hf => ?_, fun f hf => ?_⟩
  · rw [hc.2 _ (by simp [writtenPaths]), h.staging]
  · rw [hc.2 _ (by simp [writtenPaths, hf]), h.fresh f hf]
  · rw [hc.2 _ (by simp [writtenPaths, hf]), h.free f hf]

private theorem createDirectory_step {recordingId : ByteString} {m : Machine} {c : Choice}
    (hm : Absent recordingId m.disk) :
    Changes (startPaths recordingId) m.disk
        (exec (.createDirectory (.artifact .staging recordingId)) c m).2.disk ∧
      ((exec (.createDirectory (.artifact .staging recordingId)) c m).1 = .created →
        Created recordingId (exec (.createDirectory (.artifact .staging recordingId)) c m).2.disk ∧
          (exec (.createDirectory (.artifact .staging recordingId)) c m).2.disk
            (.entry .staging recordingId (.file .startRequest)) = none) := by
  have hartifact : m.disk (.artifact .staging recordingId) = none := hm.absent _
  have hentry : ∀ n, m.disk (.entry .staging recordingId n) = none := by
    intro n
    by_contra hne
    have hdir := (hm.wellFormed.entry_regular _ _ _ hne).2
    rw [hartifact] at hdir
    cases hdir
  have hquiet := Changes.refl (startPaths recordingId) m.disk
  simp only [exec, hartifact]
  split
  · exact ⟨hquiet, fun hc => by cases hc⟩
  · by_cases hparent : m.disk.parentPresent (.artifact .staging recordingId) = true
    · have hlaw := lawful_set_directory (.inr (.inr ⟨_, rfl, hm.absent _⟩)) hartifact hparent
      simp only [hparent, if_true, Machine.withDisk]
      refine ⟨⟨hlaw, touches_set _ (.inr (.inl rfl))⟩, fun _ => ⟨⟨(hlaw hm.wellFormed).1,
        set_self _ _ _, fun f _ => ?_, fun f _ => ?_⟩, ?_⟩⟩
      · rw [set_other _ _ (by simp), hentry]
      · rw [set_other _ _ (by simp), hentry]
      · rw [set_other _ _ (by simp), hentry]
    · rw [if_neg hparent]
      exact ⟨hquiet, fun hc => by cases hc⟩

/-- Creating a staging artifact that was absent leaves it with its start request, and the temporary
name of its manifest free. -/
theorem createStaging_spec (request : RecordingStartRequest) :
    Spec admits ∅ (Changes (startPaths request.recordingId)) (Absent request.recordingId)
      (createStaging request)
      (fun paths d => paths = artifactPaths request.recordingId ∧ (∃ canonical,
        serializeRecordingStartRequest request = .ok canonical ∧
        Prepared request.recordingId canonical d) ∧
        d (.entry .staging request.recordingId (.temporary .manifest)) = none)
      fun _ _ => True := by
  have hempty : ∀ P : Disk → Prop, Stable ∅ P := stable_empty
  have hquiet : ∀ d, Changes (startPaths request.recordingId) d d := fun d => .refl _ d
  unfold createStaging
  refine Spec.bind _ (check_spec (hempty _) fun _ _ _ => trivial) fun _ => ?_
  refine Spec.bind _ ((initializeStore_spec (stable_absent _) (fun _ h => h.wellFormed)
    fun _ _ hc => changes_startPaths Set.subset_union_left hc).post (fun _ _ h => h)
    fun _ _ _ => trivial) fun _ => ?_
  refine Spec.bind (fun _ => Absent request.recordingId) (pathExists_spec (hempty _) hquiet
    (fun _ _ _ => trivial) (fun _ h => h) fun _ => hempty _) fun finalizedExists => ?_
  refine Spec.bind _ (check_spec (hempty _) fun _ _ _ => trivial) fun _ => ?_
  refine call_spec (hempty _) (fun creation d => creation = DirectoryCreation.created →
      Created request.recordingId d ∧
        d (.entry .staging request.recordingId (.file .startRequest)) = none)
    (fun m c hm _ => ?_) fun (creation : DirectoryCreation) => ?_
  · exact createDirectory_step hm
  · refine Spec.bind (fun _ d => Created request.recordingId d ∧
      d (.entry .staging request.recordingId (.file .startRequest)) = none)
      ((throwIf_spec (hempty _) fun _ _ _ => trivial).post (fun _ d h => h.2 (not_not.mp h.1))
        fun _ _ h => h) fun _ => ?_
    cases hser : serializeRecordingStartRequest request with
    | error e => exact Spec.throw (hempty _) fun _ _ => trivial
    | ok canonical =>
      refine Spec.bind _ (((writeAtomically_spec (stable_created _) (fun _ h => h.wellFormed)
        (fun _ _ hc => changes_startPaths ((written_subset _ _).trans Set.subset_union_right) hc)
        (separate_empty _ _)).pre fun d hd => ⟨hd.1, fun _ => hd.2⟩).post (fun _ _ h => h)
        fun _ _ _ => trivial) fun _ => ?_
      refine Spec.pure (hempty _) fun d hd => ⟨rfl, ⟨canonical, rfl, ?_⟩, hd.1.free _ ?_⟩
      · exact ⟨hd.1.wellFormed, hd.1.staging, hd.2, hd.1.fresh⟩
      · exact fun he => by cases he

section Evidence
variable {recordingId contents : ByteString} {R : Disk → Prop}

theorem requireStagingPath_uses (paths : RecordingArtifactPaths) (what : String) :
    (requireStagingPath paths what).Uses Reads (fun _ => True) fun _ => True := by
  refine (throwIf_uses trivial).bind _ fun _ _ => ?_
  refine Prog.Uses.bind (fun _ => True) ⟨fun _ _ => rfl, fun _ => orThrow_uses trivial⟩
    fun status _ => ?_
  exact (throwIf_uses trivial).mono (fun _ h => h) (fun _ _ => trivial) fun _ h => h

theorem requireStagingPath_spec {paths : RecordingArtifactPaths} {what : String}
    (hR : Stable others R) (hdoes : ∀ d, does d d) :
    Spec admits others does R (requireStagingPath paths what) (fun _ => R) fun _ => R :=
  (Spec.of_reads (requireStagingPath_uses paths what) hR hdoes).post (fun _ _ h => h.2)
    fun _ _ h => h.2

/-- Stop evidence appears once, under a name that was free. -/
theorem writeStopRequest_spec (hR : Stable (others ∪ writtenPaths recordingId .stopRequest) R)
    (hw : ∀ d, R d → d.WellFormed)
    (hdoes : ∀ d d', Changes (writtenPaths recordingId .stopRequest) d d' → does d d')
    (hsep : Separate others recordingId .stopRequest) :
    Spec admits others does
      (fun d => R d ∧ d (.entry .staging recordingId (.file .stopRequest)) = none)
      (writeStopRequest (artifactPaths recordingId) contents)
      (fun _ d => R d ∧
        d (.entry .staging recordingId (.file .stopRequest)) = some (.regular contents))
      fun _ => R := by
  have hfile := hsep.written _ (file_mem _ _)
  refine Spec.bind _ ((requireStagingPath_spec ((hR.mono Set.subset_union_left).and
    (stable_at hfile (· = none))) fun d => hdoes _ _ (.refl _ d)).post (fun _ _ h => h)
      fun _ _ h => h.1) fun _ => ?_
  exact (writeAtomically_spec hR hw hdoes hsep).pre fun d hd => ⟨hd.1, fun _ => hd.2⟩

theorem writeFinalizedManifest_spec (hR : Stable (others ∪ writtenPaths recordingId .manifest) R)
    (hw : ∀ d, R d → d.WellFormed)
    (hdoes : ∀ d d', Changes (writtenPaths recordingId .manifest) d d' → does d d')
    (hsep : Separate others recordingId .manifest) :
    Spec admits others does R (writeFinalizedManifest (artifactPaths recordingId) contents)
      (fun _ d => R d ∧
        d (.entry .staging recordingId (.file .manifest)) = some (.regular contents))
      fun _ => R := by
  refine Spec.bind _ (requireStagingPath_spec (hR.mono Set.subset_union_left)
    fun d => hdoes _ _ (.refl _ d)) fun _ => ?_
  refine (writeAtomically_spec hR hw hdoes hsep).pre fun d hd => ⟨hd, fun hreq => ?_⟩
  rcases hreq with h | h <;> cases h

/-- The disk stays as it is. -/
def Unchanged (d d' : Disk) : Prop := d' = d

theorem Unchanged.refl (d : Disk) : Unchanged d d := rfl

/-- Without its staging directory a manifest cannot be written. -/
theorem writeFinalizedManifest_absent {E : Exception → Disk → Prop}
    (hE : ∀ e d, d (.artifact .staging recordingId) = none → E e d) :
    Spec admits ∅ Unchanged (fun d => d (.artifact .staging recordingId) = none)
      (writeFinalizedManifest (artifactPaths recordingId) contents) (fun _ _ => False) E := by
  refine Spec.bind _ ((requireStagingPath_spec (stable_empty _) Unchanged.refl).post
    (fun _ _ h => h) fun e d h => hE e d h) fun _ => ?_
  refine Spec.bind (fun _ _ => False) (require_spec rfl (stable_empty _) (stable_empty _)
    (stable_empty _) fun m c hm _ => ?_) fun _ => Spec.of_false fun _ h => h
  have hparent : m.disk.parentPresent (.entry .staging recordingId (.temporary .manifest)) =
      false := by
    simp [parentPresent, ManagedPath.parentPath, Disk.isDirectory, hm]
  have hfailed : exec (.openExclusive ((artifactPaths recordingId).stagingDirectory.child
      (.temporary .manifest))) c m = (false, m) := if_pos (.inr (.inr hparent))
  rw [hfailed]
  exact ⟨rfl, hE _ _ hm⟩

end Evidence

section Activation
variable {recordingId : ByteString}

/-- The artifact stays, or moves from staging to its free finalized name. -/
def Activates (recordingId : ByteString) (d d' : Disk) : Prop :=
  d' = d ∨ d (.artifact .staging recordingId) = some .directory ∧
    d (.artifact .finalized recordingId) = none ∧ d (.managed .finalized) = some .directory ∧
    d' = d.moveArtifact .staging recordingId .finalized recordingId

theorem Activates.changes {d d' : Disk} (h : Activates recordingId d d') :
    Changes (artifactTree .staging recordingId ∪ artifactTree .finalized recordingId) d d' := by
  rcases h with rfl | ⟨hs, hf, hm, rfl⟩
  · exact .refl _ _
  · refine ⟨lawful_moveArtifact hs hf hm, fun p hp => ?_⟩
    have hnot : ∀ m, p ∉ artifactTree m recordingId := by
      intro m hmem
      cases m with
      | staging => exact hp (.inl hmem)
      | finalized => exact hp (.inr hmem)
    cases p with
    | unset => rfl
    | root => rfl
    | managed m => rfl
    | artifact m id =>
      have hid : id ≠ recordingId := fun he => hnot m (.inl (he ▸ rfl))
      simp [moveArtifact, hid]
    | entry m id n =>
      have hid : id ≠ recordingId := fun he => hnot m (.inr ⟨n, he ▸ rfl⟩)
      simp [moveArtifact, hid]

/-- Activation that returns has put the artifact in finalized storage. -/
theorem activateFinalized_spec :
    Spec admits ∅ (Activates recordingId) WellFormed (activateFinalized (artifactPaths recordingId))
      (fun _ d => d (.artifact .finalized recordingId) = some .directory) fun _ _ => True := by
  have hst : ∀ P : Disk → Prop, Stable ∅ P := stable_empty
  have hquiet : ∀ d, Activates recordingId d d := fun _ => .inl rfl
  have hsync : ∀ m, Spec admits ∅ (Activates recordingId)
      (fun d => d (.artifact .finalized recordingId) = some .directory)
      (syncDirectory (.managed m))
      (fun _ d => d (.artifact .finalized recordingId) = some .directory) fun _ _ => True :=
    fun m => syncDirectory_spec (hst _) hquiet fun _ _ _ => trivial
  refine Spec.bind _ (check_spec (hst _) fun _ _ _ => trivial) fun _ => ?_
  refine Spec.bind (fun _ => WellFormed) (isDirectory_spec (hst _) hquiet
    (fun _ _ _ => trivial) (fun _ h => h) fun _ => hst _) fun directory => ?_
  refine Spec.bind _ (check_spec (hst _) fun _ _ _ => trivial) fun _ => ?_
  refine Spec.bind (fun _ => WellFormed) (pathExists_spec (hst _) hquiet
    (fun _ _ _ => trivial) (fun _ h => h) fun _ => hst _) fun finalizedExists => ?_
  refine Spec.bind _ (check_spec (hst _) fun _ _ _ => trivial) fun _ => ?_
  refine Spec.bind _ (rejectSymlink_spec (hst _) hquiet (fun _ _ _ => trivial)
    fun d hd => ?_) fun _ => ?_
  · intro hkind
    have hne : d (.artifact .staging recordingId) ≠ none := by
      intro hnone
      simp [artifactPaths, Disk.kind, hnone] at hkind
    simp [artifactPaths, Disk.kind, (hd.artifact_dir _ _ hne).1] at hkind
  refine Spec.bind (fun _ d => d (.artifact .finalized recordingId) = some .directory)
    (require_spec rfl (hst _) (hst _) (hst _) fun m c hm _ => ?_) fun _ =>
      Spec.bind _ (hsync .staging) fun _ => hsync .finalized
  simp only [artifactPaths, exec, Disk.rename]
  split
  · exact ⟨hquiet _, trivial⟩
  · by_cases hc : m.disk (.artifact .staging recordingId) = some .directory ∧
        m.disk (.artifact .finalized recordingId) = none ∧
        m.disk.parentPresent (.artifact .finalized recordingId) = true
    · have hmanaged : m.disk (.managed .finalized) = some .directory := by
        refine (hm.managed_dir _ fun hnone => ?_).1
        simp [parentPresent, ManagedPath.parentPath, Disk.isDirectory, hnone] at hc
      simp only [if_pos hc]
      refine ⟨.inr ⟨hc.1, hc.2.1, hmanaged, rfl⟩, ?_⟩
      simpa [Machine.withDisk, moveArtifact] using hc.1
    · simp only [if_neg hc]
      exact ⟨hquiet _, trivial⟩

/-- Without its staging directory nothing can be activated. -/
theorem activateFinalized_absent :
    Spec admits ∅ Unchanged (fun d => d (.artifact .staging recordingId) = none)
      (activateFinalized (artifactPaths recordingId)) (fun _ _ => False) fun _ _ => True := by
  have hst : ∀ P : Disk → Prop, Stable ∅ P := stable_empty
  refine Spec.bind _ (check_spec (hst _) fun _ _ _ => trivial) fun _ => ?_
  refine Spec.bind (fun directory _ => directory = false) (isDirectory_spec (hst _)
    Unchanged.refl (fun _ _ _ => trivial) (fun d hd => ?_) fun _ => hst _) fun directory => ?_
  · simp [artifactPaths, Disk.isDirectory, hd]
  refine Spec.bind (fun _ _ => False) ((throwIf_spec (hst _) fun _ _ _ => trivial).post
    (fun _ _ h => h.1 h.2) fun _ _ h => h) fun _ => Spec.of_false fun _ h => h

end Activation

end NodusVision.Recording.RecordingStore
