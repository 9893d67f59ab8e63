import NodusVision.Recording.Returns

/-! The request files of an id from their writing to their lookup. -/
namespace NodusVision.Recording
open Text Storage Disk Program RecordingStore

/-- Files are in directories. -/
def Nested (d : Disk) : Prop :=
  ∀ m id n, d (.entry m id n) ≠ none → d (.artifact m id) ≠ none

section Calls
variable {recordingId canonical contents : ByteString} {startRequest stopRequest : Option ByteString}
  {d : Disk}

/-- A staging directory that waits for one of its request files. -/
structure Awaiting (recordingId : ByteString) (f : ArtifactFile) (contents : Option ByteString)
    (d : Disk) : Prop where
  ready : Ready d
  staging : d (.artifact .staging recordingId) = some .directory
  elsewhere : d.pathExists (.artifact .finalized recordingId) = false
  other : d (.entry .staging recordingId (.file f)) = contents.map .regular

theorem kept_awaiting {f : ArtifactFile} {c : Option ByteString} (hf : IsRequestFile f) :
    Kept recordingId (Awaiting recordingId f c) := by
  intro d d' hu h
  have hstaging := hu.ledger _ (artifact_isLedgerPath .staging)
  have hother := hu.ledger _ (request_isLedgerPath .staging hf)
  exact ⟨kept_ready d d' hu h.ready, hstaging.trans h.staging, kept_pathExists d d' hu h.elsewhere,
    hother.trans h.other⟩

theorem Awaiting.set {f g : ArtifactFile} {c : Option ByteString} (hfg : f ≠ g) {p : ManagedPath}
    (n : Option Node) (hp : p ∈ writtenPaths recordingId g) (h : Awaiting recordingId f c d) :
    Awaiting recordingId f c (d.set p n) := by
  have hne : ∀ q, q = .root ∨ (∃ m, q = .managed m) ∨ (∃ m, q = .artifact m recordingId) ∨
      q = .entry .staging recordingId (.file f) → d.set p n q = d q := by
    rintro q hq
    refine d.set_other _ ?_
    rintro rfl
    rcases hp with rfl | rfl <;> simp [hfg.symm] at hq
  refine ⟨⟨?_, fun m => ?_⟩, ?_, ?_, ?_⟩
  · rw [hne _ (.inl rfl), h.ready.root]
  · rw [hne _ (.inr (.inl ⟨m, rfl⟩)), h.ready.managed]
  · rw [hne _ (.inr (.inr (.inl ⟨_, rfl⟩))), h.staging]
  · rw [pathExists_congr (hne _ (.inr (.inr (.inl ⟨_, rfl⟩)))), h.elsewhere]
  · rw [hne _ (.inr (.inr (.inr rfl))), h.other]

/-- The directory was missing and is there now. -/
theorem createDirectory_created {p : ManagedPath} {c : Choice} {m : Machine}
    (h : (exec (.createDirectory p) c m).1 = .created) :
    m.disk p = none ∧ (exec (.createDirectory p) c m).2.disk = m.disk.set p (some .directory) := by
  simp only [exec] at h ⊢
  split at h
  · cases h
  · rename_i hc
    rw [if_neg hc]
    cases hn : m.disk p with
    | none =>
      simp only [hn] at h ⊢
      split at h
      · rename_i hp
        rw [if_pos hp]
        exact ⟨trivial, rfl⟩
      · cases h
    | some n =>
      simp only [hn] at h
      split at h <;> cases h

/-- A returning `createStaging` has registered its start request. -/
theorem createStaging_returns {request : RecordingStartRequest}
    (hserialize : serializeRecordingStartRequest request = .ok canonical) :
    Returns request.recordingId Nested (createStaging request) fun paths d =>
      paths = artifactPaths request.recordingId ∧
        Registered request.recordingId false (some canonical) none d := by
  -- Before its directory is there, the artifact has no files.
  let free : Disk → Prop := fun d => d (.artifact .staging request.recordingId) = none →
    ∀ f, IsRequestFile f → d (.entry .staging request.recordingId (.file f)) = none
  have hfree : Kept request.recordingId free := by
    intro d d' hu h hn f hf
    rw [hu.ledger _ (request_isLedgerPath .staging hf)]
    rw [hu.ledger _ (artifact_isLedgerPath .staging)] at hn
    exact h hn f hf
  have hready : Kept request.recordingId fun d => free d ∧ Ready d := hfree.and kept_ready
  have hclear : Kept request.recordingId fun d =>
      d.pathExists (.artifact .finalized request.recordingId) = false ∧ free d ∧ Ready d :=
    kept_pathExists.and hready
  have hawaiting : Kept request.recordingId (Awaiting request.recordingId .stopRequest none) :=
    kept_awaiting (.inr rfl)
  refine Returns.pre (P := free) (fun d hd hn f _ => ?_) ?_
  · by_contra hne
    exact hd _ _ _ hne hn
  refine Returns.bind _ (Returns.throwIf hfree) fun _ => Returns.assume fun _ => ?_
  refine Returns.bind _ (initializeStore_returns hfree) fun _ => ?_
  refine Returns.bind (fun finalizedExists d => finalizedExists = false →
      d.pathExists (.artifact .finalized request.recordingId) = false ∧ free d ∧ Ready d)
    (Returns.pathExists hready (fun d hd he => ⟨he, hd⟩)
      fun b d d' hu h hb => hclear d d' hu (h hb)) fun finalizedExists => ?_
  refine Returns.bind _ ((Returns.throwIf
    fun d d' hu h hb => hclear d d' hu (h hb)).post fun _ d h => h.2 (by simpa using h.1))
    fun _ => ?_
  refine Returns.call hclear (fun creation d => creation = DirectoryCreation.created →
    Awaiting request.recordingId .stopRequest none d) (fun m c hm hcreated => ?_)
    fun (creation : DirectoryCreation) => ?_
  · obtain ⟨hn, hdisk⟩ := createDirectory_created
      (p := .artifact .staging request.recordingId) hcreated
    show Awaiting _ _ _ (exec (.createDirectory (.artifact .staging request.recordingId)) c m).2.disk
    rw [hdisk]
    obtain ⟨hclear, hfree, hroot, hmanaged⟩ := hm
    refine ⟨⟨?_, fun k => ?_⟩, set_self _ _ _, ?_, ?_⟩
    · rw [set_other _ _ (by simp), hroot]
    · rw [set_other _ _ (by simp), hmanaged]
    · rw [pathExists_congr (set_other _ _ (by simp)), hclear]
    · rw [set_other _ _ (by simp), hfree hn _ (.inr rfl)]
      rfl
  refine Returns.bind (fun _ => Awaiting request.recordingId .stopRequest none) ((Returns.throwIf
    fun d d' hu h hb => hawaiting d d' hu (h hb)).post fun _ d h => h.2 (not_not.mp h.1))
    fun _ => ?_
  rw [hserialize]
  refine Returns.bind _ (writeAtomically_returns (.inl rfl) hawaiting
    (fun d p n hp hd => hd.set (by simp) n hp) fun d hd => hd.staging) fun _ => ?_
  refine Returns.pure (hawaiting.and (kept_ledger (request_isLedgerPath .staging (.inl rfl))
    (· = some (.regular canonical)))) fun d hd => ?_
  exact ⟨rfl, hd.1.ready, ⟨hd.1.staging, hd.2, hd.1.other⟩, hd.1.elsewhere⟩

/-- A returning `writeStopRequest` has added the stop request. -/
theorem writeStopRequest_returns :
    Returns recordingId (Registered recordingId false startRequest none)
      (writeStopRequest (artifactPaths recordingId) contents)
      fun _ => Registered recordingId false startRequest (some contents) := by
  have hkept : Kept recordingId (Awaiting recordingId .startRequest startRequest) :=
    kept_awaiting (.inl rfl)
  refine Returns.pre (P := Awaiting recordingId .startRequest startRequest) (fun d hd => ?_) ?_
  · exact ⟨hd.ready, hd.holds.directory, hd.elsewhere, hd.holds.start⟩
  refine Returns.bind _ (Returns.reads ?_ hkept) fun _ => ?_
  · exact only_requireStagingPath fun _ => reads_of_question
  refine (writeAtomically_returns (.inr rfl) hkept (fun d p n hp hd => hd.set (by simp) n hp)
    fun d hd => hd.staging).post fun _ d hd => ?_
  exact ⟨hd.1.ready, ⟨hd.1.staging, hd.1.other, hd.2⟩, hd.1.elsewhere⟩

/-- Moving an artifact takes its requests along. -/
theorem Registered.move (h : Registered recordingId false startRequest stopRequest d) :
    Registered recordingId true startRequest stopRequest
      (d.moveArtifact .staging recordingId .finalized recordingId) := by
  obtain ⟨⟨hroot, hmanaged⟩, ⟨hdirectory, hstart, hstop⟩, -⟩ := h
  simp only [place, Bool.false_eq_true, if_false] at hdirectory hstart hstop
  refine ⟨⟨hroot, hmanaged⟩, ⟨?_, ?_, ?_⟩, ?_⟩
  · simpa [place, moveArtifact] using hdirectory
  · simpa [place, moveArtifact] using hstart
  · simpa [place, moveArtifact] using hstop
  · simp [place, Disk.pathExists, moveArtifact]

/-- A returning `activateFinalized` has moved the artifact with its requests. -/
theorem activateFinalized_returns :
    Returns recordingId (Registered recordingId false startRequest stopRequest)
      (activateFinalized (artifactPaths recordingId))
      fun _ => Registered recordingId true startRequest stopRequest := by
  have hstaged : Kept recordingId (Registered recordingId false startRequest stopRequest) :=
    kept_registered
  have hasked : ∀ (p : ManagedPath), Only Reads (pathExists p) ∧ Only Reads (isDirectory p) ∧
      Only Reads (rejectSymlink p) := by
    intro p
    have hreads : ∀ o ∈ questions p, Reads o := fun _ => reads_of_question
    exact ⟨only_pathExists hreads, only_isDirectory hreads, only_rejectSymlink hreads⟩
  have hguard : ∀ {c : Prop} [Decidable c] (e : Exception), Returns recordingId
      (Registered recordingId false startRequest stopRequest) (throwIf c e)
      fun _ => Registered recordingId false startRequest stopRequest :=
    fun e => (Returns.throwIf hstaged).post fun _ d h => h.2
  refine Returns.bind _ (hguard _) fun _ => ?_
  refine Returns.bind _ (Returns.reads (hasked _).2.1 hstaged) fun _ => ?_
  refine Returns.bind _ (hguard _) fun _ => ?_
  refine Returns.bind _ (Returns.reads (hasked _).1 hstaged) fun _ => ?_
  refine Returns.bind _ (hguard _) fun _ => ?_
  refine Returns.bind _ (Returns.reads (hasked _).2.2 hstaged) fun _ => ?_
  refine Returns.bind _ (Returns.require rfl hstaged kept_registered fun m c hm hrenamed => ?_)
    fun _ => Returns.bind _ (Returns.reads (syncDirectory_uses _) kept_registered)
      fun _ => Returns.reads (syncDirectory_uses _) kept_registered
  have hmove := hm.move
  simp only [exec, artifactPaths, Disk.rename] at hrenamed ⊢
  split at hrenamed
  · cases hrenamed
  · rename_i hc
    rw [if_neg hc]
    split at hrenamed
    · cases hrenamed
    · rename_i e he
      split at he
      · cases he
        rename_i hcond
        simp only
        exact hmove
      · cases he

end Calls

end NodusVision.Recording
