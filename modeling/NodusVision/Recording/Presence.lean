import NodusVision.Recording.Encoding
import NodusVision.Recording.Returns

/-! What the operations of the recorder leave in place: the directories of the store, and output
files that are there. -/
namespace NodusVision.Recording
open Text Storage Disk Program RecordingStore

section Operations
variable {d d' : Disk} {o : FsOp}

theorem append_cases (d : Disk) (p : ManagedPath) (bytes : ByteString) :
    d.append p bytes = d ∨ ∃ contents, d p = some (.regular contents) ∧
      d.append p bytes = d.set p (some (.regular (contents ++ bytes))) := by
  unfold Disk.append
  split
  · exact .inr ⟨_, ‹_›, rfl⟩
  · exact .inl rfl

/-- A rename concerns artifacts and their files. -/
theorem rename_managed {source target : ManagedPath} (h : d.rename source target = some d')
    (k : ManagedDirectory) : d' (.managed k) = d (.managed k) := by
  unfold Disk.rename at h
  split at h
  · split at h <;> cases h
    rfl
  · split at h
    · split at h <;> cases h
      refine (set_other _ _ fun he => ?_).trans (set_other _ _ fun he => ?_)
      · cases he
      · cases he
    · cases h
  · cases h

/-- The directories that the store prepares stay. -/
theorem exec_managed {k : ManagedDirectory} {m : Machine} (c : Choice)
    (h : m.disk (.managed k) = some .directory) :
    (exec o c m).2.disk (.managed k) = some .directory := by
  have hset : ∀ p n, m.disk p ≠ some .directory →
      m.disk.set p n (.managed k) = some .directory := by
    intro p n hp
    refine (set_other _ _ fun he => hp ?_).trans h
    rw [← he]
    exact h
  have happend : ∀ p b, m.disk.append p b (.managed k) = some .directory := by
    intro p b
    rcases append_cases m.disk p b with he | ⟨contents, hp, he⟩
    · rw [he]
      exact h
    · rw [he]
      exact hset _ _ (by simp [hp])
  cases o with
  | createDirectories p | createDirectory p =>
    simp only [exec]
    split
    · exact h
    · split
      · split
        · exact hset _ _ (by simp [‹m.disk p = none›])
        · exact h
      · exact h
  | openExclusive p =>
    simp only [exec]
    split
    · exact h
    · rename_i hfree
      refine hset _ _ fun hp => hfree (.inr (.inl ?_))
      rw [hp]
      rfl
  | truncate p =>
    simp only [exec]
    split
    · exact h
    · rename_i hfree
      refine hset _ _ fun hp => hfree (.inr (.inl ?_))
      simp [Disk.isDirectory, hp]
  | rename source target =>
    simp only [exec]
    split
    · exact h
    · split
      · exact h
      · rename_i d hd
        exact (rename_managed hd k).trans h
  | encode p => exact happend _ _
  | write | streamWrite | streamFlush =>
    simp only [exec]
    split
    all_goals first | exact h | exact happend _ _
  | _ => exact h

/-- An output file that is there stays there. -/
theorem writes_present {p q : ManagedPath} (ho : WritesTo p o) (c : Choice) (m : Machine)
    (h : m.disk q ≠ none) : (exec o c m).2.disk q ≠ none := by
  have hset : ∀ b : ByteString, (m.disk.set p (some (.regular b))) q ≠ none := by
    intro b
    by_cases hq : q = p
    · rw [hq, set_self]
      exact Option.some_ne_none _
    · rw [set_other _ _ hq]
      exact h
  have happend : ∀ b : ByteString, m.disk.append p b q ≠ none := by
    intro b
    rcases append_cases m.disk p b with he | ⟨contents, -, he⟩
    · rw [he]
      exact h
    · rw [he]
      exact hset _
  rcases ho with ho | rfl | rfl | ⟨b, rfl⟩ | ⟨b, rfl⟩
  · rw [ho c m]
    exact h
  · exact happend _
  · simp only [exec]
    split
    · exact h
    · exact hset _
  · simp only [exec]
    split
    · exact h
    · exact happend _
  · simp only [exec]
    split <;> exact happend _

end Operations

section Programs
variable {recordingId : ByteString}

/-- Once it is there, no program removes a directory of the store. -/
theorem managed_spec {α : Type} (p : StoreProg α) (k : ManagedDirectory) :
    Spec anyChoice ∅ (fun _ _ => True) (fun d => d (.managed k) = some .directory) p
      (fun _ d => d (.managed k) = some .directory) fun _ _ => True :=
  (Spec.of_uses (Prog.uses_any p) (stable_empty _) fun _ c _ _ hm =>
    ⟨trivial, exec_managed c hm⟩).post (fun _ _ h => h.2) fun _ _ _ => trivial

/-- The store is prepared with its directories. -/
theorem initializeStore_managed (k : ManagedDirectory) :
    Spec anyChoice ∅ (fun _ _ => True) (fun _ => True) initializeStore
      (fun _ d => d (.managed k) = some .directory) fun _ _ => True := by
  have hreturns : Returns [] (fun _ => True) initializeStore fun _ d => True ∧ Ready d :=
    initializeStore_returns (kept_const True)
  intro m hm
  refine ((hreturns m hm).weaken ?_ fun _ _ _ => trivial).mono (fun _ _ h => h.2.managed k)
    fun _ _ _ => trivial
  intro m m' hd
  show Untouched [] m.disk m'.disk
  rw [touches_empty hd.2]
  exact .refl _

namespace ColorVideoWriter

/-- A new video writer leaves its file. -/
theorem construct_present {config : ColorVideoWriterConfig}
    (hp : config.outputPath = videoPath recordingId) :
    Spec anyChoice ∅ (Changes {videoPath recordingId}) (fun _ => True) (construct config)
      (fun _ d => d (videoPath recordingId) ≠ none) fun _ _ => True := by
  have hst : ∀ P : Disk → Prop, Stable ∅ P := stable_empty
  have hchange : ∀ {o : FsOp} (c : Choice) (m : Machine), WritesTo (videoPath recordingId) o →
      Changes {videoPath recordingId} m.disk (exec o c m).2.disk :=
    fun c m ho => output_changes (.inl rfl) ho c m
  have hkeeps : ∀ {prog : StoreProg Unit},
      prog.Uses (WritesTo (videoPath recordingId)) (fun _ => True) (fun _ => True) →
      Spec anyChoice ∅ (Changes {videoPath recordingId}) (fun d => d (videoPath recordingId) ≠ none)
        prog (fun _ d => d (videoPath recordingId) ≠ none) fun _ _ => True := by
    intro prog hu
    refine (Spec.of_uses hu (hst _) fun o c m ho hm => ⟨hchange c m ho, ?_⟩).post (fun _ _ h => h.2)
      fun _ _ _ => trivial
    exact writes_present ho c m hm
  unfold construct
  rw [hp]
  refine Spec.bind _ (check_spec (hst _) fun _ _ _ => trivial) fun _ => ?_
  refine Spec.bind (fun _ _ => True) ((writesTo_spec (libraryCalls_uses _ _) (.inl rfl)
    (stable_const _ True) fun _ _ h => h).post (fun _ _ _ => trivial) fun _ _ _ => trivial)
    fun _ => ?_
  refine Spec.bind (fun _ d => d (videoPath recordingId) ≠ none) (require_spec rfl (hst _) (hst _)
    (hst _) fun m c _ _ => ⟨hchange c m (.inr (.inr (.inl rfl))), ?_⟩) fun _ => ?_
  · simp only [exec]
    split
    · simp
    · simp [Machine.withDisk, set_self]
  refine Spec.bind _ (hkeeps (require_uses rfl (.inr (.inl rfl)) trivial)) fun _ => ?_
  refine Spec.bind _ (hkeeps (libraryCalls_uses _ _)) fun _ => ?_
  exact Spec.pure (hst _) fun _ hd => hd

end ColorVideoWriter

end Programs

end NodusVision.Recording
