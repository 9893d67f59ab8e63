import NodusVision.Storage.Disk
import Mathlib.Data.Set.Insert

/-! The shape that the recorder keeps its root in, and what may happen to stored requests. -/
namespace NodusVision.Storage
open Text Program

namespace Disk

@[simp] theorem set_self (d : Disk) (p : ManagedPath) (n : Option Node) : d.set p n p = n := by
  simp [Disk.set]

theorem set_other (d : Disk) {p q : ManagedPath} (n : Option Node) (h : q ≠ p) :
    d.set p n q = d q := by
  simp [Disk.set, h]

/-- Directories where directories belong, regular files inside artifacts only, and every
artifact in one place. -/
structure WellFormed (d : Disk) : Prop where
  root_dir : d .root ≠ none → d .root = some .directory
  managed_dir : ∀ m, d (.managed m) ≠ none →
    d (.managed m) = some .directory ∧ d .root = some .directory
  artifact_dir : ∀ m id, d (.artifact m id) ≠ none →
    d (.artifact m id) = some .directory ∧ d (.managed m) = some .directory
  entry_regular : ∀ m id n, d (.entry m id n) ≠ none →
    (∃ c, d (.entry m id n) = some (.regular c)) ∧ d (.artifact m id) = some .directory
  one_place : ∀ id, d (.artifact .staging id) = none ∨ d (.artifact .finalized id) = none

theorem WellFormed.kind_root {d : Disk} (h : d.WellFormed) : d.kind .root ≠ .symlink := by
  cases hn : d .root with
  | none => simp [kind, hn]
  | some n =>
    have hd := h.root_dir (by simp [hn])
    simp [kind, hd]

theorem WellFormed.kind_managed {d : Disk} (h : d.WellFormed) (m : ManagedDirectory) :
    d.kind (.managed m) ≠ .symlink := by
  cases hn : d (.managed m) with
  | none => simp [kind, hn]
  | some n =>
    have hd := (h.managed_dir m (by simp [hn])).1
    simp [kind, hd]

/-- A request file that is not there, or its contents. -/
theorem WellFormed.entry {d : Disk} (h : d.WellFormed) (m : ManagedDirectory) (id : ByteString)
    (n : EntryName) : ∃ c : Option ByteString, d (.entry m id n) = c.map .regular := by
  cases hn : d (.entry m id n) with
  | none => exact ⟨none, rfl⟩
  | some k =>
    obtain ⟨⟨c, hc⟩, -⟩ := h.entry_regular m id n (by simp [hn])
    exact ⟨some c, hn.symm.trans hc⟩

/-- An artifact name is taken exactly when a directory stands there. -/
theorem WellFormed.pathExists_artifact {d : Disk} (h : d.WellFormed) (m : ManagedDirectory)
    (id : ByteString) : d.pathExists (.artifact m id) = true ↔ d (.artifact m id) ≠ none := by
  cases hn : d (.artifact m id) with
  | none => simp [pathExists, hn]
  | some n =>
    have hd := (h.artifact_dir m id (by simp [hn])).1
    simp [pathExists, hd]

/-- The request files, which are written once. -/
def IsRequestFile (f : ArtifactFile) : Prop := f = .startRequest ∨ f = .stopRequest

/-- Finalized artifacts stay as they are; a staging artifact stays with its request files or
is finalized with them. -/
structure Persists (d d' : Disk) : Prop where
  finalized : ∀ id, d (.artifact .finalized id) ≠ none →
    d' (.artifact .finalized id) = d (.artifact .finalized id) ∧
      ∀ n, d' (.entry .finalized id n) = d (.entry .finalized id n)
  staging : ∀ id, d (.artifact .staging id) ≠ none →
    ∃ m, d' (.artifact m id) ≠ none ∧ ∀ f, IsRequestFile f →
      d (.entry .staging id (.file f)) ≠ none →
        d' (.entry m id (.file f)) = d (.entry .staging id (.file f))

/-- What every call of the recorder does to a well-formed disk. -/
def Lawful (d d' : Disk) : Prop := d.WellFormed → d'.WellFormed ∧ d.Persists d'

theorem Persists.refl (d : Disk) : d.Persists d where
  finalized _ _ := ⟨rfl, fun _ => rfl⟩
  staging _ h := ⟨.staging, h, fun _ _ _ => rfl⟩

theorem Persists.trans {d e f : Disk} (h : d.Persists e) (k : e.Persists f) : d.Persists f where
  finalized id hid := by
    obtain ⟨ha, hn⟩ := h.finalized id hid
    obtain ⟨ka, kn⟩ := k.finalized id (ha ▸ hid)
    exact ⟨ka.trans ha, fun n => (kn n).trans (hn n)⟩
  staging id hid := by
    obtain ⟨m, ha, hf⟩ := h.staging id hid
    cases m with
    | finalized =>
      obtain ⟨ka, kn⟩ := k.finalized id ha
      exact ⟨.finalized, ka ▸ ha, fun g hg hd => (kn _).trans (hf g hg hd)⟩
    | staging =>
      obtain ⟨m', ka, kf⟩ := k.staging id ha
      refine ⟨m', ka, fun g hg hd => ?_⟩
      have he := hf g hg hd
      exact (kf g hg (he ▸ hd)).trans he

theorem Lawful.refl (d : Disk) : d.Lawful d := fun h => ⟨h, .refl d⟩

theorem Lawful.trans {d e f : Disk} (h : d.Lawful e) (k : e.Lawful f) : d.Lawful f := fun hd =>
  let ⟨he, hp⟩ := h hd
  let ⟨hf, kp⟩ := k he
  ⟨hf, hp.trans kp⟩

/-- A directory of the layout appears once its parent is there. -/
theorem lawful_set_directory {d : Disk} {p : ManagedPath}
    (hp : p = .root ∨ (∃ m, p = .managed m) ∨
      ∃ id, p = .artifact .staging id ∧ d (.artifact .finalized id) = none)
    (hn : d p = none) (hpar : d.parentPresent p = true) :
    d.Lawful (d.set p (some .directory)) := by
  intro hd
  have hother : ∀ q, d q ≠ none → d.set p (some .directory) q = d q := fun q hq =>
    d.set_other _ fun he => hq (he ▸ hn)
  have hentry : ∀ m id n, d.set p (some .directory) (.entry m id n) = d (.entry m id n) := by
    intro m id n
    refine d.set_other _ ?_
    rcases hp with rfl | ⟨m, rfl⟩ | ⟨id, rfl, -⟩ <;> simp
  have hfin : ∀ id, d.set p (some .directory) (.artifact .finalized id) =
      d (.artifact .finalized id) := by
    intro id
    refine d.set_other _ ?_
    rcases hp with rfl | ⟨m, rfl⟩ | ⟨id, rfl, -⟩ <;> simp
  have hkeep : ∀ q, d q = some .directory → d.set p (some .directory) q = some .directory :=
    fun q hq => (hother q (by simp [hq])).trans hq
  have hdir : ∀ q, d.isDirectory q = true → d q ≠ none := by
    intro q hq hnone
    simp [isDirectory, hnone] at hq
  refine ⟨⟨?_, ?_, ?_, ?_, ?_⟩, ⟨?_, ?_⟩⟩
  · intro h
    by_cases he : ManagedPath.root = p
    · exact he ▸ set_self d p _
    · rw [d.set_other _ he] at h ⊢
      exact hd.root_dir h
  · intro m h
    by_cases he : ManagedPath.managed m = p
    · subst he
      exact ⟨set_self d _ _, hkeep _ (hd.root_dir (hdir _ hpar))⟩
    · rw [d.set_other _ he] at h ⊢
      exact ⟨(hd.managed_dir m h).1, hkeep _ (hd.managed_dir m h).2⟩
  · intro m id h
    by_cases he : ManagedPath.artifact m id = p
    · subst he
      exact ⟨set_self d _ _, hkeep _ (hd.managed_dir m (hdir _ hpar)).1⟩
    · rw [d.set_other _ he] at h ⊢
      exact ⟨(hd.artifact_dir m id h).1, hkeep _ (hd.artifact_dir m id h).2⟩
  · intro m id n h
    rw [hentry] at h ⊢
    exact ⟨(hd.entry_regular m id n h).1, hkeep _ (hd.entry_regular m id n h).2⟩
  · intro id
    rw [hfin]
    by_cases he : ManagedPath.artifact .staging id = p
    · rcases hp with rfl | ⟨m, rfl⟩ | ⟨id', rfl, hid⟩
      · cases he
      · cases he
      · cases he
        exact .inr hid
    · rw [d.set_other _ he]
      exact hd.one_place id
  · exact fun id _ => ⟨hfin id, fun n => hentry _ _ n⟩
  · exact fun id h => ⟨.staging, hother _ h ▸ h, fun f _ _ => hentry _ _ _⟩

/-- A file of a staging artifact is created or changed; a request file only appears. -/
theorem lawful_set_entry {d : Disk} {id : ByteString} {n : EntryName} {c : Option ByteString}
    (hs : d (.artifact .staging id) = some .directory)
    (hreq : ∀ f, IsRequestFile f → n = .file f → d (.entry .staging id n) = none) :
    d.Lawful (d.set (.entry .staging id n) (c.map .regular)) := by
  intro hd
  have hother : ∀ q, q ≠ .entry .staging id n →
      d.set (.entry .staging id n) (c.map .regular) q = d q := fun q h => d.set_other _ h
  have hart : ∀ m i, d.set (.entry .staging id n) (c.map .regular) (.artifact m i) =
      d (.artifact m i) := fun m i => hother _ (by simp)
  have hman : ∀ m, d.set (.entry .staging id n) (c.map .regular) (.managed m) =
      d (.managed m) := fun m => hother _ (by simp)
  have hroot : d.set (.entry .staging id n) (c.map .regular) .root = d .root := hother _ (by simp)
  refine ⟨⟨?_, ?_, ?_, ?_, ?_⟩, ⟨?_, ?_⟩⟩
  · rw [hroot]
    exact hd.root_dir
  · intro m
    rw [hroot, hman]
    exact hd.managed_dir m
  · intro m i
    rw [hart, hman]
    exact hd.artifact_dir m i
  · intro m i k h
    rw [hart]
    by_cases he : ManagedPath.entry m i k = .entry .staging id n
    · cases he
      rw [set_self] at h ⊢
      cases c with
      | none => exact absurd rfl h
      | some c => exact ⟨⟨c, rfl⟩, hs⟩
    · rw [hother _ he] at h ⊢
      exact hd.entry_regular m i k h
  · intro i
    rw [hart, hart]
    exact hd.one_place i
  · exact fun i _ => ⟨hart _ i, fun k => hother _ (by simp)⟩
  · intro i h
    refine ⟨.staging, hart _ i ▸ h, fun f hf hd' => hother _ ?_⟩
    intro he
    cases he
    exact hd' (hreq f hf rfl)

theorem lawful_append {d : Disk} {id : ByteString} {n : EntryName} (bytes : ByteString)
    (hreq : ∀ f, IsRequestFile f → n ≠ .file f) :
    d.Lawful (d.append (.entry .staging id n) bytes) := by
  unfold append
  split
  · rename_i c hc
    intro hd
    have hs := (hd.entry_regular .staging id n (by simp [hc])).2
    exact lawful_set_entry (c := some (c ++ bytes)) hs (fun f hf he => absurd he (hreq f hf)) hd
  · exact .refl d

/-- `writeAtomically` moves its temporary file to a name; a request file must be new. -/
theorem lawful_activate_entry {d : Disk} {id : ByteString} {f : ArtifactFile} {c : ByteString}
    (hs : d (.artifact .staging id) = some .directory)
    (hreq : IsRequestFile f → d (.entry .staging id (.file f)) = none) :
    d.Lawful ((d.set (.entry .staging id (.temporary f)) none).set
      (.entry .staging id (.file f)) (some (.regular c))) := by
  have hfree : ∀ g, IsRequestFile g → EntryName.temporary f = .file g →
      d (.entry .staging id (.temporary f)) = none := fun g _ he => by cases he
  have hremove := lawful_set_entry (c := none) hs hfree
  refine hremove.trans (lawful_set_entry (c := some c) ?_ ?_)
  · rw [Option.map_none, d.set_other _ (by simp)]
    exact hs
  · intro g hg he
    cases he
    rw [Option.map_none, d.set_other _ (by simp)]
    exact hreq hg

/-- Activation renames a staging artifact to its free finalized name. -/
theorem lawful_moveArtifact {d : Disk} {id : ByteString}
    (hs : d (.artifact .staging id) = some .directory)
    (hf : d (.artifact .finalized id) = none) (hm : d (.managed .finalized) = some .directory) :
    d.Lawful (d.moveArtifact .staging id .finalized id) := by
  intro hd
  refine ⟨⟨hd.root_dir, hd.managed_dir, ?_, ?_, ?_⟩, ⟨?_, ?_⟩⟩
  · intro m i h
    simp only [moveArtifact] at h ⊢
    split at h
    · rename_i he
      obtain ⟨rfl, rfl⟩ := he
      simpa using ⟨hs, hm⟩
    · rename_i hne
      rw [if_neg hne]
      split at h
      · exact absurd rfl h
      · rename_i hne'
        rw [if_neg hne']
        exact hd.artifact_dir m i h
  · intro m i n h
    simp only [moveArtifact] at h ⊢
    split at h
    · rename_i he
      obtain ⟨rfl, rfl⟩ := he
      simpa [hs] using (hd.entry_regular .staging _ n h).1
    · rename_i hne
      rw [if_neg hne, if_neg hne]
      split at h
      · exact absurd rfl h
      · rename_i hne'
        rw [if_neg hne', if_neg hne']
        exact hd.entry_regular m i n h
  · intro i
    by_cases hi : i = id
    · subst hi
      simp [moveArtifact]
    · simpa [moveArtifact, hi] using hd.one_place i
  · intro i h
    have hi : i ≠ id := fun he => h (he ▸ hf)
    simp [moveArtifact, hi]
  · intro i h
    by_cases hi : i = id
    · subst hi
      exact ⟨.finalized, by simpa [moveArtifact] using h, fun f _ _ => by simp [moveArtifact]⟩
    · exact ⟨.staging, by simpa [moveArtifact, hi] using h,
        fun f _ _ => by simp [moveArtifact, hi]⟩

/-- Only the paths of a set change. -/
def Touches (paths : Set ManagedPath) (d d' : Disk) : Prop := ∀ p, p ∉ paths → d' p = d p

variable {paths : Set ManagedPath} {d e f : Disk}

theorem Touches.refl (paths : Set ManagedPath) (d : Disk) : Touches paths d d := fun _ _ => rfl

theorem Touches.trans (h : Touches paths d e) (k : Touches paths e f) : Touches paths d f :=
  fun p hp => (k p hp).trans (h p hp)

theorem touches_empty (h : Touches ∅ d e) : e = d := funext fun p => h p (by simp)

theorem touches_set {p : ManagedPath} (n : Option Node) (hp : p ∈ paths) :
    Touches paths d (d.set p n) := fun _ hq => d.set_other n fun he => hq (he ▸ hp)

theorem touches_append {p : ManagedPath} (bytes : ByteString) (hp : p ∈ paths) :
    Touches paths d (d.append p bytes) := by
  unfold append
  split
  · exact touches_set _ hp
  · exact .refl _ _

end Disk

end NodusVision.Storage
