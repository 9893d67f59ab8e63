import NodusVision.Program.Runs
import NodusVision.Recording.Confinement

/-! The stored requests of one id, while the recorder works on other ids and restarts. -/
namespace NodusVision.Recording
open Text Storage Disk Program RecordingStore

/-- A call on the store whose result is not looked at; a restart prepares the root. -/
inductive StoreCall where
  | restart
  | createStaging (request : RecordingStartRequest)
  | writeStopRequest (recordingId contents : ByteString)
  | writeFinalizedManifest (recordingId contents : ByteString)
  | activateFinalized (recordingId : ByteString)
  | findPersistedArtifact (recordingId : ByteString)

namespace StoreCall

def recordingId : StoreCall → Option ByteString
  | .restart => none
  | .createStaging request => some request.recordingId
  | .writeStopRequest recordingId _ | .writeFinalizedManifest recordingId _
  | .activateFinalized recordingId | .findPersistedArtifact recordingId => some recordingId

def prog : StoreCall → StoreProg Unit
  | .restart => initializeStore
  | .createStaging request => (RecordingStore.createStaging request).bind fun _ => .pure ()
  | .writeStopRequest recordingId contents =>
    RecordingStore.writeStopRequest (artifactPaths recordingId) contents
  | .writeFinalizedManifest recordingId contents =>
    RecordingStore.writeFinalizedManifest (artifactPaths recordingId) contents
  | .activateFinalized recordingId =>
    RecordingStore.activateFinalized (artifactPaths recordingId)
  | .findPersistedArtifact recordingId =>
    (RecordingStore.findPersistedArtifact recordingId).bind fun _ => .pure ()

/-- A call on another id, a restart, or a call on this id that leaves its requests alone. -/
def Spares (recordingId : ByteString) (call : StoreCall) : Prop :=
  call.recordingId ≠ some recordingId ∨ call = .findPersistedArtifact recordingId ∨
    ∃ contents, call = .writeFinalizedManifest recordingId contents

/-- The call from its beginning to its end, with any outcome. -/
def Runs (call : StoreCall) (m m' : Machine) : Prop :=
  ∃ r, Completes exec (alone Machine) anyChoice call.prog m r m'

theorem prog_stays {recordingId : ByteString} {call : StoreCall}
    (h : call.recordingId = none ∨ call.recordingId = some recordingId) :
    Stays recordingId call.prog := by
  cases call with
  | restart => exact stays_initializeStore
  | createStaging request =>
    have hid : request.recordingId = recordingId := by simpa [StoreCall.recordingId] using h
    rw [← hid]
    exact only_bind (stays_createStaging request) fun _ => only_pure _
  | writeStopRequest id contents =>
    have hid : id = recordingId := by simpa [StoreCall.recordingId] using h
    exact hid ▸ stays_writeStopRequest contents
  | writeFinalizedManifest id contents =>
    have hid : id = recordingId := by simpa [StoreCall.recordingId] using h
    exact hid ▸ stays_writeFinalizedManifest contents
  | activateFinalized id =>
    have hid : id = recordingId := by simpa [StoreCall.recordingId] using h
    exact hid ▸ stays_activateFinalized
  | findPersistedArtifact id =>
    have hid : id = recordingId := by simpa [StoreCall.recordingId] using h
    exact hid ▸ only_bind stays_findPersistedArtifact fun _ => only_pure _

end StoreCall

/-- What happens besides the writing of an id's requests: calls on other ids, restarts, lookups,
manifests, and output of the worker that records it. -/
inductive Besides (recordingId : ByteString) : Machine → Machine → Prop where
  | call {call : StoreCall} {m m' : Machine} (hcall : call.Spares recordingId)
      (h : call.Runs m m') : Besides recordingId m m'
  | output {p : ManagedPath} {o : FsOp} {c : Choice} {m : Machine} (hp : IsOutput recordingId p)
      (ho : WritesTo p o) : Besides recordingId m (exec o c m).2

def besides (recordingId : ByteString) : Interference Machine where
  rely := Relation.ReflTransGen (Besides recordingId)
  guar _ _ := True
  rely_refl _ := .refl
  rely_trans := Relation.ReflTransGen.trans

/-- The stored requests of the id stay, and a managed directory at most appears. -/
structure Untouched (recordingId : ByteString) (d d' : Disk) : Prop where
  managed : ∀ p, p = .root ∨ (∃ m, p = .managed m) →
    d' p = d p ∨ d p = none ∧ d' p = some .directory
  ledger : ∀ p, IsLedgerPath recordingId p → d' p = d p

namespace Untouched
variable {recordingId other : ByteString} {d e f : Disk} {p : ManagedPath}

theorem refl (d : Disk) : Untouched recordingId d d := ⟨fun _ _ => .inl rfl, fun _ _ => rfl⟩

theorem trans (h : Untouched recordingId d e) (k : Untouched recordingId e f) :
    Untouched recordingId d f := by
  refine ⟨fun p hp => ?_, fun p hp => (k.ledger p hp).trans (h.ledger p hp)⟩
  rcases h.managed p hp with he | ⟨hn, he⟩ <;> rcases k.managed p hp with hf | ⟨hn', hf⟩
  · exact .inl (hf.trans he)
  · exact .inr ⟨he ▸ hn', hf⟩
  · exact .inr ⟨hn, hf.trans he⟩
  · exact .inr ⟨hn, hf⟩

/-- The path belongs to no stored request of the id and is no managed directory. -/
theorem of_touches (hp : ∀ q, q = .root ∨ (∃ m, q = .managed m) ∨ IsLedgerPath recordingId q →
    q ≠ p) (h : Touches {p} d e) : Untouched recordingId d e := by
  refine ⟨fun q hq => .inl (h q fun he => ?_), fun q hq => h q fun he => ?_⟩
  · exact hp q (hq.imp_right .inl) he
  · exact hp q (.inr (.inr hq)) he

theorem not_entry {m : ManagedDirectory} {n : EntryName} (hid : other ≠ recordingId)
    (q : ManagedPath) (hq : q = .root ∨ (∃ m, q = .managed m) ∨ IsLedgerPath recordingId q) :
    q ≠ .entry m other n := by
  rintro rfl
  simp only [IsLedgerPath, reduceCtorEq, exists_false, false_or, ManagedPath.entry.injEq] at hq
  obtain ⟨_, _, _, ⟨_, he, _⟩ | ⟨_, he, _⟩⟩ := hq <;> exact hid he

theorem not_artifact {m : ManagedDirectory} (hid : other ≠ recordingId) (q : ManagedPath)
    (hq : q = .root ∨ (∃ m, q = .managed m) ∨ IsLedgerPath recordingId q) :
    q ≠ .artifact m other := by
  rintro rfl
  simp only [IsLedgerPath, reduceCtorEq, exists_false, false_or, ManagedPath.artifact.injEq,
    or_self, and_false, or_false] at hq
  obtain ⟨_, -, he⟩ := hq
  exact hid he

theorem set_entry {m : ManagedDirectory} {n : EntryName} (hid : other ≠ recordingId) (d : Disk)
    (node : Option Node) : Untouched recordingId d (d.set (.entry m other n) node) :=
  of_touches (not_entry hid) (touches_set _ rfl)

theorem append_entry {m : ManagedDirectory} {n : EntryName} (hid : other ≠ recordingId) (d : Disk)
    (bytes : ByteString) : Untouched recordingId d (d.append (.entry m other n) bytes) :=
  of_touches (not_entry hid) (touches_append _ rfl)

/-- A missing managed directory appears. -/
theorem create (hp : p = .root ∨ ∃ m, p = .managed m) (hn : d p = none) :
    Untouched recordingId d (d.set p (some .directory)) := by
  refine ⟨fun q _ => ?_, fun q hq => d.set_other _ ?_⟩
  · by_cases he : q = p
    · subst he
      exact .inr ⟨hn, set_self d _ _⟩
    · exact .inl (d.set_other _ he)
  · rintro rfl
    rcases hp with rfl | ⟨m, rfl⟩ <;> simp [IsLedgerPath] at hq

theorem move (hid : other ≠ recordingId) (d : Disk) :
    Untouched recordingId d (d.moveArtifact .staging other .finalized other) := by
  have hne : recordingId ≠ other := fun he => hid he.symm
  refine ⟨fun q hq => .inl ?_, fun q hq => ?_⟩
  · rcases hq with rfl | ⟨m, rfl⟩ <;> rfl
  · rcases hq with ⟨m, rfl⟩ | ⟨m, f, -, rfl | rfl⟩ <;> simp [moveArtifact, hne]

/-- One call on another id. -/
theorem exec_confined (hid : other ≠ recordingId) {o : FsOp} (ho : FsOp.Confined other o)
    (c : Choice) (m : Machine) : Untouched recordingId m.disk (exec o c m).2.disk := by
  have hrefl : Untouched recordingId m.disk m.disk := refl _
  have hcreate : ∀ p, p = .root ∨ (∃ k, p = .managed k) → m.disk p = none →
      Untouched recordingId m.disk (m.disk.set p (some .directory)) :=
    fun p hp hn => create hp hn
  cases o with
  | createDirectories p =>
    have hp : p = .root := ho
    simp only [exec]
    split
    · exact hrefl
    · split
      · split
        · exact hcreate p (.inl hp) ‹_›
        · exact hrefl
      · exact hrefl
  | createDirectory p =>
    simp only [exec]
    split
    · exact hrefl
    · split
      · split
        · rcases ho with ⟨k, rfl⟩ | rfl
          · exact hcreate _ (.inr ⟨k, rfl⟩) ‹_›
          · exact of_touches (not_artifact hid) (touches_set _ rfl)
        · exact hrefl
      · exact hrefl
  | openExclusive p | truncate p =>
    obtain ⟨n, rfl⟩ := ho
    simp only [exec]
    split
    · exact hrefl
    · exact set_entry hid _ _
  | write p bytes =>
    obtain ⟨n, rfl⟩ := ho
    simp only [exec]
    split
    · exact hrefl
    · exact append_entry hid _ _
  | encode p =>
    obtain ⟨n, rfl⟩ := ho
    exact append_entry hid _ _
  | streamWrite p bytes =>
    obtain ⟨n, rfl⟩ := ho
    simp only [exec]
    split
    · exact hrefl
    · exact append_entry hid _ _
  | streamFlush p bytes =>
    obtain ⟨n, rfl⟩ := ho
    simp only [exec]
    split
    · exact append_entry hid _ _
    · exact append_entry hid _ _
  | rename source target =>
    simp only [exec]
    split
    · exact hrefl
    · split
      · exact hrefl
      · rename_i e he
        rcases ho with ⟨n, n', rfl, rfl⟩ | ⟨rfl, rfl⟩
        · simp only [Disk.rename] at he
          split at he
          · split at he <;> cases he
            exact (set_entry hid _ _).trans (set_entry hid _ _)
          · cases he
        · simp only [Disk.rename] at he
          split at he <;> cases he
          exact move hid _
  | _ => exact hrefl

/-- Writing the manifest of the id. -/
theorem exec_manifest {o : FsOp} (ho : FsOp.WritesFile recordingId .manifest o) (c : Choice)
    (m : Machine) : Untouched recordingId m.disk (exec o c m).2.disk := by
  have hrefl : Untouched recordingId m.disk m.disk := refl _
  have hnot : ∀ n, n = .temporary .manifest ∨ n = .file .manifest →
      ∀ q, q = .root ∨ (∃ k, q = .managed k) ∨ IsLedgerPath recordingId q →
        q ≠ .entry .staging recordingId n := by
    rintro n hn q hq rfl
    rcases hn with rfl | rfl <;> simp [IsLedgerPath, IsRequestFile] at hq
  have hset : ∀ (d : Disk) n node, n = .temporary .manifest ∨ n = .file .manifest →
      Untouched recordingId d (d.set (.entry .staging recordingId n) node) :=
    fun d n node hn => of_touches (hnot n hn) (touches_set _ rfl)
  cases o <;> simp only [FsOp.WritesFile] at ho
  case openExclusive p =>
    subst ho
    simp only [exec]
    split
    · exact hrefl
    · exact hset _ _ _ (.inl rfl)
  case write p bytes =>
    subst ho
    simp only [exec]
    split
    · exact hrefl
    · exact of_touches (hnot _ (.inl rfl)) (touches_append _ rfl)
  case rename source target =>
    obtain ⟨rfl, rfl⟩ := ho
    simp only [exec]
    split
    · exact hrefl
    · split
      · exact hrefl
      · rename_i e he
        simp only [Disk.rename] at he
        split at he
        · split at he <;> cases he
          exact (hset _ _ _ (.inl rfl)).trans (hset _ _ _ (.inr rfl))
        · cases he
  all_goals exact hrefl

/-- A run of calls that each leave the requests alone. -/
theorem of_runs {ops : FsOp → Prop} {call : StoreCall} {m m' : Machine} (honly : Only ops call.prog)
    (hops : ∀ o c m, ops o → Untouched recordingId m.disk (exec o c m).2.disk)
    (h : call.Runs m m') : Untouched recordingId m.disk m'.disk := by
  obtain ⟨r, hruns⟩ := h
  exact hruns.keeps (R := fun m m' => Untouched recordingId m.disk m'.disk) trans
    (fun _ _ he => he ▸ refl _) (fun o c s ho => hops o c s ho) honly

theorem of_call {call : StoreCall} {m m' : Machine} (hcall : call.Spares recordingId)
    (h : call.Runs m m') : Untouched recordingId m.disk m'.disk := by
  rcases hcall with hother | rfl | ⟨contents, rfl⟩
  · -- A restart uses no path of any id.
    obtain ⟨other, hid, hstays⟩ : ∃ other, other ≠ recordingId ∧ Stays other call.prog := by
      cases hc : call.recordingId with
      | none => exact ⟨0 :: recordingId, by simp, StoreCall.prog_stays (.inl hc)⟩
      | some other =>
        exact ⟨other, fun he => hother (he ▸ hc), StoreCall.prog_stays (.inr hc)⟩
    exact of_runs hstays (fun o c s ho => exec_confined hid ho c s) h
  · have hreads : Only Reads (StoreCall.findPersistedArtifact recordingId).prog :=
      only_bind (only_findPersistedArtifact fun _ _ _ => reads_of_question) fun _ => only_pure _
    refine of_runs hreads (fun o c s ho => ?_) h
    rw [ho]
    exact refl _
  · have honly : Only (fun o => Reads o ∨ FsOp.WritesFile recordingId .manifest o)
        (StoreCall.writeFinalizedManifest recordingId contents).prog :=
      only_writeFinalizedManifest contents (fun _ ho => .inl (reads_of_question ho)) fun _ => .inr
    refine of_runs honly (fun o c s ho => ?_) h
    rcases ho with ho | ho
    · rw [ho]
      exact refl _
    · exact exec_manifest ho c s

theorem of_output {o : FsOp} {c : Choice} {m : Machine} (hp : IsOutput recordingId p)
    (ho : WritesTo p o) : Untouched recordingId m.disk (exec o c m).2.disk := by
  refine of_touches ?_ (output_changes hp ho c m).2
  rintro q hq rfl
  rcases hp with rfl | rfl <;>
    simp [videoPath, sidecarPath, IsLedgerPath, IsRequestFile] at hq

/-- Whatever happens besides the writing of an id's requests leaves them alone. -/
theorem of_besides {m m' : Machine} (h : (besides recordingId).rely m m') :
    Untouched recordingId m.disk m'.disk := by
  induction h with
  | refl => exact refl _
  | tail _ hstep ih =>
    refine ih.trans ?_
    cases hstep with
    | call hcall hruns => exact of_call hcall hruns
    | output hp ho => exact of_output hp ho

end Untouched

end NodusVision.Recording
