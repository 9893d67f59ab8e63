import NodusVision.Recording.Writes
import NodusVision.Recording.VideoWriter
import NodusVision.Recording.Manifest

/-! What the video writer, the sidecar writer and the digests do to the staging artifact. -/
namespace NodusVision.Recording
open Text Storage Disk Program RecordingStore

def videoPath (recordingId : ByteString) : ManagedPath := .entry .staging recordingId (.file .video)

def sidecarPath (recordingId : ByteString) : ManagedPath :=
  .entry .staging recordingId (.file .sidecar)

section Streams
variable {p : ManagedPath} {o : FsOp}

/-- Questions, and output to one file. -/
def WritesTo (p : ManagedPath) (o : FsOp) : Prop :=
  Reads o ∨ o = .encode p ∨ o = .truncate p ∨ (∃ b, o = .streamWrite p b) ∨ ∃ b, o = .streamFlush p b

/-- The output files of a recording are in its staging directory and are not requests. -/
def IsOutput (recordingId : ByteString) (p : ManagedPath) : Prop :=
  p = videoPath recordingId ∨ p = sidecarPath recordingId

theorem sidecar_isOutput (recordingId : ByteString) :
    IsOutput recordingId (sidecarPath recordingId) := .inr rfl

private theorem output_append {recordingId : ByteString} {d : Disk} (hp : IsOutput recordingId p)
    (bytes : ByteString) : Changes {p} d (d.append p bytes) := by
  refine ⟨?_, touches_append _ rfl⟩
  rcases hp with rfl | rfl
  · exact lawful_append _ (by simp [IsRequestFile])
  · exact lawful_append _ (by simp [IsRequestFile])

private theorem output_truncate {recordingId : ByteString} {d : Disk} (hp : IsOutput recordingId p)
    (hpar : d.parentPresent p = true) : Changes {p} d (d.set p (some (.regular []))) := by
  refine ⟨fun hw => ?_, touches_set _ rfl⟩
  have hstaging : d (.artifact .staging recordingId) = some .directory := by
    refine (hw.artifact_dir _ _ fun hnone => ?_).1
    rcases hp with rfl | rfl <;>
      simp [videoPath, sidecarPath, parentPresent, ManagedPath.parentPath, Disk.isDirectory,
        hnone] at hpar
  rcases hp with rfl | rfl
  · exact lawful_set_entry (c := some []) hstaging (by simp [IsRequestFile]) hw
  · exact lawful_set_entry (c := some []) hstaging (by simp [IsRequestFile]) hw

theorem output_changes {recordingId : ByteString} (hp : IsOutput recordingId p)
    (ho : WritesTo p o) (c : Choice) (m : Machine) : Changes {p} m.disk (exec o c m).2.disk := by
  rcases ho with ho | rfl | rfl | ⟨b, rfl⟩ | ⟨b, rfl⟩
  · rw [ho c m]
    exact .refl _ _
  · exact output_append hp _
  · simp only [exec]
    split
    · exact .refl _ _
    · rename_i hc
      push Not at hc
      exact output_truncate hp (by simpa using hc.2.2)
  · simp only [exec]
    split
    · exact .refl _ _
    · exact output_append hp _
  · simp only [exec]
    split
    · exact output_append hp _
    · exact output_append hp _

variable {α : Type} {admits : Choice → Prop} {others : Set ManagedPath}
  {does : Disk → Disk → Prop} {R : Disk → Prop} {prog : StoreProg α} {returns : α → Prop}
  {throws : Exception → Prop} {recordingId : ByteString}

/-- A program that writes to one output file keeps what does not speak of that file. -/
theorem writesTo_spec (h : prog.Uses (WritesTo p) returns throws) (hp : IsOutput recordingId p)
    (hR : Stable (others ∪ {p}) R) (hdoes : ∀ d d', Changes {p} d d' → does d d') :
    Spec admits others does R prog (fun a d => returns a ∧ R d) fun e d => throws e ∧ R d := by
  refine Spec.of_uses h (hR.mono Set.subset_union_left) fun o c m ho hm => ?_
  have hc := output_changes hp ho c m
  exact ⟨hdoes _ _ hc, hR _ _ (hc.mono Set.subset_union_right) hm⟩

end Streams

namespace ColorVideoWriter

theorem libraryCalls_uses (p : ManagedPath) (whats : List String) :
    (libraryCalls whats).Uses (WritesTo p) (fun _ => True) fun _ => True := by
  induction whats with
  | nil => trivial
  | cons what rest ih => exact (require_uses rfl (.inl fun _ _ => rfl) trivial).bind _ fun _ _ => ih

private theorem encode_uses (p : ManagedPath) (what : String) :
    (require (.encode p) rfl (.runtimeError what)).Uses (WritesTo p) (fun _ => True)
      fun _ => True := require_uses rfl (.inr (.inl rfl)) trivial

theorem construct_uses (config : ColorVideoWriterConfig) :
    (construct config).Uses (WritesTo config.outputPath)
      (fun w => w = { config := config, headerWritten := true }) fun _ => True := by
  refine (throwIf_uses trivial).bind _ fun _ _ => (libraryCalls_uses _ _).bind _ fun _ _ => ?_
  refine (require_uses rfl (.inr (.inr (.inl rfl))) trivial).bind _ fun _ _ => ?_
  exact (encode_uses _ _).bind _ fun _ _ => (libraryCalls_uses _ _).bind _ fun _ _ => rfl

theorem writeFrame_uses (w : ColorVideoWriter) (frame : VideoFrameView) :
    (w.writeFrame frame).Uses (WritesTo w.config.outputPath)
      (fun r => r = (w.submittedFrameCount,
        { w with submittedFrameCount := w.submittedFrameCount + 1 })) fun _ => True := by
  refine (throwIf_uses trivial).bind _ fun _ _ => (libraryCalls_uses _ _).bind _ fun _ _ => ?_
  exact (encode_uses _ _).bind _ fun _ _ => rfl

theorem finalize_uses (w : ColorVideoWriter) :
    w.finalize.Uses (WritesTo w.config.outputPath) (fun r => r = { w with finalized := true })
      fun _ => True := by
  unfold finalize
  split
  · rename_i hf
    cases w
    simp_all [Prog.Uses]
  · refine (libraryCalls_uses _ _).bind _ fun _ _ => (encode_uses _ _).bind _ fun _ _ => ?_
    exact (encode_uses _ _).bind _ fun _ _ => (encode_uses _ _).bind _ fun _ _ => rfl

/-- The destructor does not throw. -/
theorem destroy_uses (w : ColorVideoWriter) :
    w.destroy.Uses (WritesTo w.config.outputPath) (fun _ => True) fun _ => False :=
  .ite (fun _ => .tryCatch ((finalize_uses w).bind _ fun _ _ => trivial) fun _ _ => trivial)
    fun _ => trivial

end ColorVideoWriter

namespace RecordingSidecarWriter

variable {admits : Choice → Prop} {others : Set ManagedPath} {does : Disk → Disk → Prop}
  {R : Disk → Prop} {recordingId : ByteString}

theorem destroy_uses (s : RecordingSidecarWriter) :
    s.destroy.Uses (WritesTo s.outputPath) (fun _ => True) fun _ => False :=
  .ite (fun _ => trivial) fun _ => ⟨.inr (.inr (.inr (.inr ⟨_, rfl⟩))), fun _ => trivial⟩

theorem construct_uses (outputPath : ManagedPath) (recordingId sensorFrame calibrationId : ByteString) :
    (construct outputPath recordingId sensorFrame calibrationId).Uses (WritesTo outputPath)
      (fun s => s = {
        outputPath := outputPath, recordingId := recordingId
        sensorFrame := sensorFrame, calibrationId := calibrationId }) fun _ => True :=
  call_uses (.inr (.inr (.inl rfl))) fun _ =>
    (throwIf_uses trivial).bind _ fun _ _ => rfl

theorem append_uses (s : RecordingSidecarWriter) (entry : RecordingFrameEntry) :
    (s.append entry).Uses (WritesTo s.outputPath) (fun s' => s'.outputPath = s.outputPath)
      fun _ => True := by
  refine (throwIf_uses trivial).bind _ fun _ _ =>
    call_uses (.inr (.inr (.inr (.inl ⟨_, rfl⟩)))) fun (written : Option ℕ) => ?_
  cases written with
  | none => trivial
  | some n => rfl

theorem finalize_uses (s : RecordingSidecarWriter) :
    s.finalize.Uses (WritesTo s.outputPath) (fun s' => s'.outputPath = s.outputPath)
      fun _ => True :=
  .ite (fun _ => rfl) fun _ =>
    (require_uses rfl (.inr (.inr (.inr (.inr ⟨_, rfl⟩)))) trivial).bind _ fun _ _ =>
      (require_uses rfl (.inl fun _ _ => rfl) trivial).bind _ fun _ _ => rfl

/-- A new sidecar writer has an empty file. -/
theorem construct_spec {sensorFrame calibrationId : ByteString}
    (hR : Stable ({sidecarPath recordingId} : Set ManagedPath) R)
    (hdoes : ∀ d d', Changes {sidecarPath recordingId} d d' → does d d') :
    Spec admits ∅ does R
      (construct (sidecarPath recordingId) recordingId sensorFrame calibrationId)
      (fun s d => s = {
          outputPath := sidecarPath recordingId, recordingId := recordingId
          sensorFrame := sensorFrame, calibrationId := calibrationId } ∧
        R d ∧ d (sidecarPath recordingId) = some (.regular []))
      fun _ _ => True := by
  refine call_spec (stable_empty _) (fun (opened : Bool) d => R d ∧
    (opened = true → d (sidecarPath recordingId) = some (.regular [])))
    (fun m c hm _ => ?_) fun (opened : Bool) => ?_
  · have hc := output_changes (o := .truncate _) (sidecar_isOutput recordingId)
      (.inr (.inr (.inl rfl))) c m
    refine ⟨hdoes _ _ hc, hR _ _ hc hm, ?_⟩
    simp only [exec]
    split
    · simp
    · exact fun _ => set_self _ _ _
  · refine Spec.bind _ (throwIf_spec (stable_empty _) fun _ _ _ => trivial) fun _ => ?_
    refine Spec.pure (stable_empty _) fun d hd => ⟨rfl, hd.2.1, hd.2.2 ?_⟩
    have hopened := hd.1
    push Not at hopened
    simpa using hopened.2.2.2

/-- The writer after one more line of which `n` bytes of its buffer reached the file. -/
def appended (s : RecordingSidecarWriter) (entry : RecordingFrameEntry) (n : ℕ) :
    RecordingSidecarWriter :=
  { s with
    buffer := (s.buffer ++ s.line entry).drop n
    lastIdentity := entry.identity
    hasIdentity := true
    entryCount := s.entryCount + 1 }

/-- File and buffer together take one line more. -/
theorem append_spec {s : RecordingSidecarWriter} {entry : RecordingFrameEntry} {written : ByteString}
    (hpath : s.outputPath = sidecarPath recordingId) (hother : sidecarPath recordingId ∉ others)
    (hR : Stable (others ∪ {sidecarPath recordingId}) R)
    (hdoes : ∀ d d', Changes {sidecarPath recordingId} d d' → does d d') :
    Spec admits others does
      (fun d => R d ∧ d (sidecarPath recordingId) = some (.regular written))
      (s.append entry)
      (fun s' d => (s.acceptsEntry entry = true ∧ ∃ n, s' = s.appended entry n) ∧ R d ∧
        ∃ written', d (sidecarPath recordingId) = some (.regular written') ∧
          written' ++ s'.buffer = written ++ s.buffer ++ s.line entry)
      fun _ => R := by
  have hRo : Stable others R := hR.mono Set.subset_union_left
  have hfile : ∀ w, Stable others fun d => R d ∧ d (sidecarPath recordingId) = some (.regular w) :=
    fun w => hRo.and (stable_at hother (· = some (.regular w)))
  refine Spec.bind _ ((throwIf_spec (hfile _) fun _ _ hd => hd.1)) fun _ => ?_
  refine Spec.assume fun hacc => ?_
  refine call_spec (hfile _) (fun (n : Option ℕ) d => R d ∧ ∀ k, n = some k → ∃ written',
      d (sidecarPath recordingId) = some (.regular written') ∧
        written' ++ (s.buffer ++ s.line entry).drop k = written ++ s.buffer ++ s.line entry)
    (fun m c hm _ => ?_) fun (n : Option ℕ) => ?_
  · rw [hpath]
    have hc := output_changes (o := .streamWrite (sidecarPath recordingId) (s.buffer ++ s.line entry))
      (sidecar_isOutput recordingId) (.inr (.inr (.inr (.inl ⟨_, rfl⟩)))) c m
    refine ⟨hdoes _ _ hc, hR _ _ (hc.mono Set.subset_union_right) hm.1, ?_⟩
    simp only [exec]
    split
    · simp
    · rintro k hk
      cases hk
      refine ⟨written ++ (s.buffer ++ s.line entry).take c.amount, ?_, ?_⟩
      · simp [Machine.withDisk, Disk.append, hm.2, Disk.set]
      · rw [List.append_assoc, List.take_eq_take_min, List.take_append_drop, List.append_assoc]
  · have hst : Stable others fun d => R d ∧ ∀ k, n = some k → ∃ written',
        d (sidecarPath recordingId) = some (.regular written') ∧
          written' ++ (s.buffer ++ s.line entry).drop k = written ++ s.buffer ++ s.line entry :=
      hRo.and (stable_at hother fun node => ∀ k, n = some k → ∃ written',
        node = some (.regular written') ∧
          written' ++ (s.buffer ++ s.line entry).drop k = written ++ s.buffer ++ s.line entry)
    cases n with
    | none => exact Spec.throw hst fun _ hd => hd.1
    | some n => exact Spec.pure hst fun d hd => ⟨⟨by simpa using hacc, n, rfl⟩, hd.1, hd.2 n rfl⟩

/-- Closing moves the buffer to the file. -/
theorem finalize_spec {s : RecordingSidecarWriter} {written : ByteString}
    (hpath : s.outputPath = sidecarPath recordingId) (hopen : s.finalized = false)
    (hR : Stable ({sidecarPath recordingId} : Set ManagedPath) R)
    (hdoes : ∀ d d', Changes {sidecarPath recordingId} d d' → does d d') :
    Spec admits ∅ does
      (fun d => R d ∧ d (sidecarPath recordingId) = some (.regular written)) s.finalize
      (fun s' d => s' = { s with buffer := [], finalized := true } ∧ R d ∧
        d (sidecarPath recordingId) = some (.regular (written ++ s.buffer)))
      fun _ _ => True := by
  unfold finalize
  rw [if_neg (by simp [hopen])]
  refine Spec.bind _ (require_spec rfl (stable_empty _) (stable_empty (fun d => R d ∧
    d (sidecarPath recordingId) = some (.regular (written ++ s.buffer)))) (stable_empty _)
    fun m c hm _ => ?_) fun _ => ?_
  · rw [hpath]
    have hc := output_changes (o := .streamFlush (sidecarPath recordingId) s.buffer)
      (sidecar_isOutput recordingId) (.inr (.inr (.inr (.inr ⟨_, rfl⟩)))) c m
    refine ⟨hdoes _ _ hc, ?_⟩
    cases hf : c.fails with
    | true => simp [exec, hf]
    | false =>
      have hkeep := hR _ _ hc hm.1
      simp only [exec, hf, Bool.false_eq_true, if_false, cast_eq, if_true] at hkeep ⊢
      exact ⟨hkeep, by simp [Machine.withDisk, Disk.append, hm.2, Disk.set]⟩
  · have hclose : (require (.close s.outputPath) rfl
        (.runtimeError "Recording sidecar close failed.")).Uses Reads (fun _ => True)
        fun _ => True := require_uses rfl (fun _ _ => rfl) trivial
    refine Spec.bind _ ((Spec.of_reads hclose (stable_empty _) fun d => hdoes _ _ (.refl _ d)).post
      (fun _ _ h => h.2) fun _ _ _ => trivial) fun _ => ?_
    exact Spec.pure (stable_empty _) fun d hd => ⟨rfl, hd⟩

end RecordingSidecarWriter

section Digest
variable {admits : Choice → Prop} {does : Disk → Disk → Prop} {sha256 : ByteString → List UInt8}
  {recordingId : ByteString} {f : ArtifactFile} {deadline : Option ℕ}

/-- The digest entry of a file with the given contents. -/
def digestOf (sha256 : ByteString → List UInt8) (f : ArtifactFile) (contents : ByteString) :
    RecordingArtifactDigest := ⟨f, contents.length, hexDigest (sha256 contents)⟩

theorem digestChunks_uses (path : ManagedPath) (n : ℕ) :
    (digestChunks path deadline n).Uses Reads (fun _ => True) fun _ => True := by
  induction n with
  | zero => trivial
  | succ n ih =>
    refine call_uses (fun _ _ => rfl) fun (now : ℕ) => (throwIf_uses trivial).bind _ fun _ _ => ?_
    exact call_uses (fun _ _ => rfl) fun (good : Bool) => (throwIf_uses trivial).bind _ fun _ _ => ih

theorem calculateRecordingArtifactDigest_uses (directory : ManagedPath) :
    (calculateRecordingArtifactDigest sha256 directory f deadline).Uses Reads (fun _ => True)
      fun _ => True := by
  refine Prog.Uses.bind (fun _ => True) ⟨fun _ _ => rfl, fun _ => orThrow_uses trivial⟩
    fun status _ => Prog.Uses.bind _ (throwIf_uses trivial) fun _ _ =>
      call_uses (fun _ _ => rfl) fun (regular : Option Bool) => ?_
  refine (orThrow_uses trivial).bind _ fun _ _ => Prog.Uses.bind _ (throwIf_uses trivial) fun _ _ =>
    call_uses (fun _ _ => rfl) fun (input : Option ByteString) =>
      call_uses (fun _ _ => rfl) fun (hashReady : Bool) => ?_
  cases input with
  | none => trivial
  | some contents =>
    refine Prog.Uses.bind _ (throwIf_uses trivial) fun _ _ =>
      (digestChunks_uses _ _).bind _ fun _ _ =>
        call_uses (fun _ _ => rfl) fun (size : Option ℕ) => ?_
    exact (orThrow_uses trivial).bind _ fun _ _ => trivial

/-- A digest describes the file that is there. -/
theorem calculateRecordingArtifactDigest_spec {P : Disk → Prop} {contents : ByteString}
    (hdoes : ∀ d, does d d)
    (hn : ∀ d, P d → d (.entry .staging recordingId (.file f)) = some (.regular contents)) :
    Spec admits ∅ does P
      (calculateRecordingArtifactDigest sha256 (artifactPaths recordingId).stagingDirectory f
        deadline)
      (fun digest d => digest = digestOf sha256 f contents ∧ P d) fun _ _ => True := by
  have hst : ∀ P : Disk → Prop, Stable ∅ P := stable_empty
  refine Spec.bind (fun _ => P) (symlinkStatus_spec (hst _) hdoes (fun _ _ _ => trivial)
    (fun _ h => h) fun _ => hst _) fun status => ?_
  refine Spec.bind _ (check_spec (hst _) fun _ _ _ => trivial) fun _ => ?_
  refine query_spec (hst _) hdoes (fun _ => P) (fun m c hm _ => ⟨rfl, hm⟩)
    fun (regular : Option Bool) => ?_
  have hanswer : (orThrow regular).Uses Reads (fun _ => True) fun _ => True := orThrow_uses trivial
  refine Spec.bind _ ((Spec.of_reads hanswer (hst P) hdoes).post
    (fun _ _ h => h.2) fun _ _ _ => trivial) fun isRegular => ?_
  refine Spec.bind _ (check_spec (hst _) fun _ _ _ => trivial) fun _ => ?_
  refine query_spec (hst _) hdoes (fun (input : Option ByteString) d =>
    (∀ k, input = some k → k = contents) ∧ P d) (fun m c hm _ => ⟨rfl, ?_, hm⟩)
    fun (input : Option ByteString) => Spec.assume fun hinput => ?_
  · intro k hk
    cases hf : c.fails with
    | true => simp [exec, hf] at hk
    | false => simpa [exec, hf, Disk.contents, artifactPaths, hn _ hm] using hk.symm
  refine query_spec (hst _) hdoes (fun _ => P) (fun m c hm _ => ⟨rfl, hm⟩)
    fun (hashReady : Bool) => ?_
  cases input with
  | none => exact Spec.throw (hst _) fun _ _ => trivial
  | some input =>
    have hk := hinput input rfl
    subst hk
    refine Spec.bind _ (check_spec (hst _) fun _ _ _ => trivial) fun _ => ?_
    refine Spec.bind _ ((Spec.of_reads (digestChunks_uses _ _) (hst P) hdoes).post
      (fun _ _ h => h.2) fun _ _ _ => trivial) fun _ => ?_
    refine query_spec (hst _) hdoes (fun (size : Option ℕ) d =>
      (∀ k, size = some k → k = input.length) ∧ P d) (fun m c hm _ => ⟨rfl, ?_, hm⟩)
      fun (size : Option ℕ) => Spec.assume fun hsize => ?_
    · intro k hk
      cases hf : c.fails with
      | true => simp [exec, hf] at hk
      | false => simpa [exec, hf, Disk.contents, artifactPaths, hn _ hm] using hk.symm
    cases size with
    | none => exact Spec.throw (hst _) fun _ _ => trivial
    | some size =>
      have hk := hsize size rfl
      subst hk
      exact Spec.pure (hst _) fun d hd => ⟨rfl, hd⟩

/-- A file that is not there has no digest. -/
theorem calculateRecordingArtifactDigest_absent (hdoes : ∀ d, does d d) :
    Spec admits ∅ does (fun d => d (.entry .staging recordingId (.file f)) = none)
      (calculateRecordingArtifactDigest sha256 (artifactPaths recordingId).stagingDirectory f
        deadline) (fun _ _ => False) fun _ _ => True := by
  have hst : ∀ P : Disk → Prop, Stable ∅ P := stable_empty
  refine Spec.bind (fun _ d => d (.entry .staging recordingId (.file f)) = none)
    (symlinkStatus_spec (hst _) hdoes (fun _ _ _ => trivial) (fun _ h => h) fun _ => hst _)
    fun status => ?_
  refine Spec.bind _ (check_spec (hst _) fun _ _ _ => trivial) fun _ => ?_
  refine query_spec (hst _) hdoes (fun (regular : Option Bool) _ =>
    ∀ b, regular = some b → b = false) (fun m c hm _ => ⟨rfl, fun b hb => ?_⟩)
    fun (regular : Option Bool) => ?_
  · cases hf : c.fails with
    | true => simp [exec, Choice.answer, hf] at hb
    | false => simpa [exec, Choice.answer, hf, Disk.isRegular, artifactPaths, hm] using hb.symm
  cases regular with
  | none => exact Spec.throw (hst _) fun _ _ => trivial
  | some b =>
    refine Spec.bind (fun b _ => b = false) (Spec.pure (hst _) fun _ hd => hd b rfl) fun b => ?_
    exact Spec.bind _ (throwIf_spec (hst _) fun _ _ _ => trivial) fun _ =>
      Spec.of_false fun _ hd => hd.1 hd.2

end Digest

end NodusVision.Recording
