import NodusVision.Recording.Encoding
import NodusVision.Recording.Staging
import Mathlib.Data.List.Chain

/-! The files of a finished recording: the lines of its sidecar, and the manifest that describes
its frames and its other two files. -/
namespace NodusVision.Recording
open Text Storage Disk Program RecordingStore

/-- What every line of a sidecar repeats. -/
structure LogHeader where
  recordingId : ByteString
  sensorFrame : ByteString
  calibrationId : ByteString

def LogHeader.writer (h : LogHeader) : RecordingSidecarWriter where
  outputPath := sidecarPath h.recordingId
  recordingId := h.recordingId
  sensorFrame := h.sensorFrame
  calibrationId := h.calibrationId

/-- frames.jsonl for these frames: line `k` has index and timestamp `k`. -/
def frameLog (h : LogHeader) (identities : List FrameIdentity) : ByteString :=
  identities.zipIdx.flatMap fun x => h.writer.line ⟨x.2, x.2, x.1⟩

theorem frameLog_snoc (h : LogHeader) (identities : List FrameIdentity) (x : FrameIdentity) :
    frameLog h (identities ++ [x]) =
      frameLog h identities ++ h.writer.line ⟨identities.length, identities.length, x⟩ := by
  unfold frameLog
  rw [List.zipIdx_append, List.flatMap_append]
  simp

/-- One generation, and every frame number above the one before. -/
def Follows (previous next : FrameIdentity) : Prop :=
  previous.captureGeneration = next.captureGeneration ∧ previous.frameNumber < next.frameNumber

instance : Trans Follows Follows Follows where
  trans h k := ⟨h.1.trans k.1, h.2.trans k.2⟩

def Ordered (identities : List FrameIdentity) : Prop := identities.IsChain Follows

theorem Ordered.snoc {identities : List FrameIdentity} {x : FrameIdentity}
    (h : Ordered identities) (hx : ∀ last ∈ identities.getLast?, Follows last x) :
    Ordered (identities ++ [x]) := by
  refine List.isChain_append.mpr ⟨h, List.isChain_singleton x, ?_⟩
  intro last hlast y hy
  cases hy
  exact hx last hlast

/-- The sidecar writer has taken these frames; what is not in the file yet is in its buffer. -/
structure Listing (h : LogHeader) (identities : List FrameIdentity) (w : RecordingSidecarWriter)
    (d : Disk) : Prop where
  path : w.outputPath = sidecarPath h.recordingId
  names : w.recordingId = h.recordingId ∧ w.sensorFrame = h.sensorFrame ∧
    w.calibrationId = h.calibrationId
  writing : w.finalized = false
  count : w.entryCount = identities.length
  last : identities.getLast? = if w.hasIdentity then some w.lastIdentity else none
  text : ∃ written, d (sidecarPath h.recordingId) = some (.regular written) ∧
    written ++ w.buffer = frameLog h identities

/-- All lines are in the file. -/
def Listed (h : LogHeader) (identities : List FrameIdentity) (d : Disk) : Prop :=
  d (sidecarPath h.recordingId) = some (.regular (frameLog h identities))

section Rules
variable {admits : Choice → Prop} {others : Set ManagedPath} {h : LogHeader}
  {identities : List FrameIdentity} {w : RecordingSidecarWriter}

theorem Listing.line (hl : Listing h identities w d) (entry : RecordingFrameEntry) :
    w.line entry = h.writer.line entry := by
  obtain ⟨hid, hsensor, hcalibration⟩ := hl.names
  unfold RecordingSidecarWriter.line
  rw [hid, hsensor, hcalibration]
  rfl

theorem stable_listing (hp : sidecarPath h.recordingId ∉ others) :
    Stable others (Listing h identities w) := by
  intro d d' hc hl
  obtain ⟨written, hfile, htext⟩ := hl.text
  exact ⟨hl.path, hl.names, hl.writing, hl.count, hl.last, written, (hc.2 _ hp).trans hfile, htext⟩

/-- A new sidecar has no lines. -/
theorem construct_listing :
    Spec admits ∅ (Changes {sidecarPath h.recordingId}) (fun _ => True)
      (RecordingSidecarWriter.construct (sidecarPath h.recordingId) h.recordingId h.sensorFrame
        h.calibrationId) (Listing h []) fun _ _ => True := by
  refine (RecordingSidecarWriter.construct_spec (stable_const _ True) fun _ _ hc => hc).post ?_
    fun _ _ _ => trivial
  rintro w d ⟨rfl, -, hfile⟩
  exact ⟨rfl, ⟨rfl, rfl, rfl⟩, rfl, rfl, rfl, [], hfile, rfl⟩

/-- An entry that the writer takes is the next line. -/
theorem append_listing {identity : FrameIdentity} {index : ℕ}
    (hp : sidecarPath h.recordingId ∉ others) :
    Spec admits others (Changes {sidecarPath h.recordingId}) (Listing h identities w)
      (w.append ⟨index, index, identity⟩) (Listing h (identities ++ [identity]))
      fun _ _ => True := by
  intro m hm
  obtain ⟨written, hfile, htext⟩ := hm.text
  have hspec : Spec admits others (Changes {sidecarPath h.recordingId})
      (fun d => True ∧ d (sidecarPath h.recordingId) = some (.regular written))
      (w.append ⟨index, index, identity⟩) _ _ :=
    RecordingSidecarWriter.append_spec hm.path hp (stable_const _ True) fun _ _ hc => hc
  refine (hspec m ⟨trivial, hfile⟩).mono ?_ fun _ _ _ => trivial
  rintro w' m' ⟨⟨haccepts, n, rfl⟩, -, written', hfile', htext'⟩
  have hindex : index = identities.length := by
    rw [← hm.count]
    simp only [RecordingSidecarWriter.acceptsEntry, Bool.and_eq_true, beq_iff_eq] at haccepts
    exact haccepts.1.1.2
  constructor
  · exact hm.path
  · exact hm.names
  · exact hm.writing
  · show w.entryCount + 1 = _
    rw [hm.count, List.length_append]
    rfl
  · exact List.getLast?_append
  · refine ⟨written', hfile', htext'.trans ?_⟩
    rw [htext, hm.line, frameLog_snoc, hindex]

/-- A finished sidecar is complete in its file. -/
theorem finalize_listing :
    Spec admits ∅ (Changes {sidecarPath h.recordingId}) (Listing h identities w) w.finalize
      (fun _ => Listed h identities) fun _ _ => True := by
  intro m hm
  obtain ⟨written, hfile, htext⟩ := hm.text
  have hspec : Spec admits ∅ (Changes {sidecarPath h.recordingId})
      (fun d => True ∧ d (sidecarPath h.recordingId) = some (.regular written)) w.finalize _ _ :=
    RecordingSidecarWriter.finalize_spec hm.path hm.writing (stable_const _ True) fun _ _ hc => hc
  refine (hspec m ⟨trivial, hfile⟩).mono ?_ fun _ _ _ => trivial
  rintro w' m' ⟨-, -, hfile'⟩
  rw [htext] at hfile'
  exact hfile'

end Rules

/-- The manifest's counts and ends are those of these frames. -/
structure Reports (manifest : FinalizedRecordingManifest) (identities : List FrameIdentity) :
    Prop where
  admitted : manifest.admittedFrameCount = identities.length
  submitted : manifest.submittedFrameCount = identities.length
  first : identities.head? = if manifest.hasFrames then some manifest.firstFrame else none
  last : identities.getLast? = if manifest.hasFrames then some manifest.lastFrame else none

/-- A digest is that of a file of the artifact. -/
def Describes (sha256 : ByteString → List UInt8) (m : ManagedDirectory) (recordingId : ByteString)
    (f : ArtifactFile) (digest : RecordingArtifactDigest) (d : Disk) : Prop :=
  ∃ contents, d (.entry m recordingId (.file f)) = some (.regular contents) ∧
    digest = digestOf sha256 f contents

/-- The manifest of an artifact describes its video, its sidecar and these frames. -/
structure Complete (sha256 : ByteString → List UInt8) (m : ManagedDirectory) (h : LogHeader)
    (identities : List FrameIdentity) (d : Disk) : Prop where
  listed : d (.entry m h.recordingId (.file .sidecar)) = some (.regular (frameLog h identities))
  ordered : Ordered identities
  manifest : ∃ manifest video sidecar,
    d (.entry m h.recordingId (.file .manifest)) =
      some (.regular (manifestText manifest video sidecar)) ∧
    manifest.recordingId = h.recordingId ∧ Reports manifest identities ∧
    Describes sha256 m h.recordingId .video video d ∧
    Describes sha256 m h.recordingId .sidecar sidecar d

section Complete
variable {sha256 : ByteString → List UInt8} {h : LogHeader} {identities : List FrameIdentity}
  {d d' : Disk}

/-- What a file of the artifact holds, another artifact with the same files holds. -/
theorem Complete.same {m m' : ManagedDirectory} (hc : Complete sha256 m h identities d)
    (hfile : ∀ f, d' (.entry m' h.recordingId (.file f)) = d (.entry m h.recordingId (.file f))) :
    Complete sha256 m' h identities d' := by
  obtain ⟨manifest, video, sidecar, htext, hid, hreports, ⟨v, hv, hvideo⟩, ⟨l, hl, hsidecar⟩⟩ :=
    hc.manifest
  exact ⟨(hfile _).trans hc.listed, hc.ordered, manifest, video, sidecar, (hfile _).trans htext,
    hid, hreports, ⟨v, (hfile _).trans hv, hvideo⟩, ⟨l, (hfile _).trans hl, hsidecar⟩⟩

/-- A finalized artifact stays as it is. -/
theorem Complete.lawful (hc : Complete sha256 .finalized h identities d) (hw : d.WellFormed)
    (hl : d.Lawful d') : Complete sha256 .finalized h identities d' := by
  have hne : d (.artifact .finalized h.recordingId) ≠ none := by
    have hdir := (hw.entry_regular .finalized h.recordingId (.file .sidecar) (by
      rw [hc.listed]
      exact Option.some_ne_none _)).2
    rw [hdir]
    exact Option.some_ne_none _
  exact hc.same fun f => ((hl hw).2.finalized h.recordingId hne).2 _

/-- Activation takes the artifact to finalized storage as it is. -/
theorem Complete.activated (hc : Complete sha256 .staging h identities d)
    (ha : d' = d.moveArtifact .staging h.recordingId .finalized h.recordingId) :
    Complete sha256 .finalized h identities d' := by
  refine hc.same fun f => ?_
  subst ha
  simp [moveArtifact]

end Complete

section Manifest
variable {admits : Choice → Prop} {sha256 : ByteString → List UInt8} {h : LogHeader}
  {identities : List FrameIdentity} {f : ArtifactFile} {deadline : Option ℕ} {m : Machine}

/-- A digest describes the file that is there. -/
theorem digest_describes {recordingId : ByteString} (hw : m.disk.WellFormed) {P : Disk → Prop}
    (hP : P m.disk) :
    (calculateRecordingArtifactDigest sha256 (artifactPaths recordingId).stagingDirectory f
      deadline).Safe exec (sharing ∅ Unchanged) admits
      (fun digest m => Describes sha256 .staging recordingId f digest m.disk ∧ P m.disk)
      (fun _ _ => True) m := by
  by_cases hd : m.disk (.entry .staging recordingId (.file f)) = none
  · have hspec : Spec admits ∅ Unchanged
        (fun d => d (.entry .staging recordingId (.file f)) = none)
        (calculateRecordingArtifactDigest sha256 (artifactPaths recordingId).stagingDirectory f
          deadline) _ _ := calculateRecordingArtifactDigest_absent Unchanged.refl
    exact (hspec m hd).mono (fun _ _ hf => hf.elim) fun _ _ _ => trivial
  · obtain ⟨⟨contents, hcontents⟩, -⟩ := hw.entry_regular .staging recordingId (.file f) hd
    have hspec : Spec admits ∅ Unchanged
        (fun d => d (.entry .staging recordingId (.file f)) = some (.regular contents) ∧ P d)
        (calculateRecordingArtifactDigest sha256 (artifactPaths recordingId).stagingDirectory f
          deadline) _ _ := calculateRecordingArtifactDigest_spec Unchanged.refl fun _ hd => hd.1
    refine (hspec m ⟨hcontents, hP⟩).mono ?_ fun _ _ _ => trivial
    rintro digest m' ⟨rfl, hfile, hP'⟩
    exact ⟨⟨contents, hfile, rfl⟩, hP'⟩

/-- A manifest that is written completes the artifact. -/
theorem writeFinalizedManifest_complete {manifest : FinalizedRecordingManifest}
    {video sidecar : RecordingArtifactDigest} (hw : m.disk.WellFormed)
    (hlisted : Listed h identities m.disk) (hordered : Ordered identities)
    (hid : manifest.recordingId = h.recordingId) (hreports : Reports manifest identities)
    (hvideo : Describes sha256 .staging h.recordingId .video video m.disk)
    (hsidecar : Describes sha256 .staging h.recordingId .sidecar sidecar m.disk) :
    (writeFinalizedManifest (artifactPaths h.recordingId)
      (manifestText manifest video sidecar)).Safe exec
      (sharing ∅ (Changes (writtenPaths h.recordingId .manifest))) admits
      (fun _ m => Complete sha256 .staging h identities m.disk) (fun _ _ => True) m := by
  obtain ⟨v, hv, rfl⟩ := hvideo
  obtain ⟨l, hl, rfl⟩ := hsidecar
  have hout : ∀ f, f ≠ .manifest → ∀ node, Stable (∅ ∪ writtenPaths h.recordingId .manifest)
      fun d => d (.entry .staging h.recordingId (.file f)) = node := by
    intro f hf node
    refine stable_at ?_ (· = node)
    simp [writtenPaths, hf]
  have hspec : Spec admits ∅ (Changes (writtenPaths h.recordingId .manifest))
      (fun d => d.WellFormed ∧
        d (.entry .staging h.recordingId (.file .sidecar)) =
          some (.regular (frameLog h identities)) ∧
        d (.entry .staging h.recordingId (.file .video)) = some (.regular v) ∧
        d (.entry .staging h.recordingId (.file .sidecar)) = some (.regular l))
      (writeFinalizedManifest (artifactPaths h.recordingId) (manifestText manifest
        (digestOf sha256 .video v) (digestOf sha256 .sidecar l))) _ _ :=
    writeFinalizedManifest_spec ((stable_wellFormed _).and ((hout _ (by simp) _).and
      ((hout _ (by simp) _).and (hout _ (by simp) _)))) (fun _ hd => hd.1) (fun _ _ hc => hc)
      ⟨by simp, by simp⟩
  refine (hspec m ⟨hw, hlisted, hv, hl⟩).mono ?_ fun _ _ _ => trivial
  rintro - m' ⟨⟨-, hlisted', hv', hl'⟩, hmanifest⟩
  exact ⟨hlisted', hordered, manifest, _, _, hmanifest, hid, hreports, ⟨v, hv', rfl⟩, l, hl', rfl⟩

end Manifest

end NodusVision.Recording
