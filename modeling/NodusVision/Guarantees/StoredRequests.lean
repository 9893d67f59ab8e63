import NodusVision.Recording.Outcome
import NodusVision.Recording.RoundTrip

/-! Whether the lookup returns the requests that the store has written. -/
namespace NodusVision.Guarantees
open Text Storage Disk Program Recording RecordingStore

/-- The activation of an artifact, when there is one. -/
def Activation (recordingId : ByteString) (activated : Bool) (m m' : Machine) : Prop :=
  if activated then
    Completes exec (besides recordingId) anyChoice
      (activateFinalized (artifactPaths recordingId)) m (.ok ()) m'
  else (besides recordingId).rely m m'

/-- From here on every lookup returns both requests, and no call on one id changes the lookup of
another. -/
structure RoundTrip (recordingId start stop : ByteString) (activated : Bool) (m : Machine) :
    Prop where
  own : ∀ m' r, (besides recordingId).rely m m' → Finds m' recordingId r →
    r = .ok (some ⟨artifactPaths recordingId, activated, start, some stop⟩)
  others : ∀ (call : StoreCall) (other : ByteString) (m m' : Machine),
    call.recordingId ≠ some other → call.Runs m m' → ∀ r, Finds m' other r ↔ Finds m other r

/-- The written requests are registered. -/
theorem registered_of_calls {request : RecordingStartRequest} {canonical stop : ByteString}
    {paths : RecordingArtifactPaths} {activated : Bool} {m₀ m₁ m₂ m₃ : Machine}
    (hserialize : serializeRecordingStartRequest request = .ok canonical)
    (hnested : Nested m₀.disk)
    (hcreate : Completes exec (besides request.recordingId) anyChoice (createStaging request)
      m₀ (.ok paths) m₁)
    (hstop : Completes exec (besides request.recordingId) anyChoice (writeStopRequest paths stop)
      m₁ (.ok ()) m₂)
    (hactivate : Activation request.recordingId activated m₂ m₃) :
    Registered request.recordingId activated (some canonical) (some stop) m₃.disk := by
  obtain ⟨rfl, hstarted⟩ := (createStaging_returns hserialize).completes hnested hcreate
  have hstopped := writeStopRequest_returns.completes hstarted hstop
  cases activated with
  | true =>
    have hrun : Completes exec (besides request.recordingId) anyChoice
        (activateFinalized (artifactPaths request.recordingId)) m₂ (.ok ()) m₃ := hactivate
    exact activateFinalized_returns.completes hstopped hrun
  | false =>
    have hrest : (besides request.recordingId).rely m₂ m₃ := hactivate
    exact kept_registered _ _ (.of_besides hrest) hstopped

/-- The requests of an accepted start and stop come back exactly when both fit the reader's bound. -/
theorem stored_requests_iff {request : RecordingStartRequest} {canonical stop : ByteString}
    {paths : RecordingArtifactPaths} {activated : Bool} {m₀ m₁ m₂ m₃ : Machine}
    (hserialize : serializeRecordingStartRequest request = .ok canonical)
    (hnested : Nested m₀.disk)
    (hcreate : Completes exec (besides request.recordingId) anyChoice (createStaging request)
      m₀ (.ok paths) m₁)
    (hstop : Completes exec (besides request.recordingId) anyChoice (writeStopRequest paths stop)
      m₁ (.ok ()) m₂)
    (hactivate : Activation request.recordingId activated m₂ m₃) :
    RoundTrip request.recordingId canonical stop activated m₃ ↔
      canonical.length ≤ maxRequestFileBytes ∧ stop.length ≤ maxRequestFileBytes := by
  have hregistered := registered_of_calls hserialize hnested hcreate hstop hactivate
  have hid := (serialize_ok hserialize).2
  constructor
  · rintro ⟨hown, -⟩
    have hlookup := hown m₃ _ ((besides request.recordingId).rely_refl m₃) (finds_iff.mpr rfl)
    rw [lookup_registered hid hregistered] at hlookup
    split at hlookup
    · cases hlookup
    · rename_i hshort
      push Not at hshort
      exact ⟨hshort.1, hshort.2 stop rfl⟩
  · rintro ⟨hcanonical, hstopLength⟩
    refine ⟨fun m' r hlater hfinds => ?_, fun call other m m' hcall hruns r => ?_⟩
    · have hlater' := kept_registered _ _ (.of_besides hlater) hregistered
      rw [finds_iff.mp hfinds, lookup_registered hid hlater', if_neg]
      rintro (hlong | ⟨c, hc, hlong⟩)
      · omega
      · cases hc
        omega
    · have hsame := lookup_untouched (.of_call (.inl hcall) hruns)
      rw [finds_iff, finds_iff, hsame]

/-- The root before the first recording. -/
def preparedRoot : Disk
  | .root | .managed _ => some .directory
  | _ => none

def preparedMachine : Machine := ⟨preparedRoot, 0, 0⟩

/-- The disk after a start in which no call fails. -/
def startedDisk (recordingId canonical : ByteString) : Disk :=
  ((preparedRoot.set (.artifact .staging recordingId) (some .directory)).set
    (.entry .staging recordingId (.temporary .startRequest)) none).set
    (.entry .staging recordingId (.file .startRequest)) (some (.regular canonical))

theorem createStaging_run {request : RecordingStartRequest} {canonical : ByteString}
    (hserialize : serializeRecordingStartRequest request = .ok canonical) :
    (createStaging request).run exec {} preparedMachine =
      (.ok (artifactPaths request.recordingId),
        ⟨startedDisk request.recordingId canonical, 0, 0⟩) := by
  have hid := (serialize_ok hserialize).2
  let created : Machine :=
    ⟨preparedRoot.set (.artifact .staging request.recordingId) (some .directory), 0, 0⟩
  have hinitialize : initializeStore.run exec {} preparedMachine = (.ok (), preparedMachine) := rfl
  have hwrite : (writeAtomically (.artifact .staging request.recordingId) .startRequest
      canonical).run exec {} created =
        (.ok (), ⟨startedDisk request.recordingId canonical, 0, 0⟩) :=
    writeAtomically_run (set_self _ _ _) rfl
  unfold createStaging throwIf
  rw [if_neg (by simp [hid]), Prog.bind_eq, Prog.pure_bind, Prog.bind_eq, run_bind_ok hinitialize]
  simp only [hserialize]
  exact run_bind_ok hwrite

/-- The disk after a stop in which no call fails. -/
def stoppedDisk (recordingId canonical stop : ByteString) : Disk :=
  ((startedDisk recordingId canonical).set
    (.entry .staging recordingId (.temporary .stopRequest)) none).set
    (.entry .staging recordingId (.file .stopRequest)) (some (.regular stop))

theorem writeStopRequest_run {recordingId canonical stop : ByteString} :
    (writeStopRequest (artifactPaths recordingId) stop).run exec {}
        ⟨startedDisk recordingId canonical, 0, 0⟩ =
      (.ok (), ⟨stoppedDisk recordingId canonical stop, 0, 0⟩) := by
  have hstaging : startedDisk recordingId canonical (.artifact .staging recordingId) =
      some .directory := by
    simp [startedDisk, Disk.set]
  have hfree : startedDisk recordingId canonical
      (.entry .staging recordingId (.temporary .stopRequest)) = none := by
    simp [startedDisk, Disk.set, preparedRoot]
  have hcheck : (requireStagingPath (artifactPaths recordingId)
      "Recording stop staging path is unsafe.").run exec {}
        ⟨startedDisk recordingId canonical, 0, 0⟩ =
      (.ok (), ⟨startedDisk recordingId canonical, 0, 0⟩) := by
    have hkind : (startedDisk recordingId canonical).kind (.artifact .staging recordingId) =
        .directory := by
      simp only [Disk.kind, hstaging]
    show Prog.run exec {} (throwIf ((startedDisk recordingId canonical).kind
      (.artifact .staging recordingId) = .symlink) _) _ = _
    rw [hkind]
    rfl
  unfold writeStopRequest
  rw [Prog.bind_eq, run_bind_ok hcheck]
  exact writeAtomically_run hstaging hfree

theorem preparedRoot_nested : Nested preparedRoot := fun _ _ _ h => absurd rfl h

/-- A start and a stop of the same recording. -/
def shortStart : RecordingStartRequest where
  requestId := ascii "start-1"
  recordingId := ascii "take-1"
  canonicalJson := ascii "\x7b\x7d"

def shortStop : ByteString := ascii "\x7b \x7d"

theorem stored_requests_short : ∃ m₃,
    Activation shortStart.recordingId true
      ⟨stoppedDisk shortStart.recordingId shortStart.canonicalJson shortStop, 0, 0⟩ m₃ ∧
    RoundTrip shortStart.recordingId shortStart.canonicalJson shortStop true m₃ := by
  have hchoice : anyChoice {} := trivial
  have hserialize : serializeRecordingStartRequest shortStart = .ok shortStart.canonicalJson := by
    rfl
  have hactivated : ((activateFinalized (artifactPaths shortStart.recordingId)).run exec {}
      ⟨stoppedDisk shortStart.recordingId shortStart.canonicalJson shortStop, 0, 0⟩).1 = .ok () := by
    rfl
  have hrun : Activation shortStart.recordingId true
      ⟨stoppedDisk shortStart.recordingId shortStart.canonicalJson shortStop, 0, 0⟩ _ :=
    completes_of_run hchoice (Prod.ext hactivated rfl)
  refine ⟨_, hrun, ?_⟩
  exact (stored_requests_iff hserialize preparedRoot_nested
    (completes_of_run hchoice (createStaging_run hserialize))
    (completes_of_run hchoice writeStopRequest_run) hrun).mpr (by decide +kernel)

/-- A start request of 1048577 bytes, below the largest body that a configuration may allow. -/
def longStart : RecordingStartRequest :=
  { shortStart with canonicalJson := List.replicate 1048577 32 }

theorem stored_requests_lost : longStart.canonicalJson.length ≤ 10485760 ∧
    serializeRecordingStartRequest longStart = .ok longStart.canonicalJson ∧
    ∃ m₁ m₂, Completes exec (besides longStart.recordingId) anyChoice (createStaging longStart)
      preparedMachine (.ok (artifactPaths longStart.recordingId)) m₁ ∧
    Completes exec (besides longStart.recordingId) anyChoice
      (writeStopRequest (artifactPaths longStart.recordingId) shortStop) m₁ (.ok ()) m₂ ∧
    Finds m₂ longStart.recordingId (.error evidenceUnbounded) ∧
    ¬ RoundTrip longStart.recordingId longStart.canonicalJson shortStop false m₂ := by
  have hchoice : anyChoice {} := trivial
  have hlength : longStart.canonicalJson.length = 1048577 := List.length_replicate
  have hserialize : serializeRecordingStartRequest longStart = .ok longStart.canonicalJson := by
    unfold serializeRecordingStartRequest
    rw [if_neg (by decide +kernel), if_pos]
    intro hnil
    rw [hnil] at hlength
    cases hlength
  have hcreate : Completes exec (besides longStart.recordingId) anyChoice (createStaging longStart)
      preparedMachine _ _ := completes_of_run hchoice (createStaging_run hserialize)
  let stopped : Machine :=
    ⟨stoppedDisk longStart.recordingId longStart.canonicalJson shortStop, 0, 0⟩
  have hstop : Completes exec (besides longStart.recordingId) anyChoice
      (writeStopRequest (artifactPaths longStart.recordingId) shortStop) _ (.ok ()) stopped :=
    completes_of_run hchoice writeStopRequest_run
  have hrest : Activation longStart.recordingId false stopped stopped :=
    (besides longStart.recordingId).rely_refl stopped
  have hregistered := registered_of_calls hserialize preparedRoot_nested hcreate hstop hrest
  have hlookup := lookup_registered (serialize_ok hserialize).2 hregistered
  rw [if_pos (.inl (by rw [hlength]; decide))] at hlookup
  have hfinds := finds_iff.mpr hlookup.symm
  refine ⟨by rw [hlength]; decide, hserialize, _, stopped, hcreate, hstop, hfinds, fun hround => ?_⟩
  have hown := hround.own _ _ ((besides longStart.recordingId).rely_refl stopped) hfinds
  cases hown

end NodusVision.Guarantees
