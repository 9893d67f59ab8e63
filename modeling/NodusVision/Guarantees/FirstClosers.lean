import NodusVision.Application.RecordingRequests
import NodusVision.Guarantees.Scenario
import NodusVision.Manager.Acknowledged
import NodusVision.Manager.Sealed

/-! Of a client stop, the longest duration and the shutdown, the one that comes first closes a
recording. -/
namespace NodusVision.Guarantees
open Text Storage Disk Program Recording RecordingStore Manager Transition Application

/-- A stop as `post_recording_stop` hands it over. -/
def ParsedStop (parse : JsonParser) (request : RecordingStartRequest) : Prop :=
  ∃ body, parseRecordingStopRequest parse body = .ok request

/-- The stops of the run came in through the route. -/
def StopsParsed (parse : JsonParser) (_ : System) (e : Event) (_ : System) : Prop :=
  ∀ request, e = .call (.stop request) → ParsedStop parse request

/-- A recording is closed once in all runs of the recorder, and from then on it takes no frame; the
evidence on the disk, the ledger in memory and every acknowledged stop are those of its closer. -/
structure FirstCloserWins (setup : Setup) (s : System) : Prop where
  once : s.history.begun.Nodup
  begun : ∀ r, s.history.closed = some r → r.recordingId ∈ s.history.begun
  refuses : ∀ frame t, s.impl.recordingId ∈ s.history.begun →
    s.step setup (.submit frame) = some t →
      t.impl.queue = s.impl.queue ∧ t.history.admitted = s.history.admitted
  stored : ∀ r, s.history.closed = some r →
    RequestStored s.machine.disk r.recordingId .stopRequest (r.closer.evidence r.recordingId)
  ledger : ∀ r, s.history.closed = some r → s.impl.recordingId = r.recordingId →
    s.impl.stop = r.closer.ledger
  acknowledged : ∀ r request result, s.history.closed = some r →
    .stop request (.ok result) ∈ s.history.returns → request.recordingId = r.recordingId →
      r.closer = .requested request
  lasts : ∀ e t r, s.step setup e = some t → s.history.closed = some r →
    t.history.closed = some r ∨ (∃ request, e = .call (.start request)) ∨ e = .crash ∨
      ∃ c p, e = .callStep c ∧ s.holder = some (.destroying p)

section
variable {parse : JsonParser} {request other : RecordingStartRequest}

/-- The evidence of a parsed stop is its body. -/
theorem canonicalStop_parsed (hreads : ReadsJson parse) {body : ByteString}
    (h : parseRecordingStopRequest parse body = .ok request) :
    canonicalStop request = body := by
  obtain ⟨hbody, object, hparse, -⟩ := parseRecordingStopRequest_eq_ok.mp h
  have hne : request.canonicalJson ≠ [] := by
    intro hnil
    rw [← hbody, hnil, hreads.empty] at hparse
    cases hparse
  rw [canonicalStop, if_neg hne, hbody]

theorem parsed_injective (hreads : ReadsJson parse) (h : ParsedStop parse request)
    (h' : ParsedStop parse other) (htext : canonicalStop request = canonicalStop other) : request = other := by
  obtain ⟨body, hbody⟩ := h
  obtain ⟨body', hbody'⟩ := h'
  rw [canonicalStop_parsed hreads hbody, canonicalStop_parsed hreads hbody'] at htext
  rw [htext] at hbody
  exact Except.ok.inj (hbody.symm.trans hbody')

theorem isAscii_of_lt {bytes : ByteString} (h : ∀ b ∈ bytes, b.toNat < 128) :
    (JsonValue.string bytes).isAscii = true := by
  rw [JsonValue.isAscii, List.all_eq_true]
  intro b hb
  exact decide_eq_true (h b hb)

/-- The component's own evidence is read back. -/
theorem internalStop_parsed (hreads : ReadsJson parse) {recordingId : ByteString}
    (hvalid : isRecordingIdValid recordingId = true) (reason : RecordingStopReason) :
    parse (serializeInternalStopEvidence recordingId reason) =
      some (.object (objectOf (internalStopMembers recordingId reason))) := by
  have hid : (JsonValue.string recordingId).isAscii = true :=
    isAscii_of_lt fun b hb => recordingId_ascii hvalid hb
  have hname : (JsonValue.string (getRecordingStopReasonName reason)).isAscii = true := by
    cases reason <;> decide
  have hascii : (JsonValue.object (objectOf (internalStopMembers recordingId reason))).isAscii =
      true := by
    have hkeys : ["schema_version", "recording_id", "stop_reason"].all
        (fun key => (ascii key).all (· < 128)) = true := by decide
    simp only [List.all_cons, List.all_nil, Bool.and_eq_true, Bool.and_true] at hkeys
    simp only [objectOf, internalStopMembers, List.map_cons, List.map_nil, JsonValue.isAscii,
      membersAreAscii, hkeys, Bool.and_true] at hid hname ⊢
    rw [hid, hname]
    rfl
  rw [internalStop_text hvalid reason fun _ => []]
  exact hreads.serialized _ _ rfl (internalStopMembers_unique recordingId reason) hascii
    (show (2 : ℕ) ≤ 32 by decide)

/-- The component's own evidence has no request id. -/
theorem parsed_ne_internal (hreads : ReadsJson parse) {recordingId : ByteString}
    {reason : RecordingStopReason} (h : ParsedStop parse request)
    (hvalid : isRecordingIdValid recordingId = true) :
    canonicalStop request ≠ serializeInternalStopEvidence recordingId reason := by
  obtain ⟨body, hbody⟩ := h
  obtain ⟨-, object, hparse, -, -, hrequest, -⟩ := parseRecordingStopRequest_eq_ok.mp hbody
  intro htext
  rw [canonicalStop_parsed hreads hbody] at htext
  rw [htext, internalStop_parsed hreads hvalid] at hparse
  cases hparse
  have habsent : ascii "request_id" ∉
      ["schema_version", "recording_id", "stop_reason"].map ascii := by decide
  have hmem := mem_keys_iff.mpr ⟨_, hrequest⟩
  simp only [objectOf, internalStopMembers, List.map_cons, List.map_nil] at hmem habsent
  exact habsent hmem

theorem parsed_tells (hreads : ReadsJson parse) : Lifecycle.Tells (ParsedStop parse) := by
  constructor
  · intro request other h h' htext
    rw [parsed_injective hreads h h' htext]
  · intro request reason h hvalid
    exact parsed_ne_internal hreads h hvalid

end

/-- In every run whose stops are parsed bodies: any calls, frames and clocks, any failing file
operation, and any number of crashes. -/
theorem first_closer_wins {parse : JsonParser} (hreads : ReadsJson parse) {setup : Setup} {s : System}
    (h : Reach (IsInitial setup) (System.step setup) (StopsParsed parse) s) :
    FirstCloserWins setup s := by
  have hk := control_reachable h
  have hs := storage_reachable h
  have hkeeps : KeepsRecord (ParsedStop parse) s := keepsRecord_reachable (parsed_tells hreads) h
  have hrecorded := hkeeps.recorded
  have honce := begunOnce_reachable h
  have hstored : ∀ r, s.history.closed = some r →
      RequestStored s.machine.disk r.recordingId .stopRequest (r.closer.evidence r.recordingId) :=
    fun r hr => hrecorded.evidence r hr
  constructor
  · exact honce.nodup
  · exact hrecorded.begun
  · intro frame t hbegun he
    have hnot : s.impl.state ≠ .recording := fun hr => (honce.recording hr).1 hbegun
    simp only [System.step] at he
    split at he <;> cases he
    rw [System.submit, if_pos hnot]
    exact ⟨rfl, rfl⟩
  · exact hstored
  · exact hrecorded.ledger
  · intro r request result hr hmem hid
    have hrequest : ParsedStop parse request := answered_stops h request (.ok result) hmem
    obtain ⟨hv, hack⟩ := acknowledged_reachable h _ hmem
    have hvalid : isRecordingIdValid r.recordingId = true := by
      rw [← hid]
      exact (Bool.and_eq_true_iff.mp hv).2
    rw [hid] at hack
    have htext := (hstored r hr).unique hack hs.wellFormed
    obtain ⟨recordingId, closer⟩ := r
    cases closer with
    | requested other =>
      have hother : ParsedStop parse other := hrecorded.requested _ other hr rfl
      rw [parsed_injective hreads hother hrequest htext]
    | maxDuration => exact absurd htext.symm (parsed_ne_internal hreads hrequest hvalid)
    | applicationShutdown => exact absurd htext.symm (parsed_ne_internal hreads hrequest hvalid)
  · intro e t r he hr
    exact closed_ends hk hs hkeeps.shut he hr

def stopBody : ByteString :=
  ascii "\x7b\"schema_version\":1,\"request_id\":\"stop-1\",\"recording_id\":\"take-1\"\x7d"

def bodyStop : RecordingStartRequest := ⟨ascii "stop-1", ascii "take-1", stopBody⟩

def stopsByBody : Event → Bool
  | .call (.stop request) => request == bodyStop
  | _ => true

theorem stopsByBody_sound (s : System) (e : Event) (t : System) (h : stopsByBody e = true) :
    StopsParsed (parseJson fun _ => 0) s e t := by
  rintro request rfl
  have hbody : parseRecordingStopRequest (parseJson fun _ => 0) stopBody = .ok bodyStop := by rfl
  exact ⟨stopBody, eq_of_beq h ▸ hbody⟩

/-- A recording is started and stopped. -/
def stoppedByBody : List Event :=
  [.call (.start (request "start-1" "take-1"))] ++ calls 58 ++ [.call (.stop bodyStop)] ++ calls 29

set_option maxRecDepth 100000 in
theorem first_closer_wins_stopped : ∃ s : System,
    s.history.closed.map (fun r => r.closer) = some (.requested bodyStop) ∧
      FirstCloserWins sampleSetup s := by
  have hrun : (runEvents (System.step sampleSetup) (fun _ e => stopsByBody e) sampleStart
      stoppedByBody).any (fun s =>
        decide (s.history.closed.map (fun r => r.closer) = some (.requested bodyStop))) = true := by
    decide +kernel
  obtain ⟨s, hs, htest⟩ := Reach.exists_run (fun s e t hc _ => stopsByBody_sound s e t hc)
    (Reach.start sampleStart_isInitial) hrun
  exact ⟨s, of_decide_eq_true htest, first_closer_wins (parseJson_reads _) hs⟩

end NodusVision.Guarantees
