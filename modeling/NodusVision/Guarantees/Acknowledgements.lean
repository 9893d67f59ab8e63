import NodusVision.Guarantees.Scenario
import NodusVision.Manager.Acknowledged

/-! What an acknowledged start or stop means, however often the recorder ends in between. -/
namespace NodusVision.Guarantees
open Text Storage Disk Program Recording RecordingStore Manager Transition

/-- Every request that was ever acknowledged is on the disk, and it is the only one of its kind for
its recording. -/
structure Durable (setup : Setup) (s : System) : Prop where
  started : ∀ request result, .start request (.ok result) ∈ s.history.returns →
    ∃ canonical, serializeRecordingStartRequest request = .ok canonical ∧
      RequestStored s.machine.disk request.recordingId .startRequest canonical
  stopped : ∀ request result, .stop request (.ok result) ∈ s.history.returns →
    RequestStored s.machine.disk request.recordingId .stopRequest (canonicalStop request)
  startsAgree : ∀ request other result result', .start request (.ok result) ∈ s.history.returns →
    .start other (.ok result') ∈ s.history.returns → request.recordingId = other.recordingId →
      serializeRecordingStartRequest request = serializeRecordingStartRequest other
  stopsAgree : ∀ request other result result', .stop request (.ok result) ∈ s.history.returns →
    .stop other (.ok result') ∈ s.history.returns → request.recordingId = other.recordingId →
      canonicalStop request = canonicalStop other
  stays : ∀ e t recordingId file contents, IsRequestFile file → s.step setup e = some t →
    RequestStored s.machine.disk recordingId file contents →
      RequestStored t.machine.disk recordingId file contents

/-- In every state of every run: any calls, frames and clocks, any failing file operation, and any
number of crashes. -/
theorem acknowledgements_durable {setup : Setup} {s : System}
    (h : Reach (IsInitial setup) (System.step setup) anyStep s) : Durable setup s := by
  have hk := control_reachable h
  have hs := storage_reachable h
  have hwf := hs.wellFormed
  have hall := acknowledged_reachable h
  have hstarted : ∀ request result, .start request (.ok result) ∈ s.history.returns →
      ∃ canonical, serializeRecordingStartRequest request = .ok canonical ∧
        RequestStored s.machine.disk request.recordingId .startRequest canonical :=
    fun request result hmem => hall _ hmem
  have hstopped : ∀ request result, .stop request (.ok result) ∈ s.history.returns →
      RequestStored s.machine.disk request.recordingId .stopRequest (canonicalStop request) :=
    fun request result hmem => (hall _ hmem).2
  constructor
  · exact hstarted
  · exact hstopped
  · intro request other result result' hmem hmem' hid
    obtain ⟨canonical, hc, hstored⟩ := hstarted request result hmem
    obtain ⟨canonical', hc', hstored'⟩ := hstarted other result' hmem'
    rw [← hid] at hstored'
    rw [hc, hc', hstored.unique hstored' hwf]
  · intro request other result result' hmem hmem' hid
    have hstored' := hstopped other result' hmem'
    rw [← hid] at hstored'
    exact (hstopped request result hmem).unique hstored' hwf
  · intro e t recordingId file contents hf he hstored
    exact hstored.lawful hf hwf (step_next hk hs he).lawful

/-- A recording is started and stopped, the process ends, and the next one is asked to start it. -/
def startedAgain : List Event :=
  [.call (.start (request "start-1" "take-1"))] ++ calls 58 ++
    [.call (.stop (request "stop-1" "take-1"))] ++ calls 29 ++
    [.crash, .call (.start (request "start-1" "take-1"))] ++ calls 21

def Return.isAcknowledgement : Return → Bool
  | .start _ (.ok _) | .stop _ (.ok _) => true
  | _ => false

set_option maxRecDepth 100000 in
theorem acknowledgements_durable_started_again : ∃ s : System,
    s.history.returns.countP Return.isAcknowledgement = 3 ∧ Durable sampleSetup s := by
  have hrun : (runEvents (System.step sampleSetup) (fun _ _ => true) sampleStart startedAgain).any
      (fun s => decide (s.history.returns.countP Return.isAcknowledgement = 3)) = true := by
    decide +kernel
  obtain ⟨s, hs, htest⟩ := sample_reach anyStep (fun _ => true) _ (fun _ _ _ _ => trivial) _ hrun
  exact ⟨s, of_decide_eq_true htest, acknowledgements_durable hs⟩

end NodusVision.Guarantees
