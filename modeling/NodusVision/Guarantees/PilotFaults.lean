import NodusVision.Guarantees.PilotSessions
import NodusVision.Pilot.Pacing

/-! How the Pilot client ends, `STOPPED` unless an answer was a contract fault, and how it paces its
requests before. -/
namespace NodusVision.Guarantees
open Text Config Pilot Transition

section
variable {setup : ClientSetup}

/-- A client that was just started, in any run -/
def JustStarted (setup : ClientSetup) (c : Client) : Prop :=
  ∃ before e, Reach (· = {}) (step setup) anyStep before ∧ Restarts before e ∧
    step setup before e = some c

theorem endsStopped_justStarted {c : Client} (h : JustStarted setup c) : EndsStopped setup c := by
  obtain ⟨before, e, hreach, ⟨hstarted, identity, initialState, he⟩, hs⟩ := h
  subst he
  obtain ⟨hidle, -⟩ := pilot_disciplined hreach
  have hnone : before.worker = none := (hidle hstarted).1
  have hbefore : EndsStopped setup before := by
    refine ⟨hidle, fun htrue => ?_, fun w hw => ?_⟩
    · cases hstarted.symm.trans htrue
    · cases hnone.symm.trans hw
  apply hbefore.step hs
  intro hworker
  cases hworker

theorem endsStopped_reachable {c : Client}
    (h : Reach (JustStarted setup) (step setup) (FaultFree setup) c) : EndsStopped setup c := by
  apply h.invariant
  · intro s hs
    exact endsStopped_justStarted hs
  · intro s e t _ hi he hf
    exact hi.step he hf

theorem gaveUp_reachable {c d : Client} (hc : GaveUp c)
    (h : Reach (· = c) (step setup) (fun s e _ => ¬ Restarts s e) d) : GaveUp d := by
  apply h.invariant
  · rintro s rfl
    exact hc
  · intro s e t _ hi he hr
    exact (hi.step he hr).1

/-- A stop that returned has joined a worker that was done. -/
theorem joined {c t : Client} (henabled : setup.config.pilot.enabled = true)
    (h : EndsStopped setup c) (ht : step setup c .joinWorker = some t) :
    t.snapshot = c.snapshot ∧ ∃ w, c.worker = some w ∧ w.pc = .done := by
  simp only [step] at ht
  split at ht
  · rename_i hguard
    rw [Bool.and_eq_true, decide_eq_true_eq] at hguard
    cases ht
    have hstarted : c.started = true := by
      by_contra hfalse
      have hidle := (h.idle (by simpa using hfalse)).2
      rw [hidle] at hguard
      cases hguard.1
    obtain ⟨w, hw⟩ := h.running hstarted henabled
    refine ⟨rfl, w, hw, ?_⟩
    have hjoin := hguard.2
    rw [hw] at hjoin
    unfold isJoinable at hjoin
    split at hjoin
    · cases ‹some _ = some _›
      rfl
    · cases hjoin
    · cases ‹some _ = none›
  · cases ht

/-- After a start, a stop returns with `STOPPED` when the worker took up no contract fault. When it did,
the stop leaves `CONTRACT_FAULT`. -/
theorem stopped_unless_fault (henabled : setup.config.pilot.enabled = true) :
    (∀ c t, Reach (JustStarted setup) (step setup) (FaultFree setup) c →
      step setup c .joinWorker = some t → t.snapshot.state = .stopped) ∧
    ∀ b c d t w purpose result, b.worker = some w → w.pc = .judging purpose result →
      IsContractFault setup result purpose → step setup b .worker = some c →
      Reach (· = c) (step setup) (fun s e _ => ¬ Restarts s e) d →
      step setup d .joinWorker = some t → t.snapshot.state = .contractFault := by
  constructor
  · intro c t hc ht
    have hi := endsStopped_reachable hc
    obtain ⟨hsnapshot, w, hw, hdone⟩ := joined henabled hi ht
    rw [hsnapshot]
    exact hi.stopped w hw hdone
  · intro b c d t w purpose result hw hpc hf hs hd ht
    have hgone := gaveUp_reachable (gaveUp_of_fault hw hpc hf hs) hd
    have hkept := hgone.step ht (fun hr => by
      obtain ⟨-, _, _, he⟩ := hr
      cases he)
    exact hkept.1.1

end

def isJudging : WorkerPc → Bool
  | .judging _ _ => true
  | _ => false

/-- No answer is judged. -/
def judgesNothing (c : Client) (_ : Event) : Bool := c.worker.all fun w => !isJudging w.pc

theorem judgesNothing_sound {c c' : Client} {e : Event} (h : judgesNothing c e = true) :
    FaultFree setup c e c' := by
  intro _ w purpose result hw hpc
  unfold judgesNothing at h
  rw [hw, Option.all_some, hpc] at h
  cases h

/-- The client is stopped while it waits for the answer to its registration. -/
def unanswered : List Event :=
  workerSteps 4 ++ [.stopClient, .cancelRequest, .requestDone { status := 0 }] ++ workerSteps 2

theorem stopped_unless_fault_sample :
    ∃ c t, Reach (JustStarted samplePilot) (step samplePilot) (FaultFree samplePilot) c ∧
      step samplePilot c .joinWorker = some t ∧ t.snapshot.state = .stopped := by
  have h0 : Reach (JustStarted samplePilot) (step samplePilot) (FaultFree samplePilot)
      (startClient samplePilot {} sampleIdentity .ready) := by
    refine .start ⟨{}, .startClient sampleIdentity .ready, .start rfl, ?_, ?_⟩
    · exact ⟨rfl, sampleIdentity, .ready, rfl⟩
    · have hvalid : (isInstanceIdValid sampleIdentity.instanceId &&
          decide (sampleIdentity.startedAtNs ≤ maxInt64Value)) = true := by decide
      simp only [step, hvalid]
      rfl
  have hrun : (runEvents (step samplePilot) judgesNothing
      (startClient samplePilot {} sampleIdentity .ready) unanswered).any
      (fun c => (step samplePilot c .joinWorker).isSome) = true := by decide +kernel
  have hcheck : ∀ s e t, judgesNothing s e = true → step samplePilot s e = some t →
      FaultFree samplePilot s e t := fun s e t hc _ => judgesNothing_sound hc
  obtain ⟨c, hc, hjoin⟩ := h0.exists_run hcheck hrun
  obtain ⟨t, ht⟩ := Option.isSome_iff_exists.mp hjoin
  exact ⟨c, t, hc, ht, (stopped_unless_fault (by decide)).1 c t hc ht⟩

/-- The registration is rejected with 400 before the client is stopped. -/
def rejected : List Event :=
  [.startClient sampleIdentity .ready] ++ workerSteps 4 ++ [.requestDone { status := 400 }] ++
    workerSteps 2 ++ [.stopClient, .cancelRequest]

theorem stopped_rejected :
    ¬ ∀ setup : ClientSetup, setup.config.pilot.enabled = true →
      ∀ c t, Reach (· = {}) (step setup) anyStep c → step setup c .joinWorker = some t →
        t.snapshot.state = .stopped := by
  intro h
  have h0 : Reach (· = {}) (step samplePilot) anyStep ({} : Client) := .start rfl
  have hrun : (runEvents (step samplePilot) (fun _ _ => true) {} rejected).any
      (fun c => (step samplePilot c .joinWorker).any fun t =>
        t.snapshot.state == .contractFault) = true := by decide +kernel
  obtain ⟨c, hc, hjoin⟩ := h0.exists_run (fun _ _ _ _ _ => trivial) hrun
  obtain ⟨t, ht, hfault⟩ := (Option.any_eq_true _ _).mp hjoin
  have hstopped := h samplePilot (by decide) c t hc ht
  rw [hstopped] at hfault
  cases hfault

section
variable {setup : ClientSetup}

/-- What the trace of the client in time shows. -/
structure IsPaced (setup : ClientSetup) (s : Paced) : Prop where
  /-- Nothing follows a contract fault before the next start. -/
  absorbed : ∀ purpose result, .judged purpose result ∈ s.beats →
    IsContractFault setup result purpose →
      (∃ earlier, s.beats = .judged purpose result :: earlier) ∧
        s.client.snapshot.state = .contractFault
  /-- Between two requests of one kind lies a wait that was not cut. -/
  spaced : ∀ kind ∈ [PilotMessage.isRegister, PilotMessage.isCatalog],
    ∀ later between first earlier, .sent later :: (between ++ .sent first :: earlier) <:+ s.beats →
      kind later = true → kind first = true →
      ∃ wait ended, .waited wait ended false ∈ between ∧
        min setup.config.pilot.retryMaxDelayMs setup.config.pilot.retryInitialDelayMs * 1000000 ≤
          ended - wait.started
  waits : ∀ wait ended cut earlier, .waited wait ended cut :: earlier <:+ s.beats →
    wait.delayMs = cappedDelay setup wait.retryCount ∧
    (cut = false → wait.deadline ≤ ended) ∧ (cut = true → s.client.stopRequested = true) ∧
    (wait.loop = .registration → wait.retryCount = registrationWaits setup earlier + 1)

theorem waited_between {kind : PilotMessage → Bool} {between earlier : List Beat}
    {message : PilotMessage} (h : Quiet kind (between ++ .sent message :: earlier))
    (hm : kind message = true) : ∃ wait ended, .waited wait ended false ∈ between := by
  induction between with
  | nil => exact absurd (hm.symm.trans h.1) Bool.true_eq_false_eq_False
  | cons beat between ih =>
    cases beat with
    | sent other =>
      obtain ⟨wait, ended, hw⟩ := ih h.2
      exact ⟨wait, ended, List.mem_cons_of_mem _ hw⟩
    | judged purpose result =>
      obtain ⟨wait, ended, hw⟩ := ih h
      exact ⟨wait, ended, List.mem_cons_of_mem _ hw⟩
    | waited wait ended cut =>
      cases cut with
      | true =>
        obtain ⟨wait, ended, hw⟩ := ih h
        exact ⟨wait, ended, List.mem_cons_of_mem _ hw⟩
      | false => exact ⟨wait, ended, List.mem_cons_self⟩

theorem cappedDelay_ge {retryCount : ℕ} (h : 0 ≤ setup.config.pilot.retryInitialDelayMs) :
    min setup.config.pilot.retryMaxDelayMs setup.config.pilot.retryInitialDelayMs ≤
      cappedDelay setup retryCount := by
  have hpow : (0 : ℤ) < 2 ^ min (retryCount - 1) 10 := Int.pow_pos (by decide)
  have hmul := Int.mul_le_mul_of_nonneg_left hpow h
  rw [Int.zero_add, Int.mul_one] at hmul
  unfold cappedDelay
  omega

/-- A wait that was not cut lasts at least the shorter of the two delays. -/
theorem waited_long {wait : RetryWait} {ended : ℤ} (hdelay : wait.delayMs = cappedDelay setup wait.retryCount)
    (hstarted : wait.started ≤ ended) (hdue : wait.deadline ≤ ended) :
    min setup.config.pilot.retryMaxDelayMs setup.config.pilot.retryInitialDelayMs * 1000000 ≤
      ended - wait.started := by
  unfold RetryWait.deadline at hdue
  rw [hdelay] at hdue
  by_cases hinitial : 0 ≤ setup.config.pilot.retryInitialDelayMs
  · have hge := @cappedDelay_ge setup wait.retryCount hinitial
    omega
  · have hle := min_le_right setup.config.pilot.retryMaxDelayMs
      setup.config.pilot.retryInitialDelayMs
    omega

theorem pacing_reachable {s : Paced} (h : Reach Paced.IsInitial (Paced.step setup) anyStep s) :
    Pacing setup s := by
  have hboth : Pacing setup s ∧ s.client.Idle ∧ Discipline setup s.client := by
    refine ⟨?_, pilot_disciplined (Paced.client_reachable h)⟩
    apply h.invariant
    · rintro s ⟨hclient, hwaiting, hbeats⟩
      obtain ⟨client, now, waiting, beats⟩ := s
      cases hclient
      cases hwaiting
      cases hbeats
      exact @pacing_started setup { now := now } {} (fun w hw => by cases hw)
    · intro s event t hs hi ht _
      obtain ⟨hidle, hd⟩ := pilot_disciplined (Paced.client_reachable hs)
      exact pacing_step hi hidle hd ht
  exact hboth.1

/-- Contract faults absorb, and retries are paced, whatever Pilot answers. -/
theorem pilot_paced (s : Paced) (h : Reach Paced.IsInitial (Paced.step setup) anyStep s) :
    IsPaced setup s := by
  have hp := pacing_reachable h
  constructor
  · intro purpose result hm hf
    obtain ⟨hlast, hgone⟩ := hp.faults purpose result hm hf
    exact ⟨hlast, hgone.1⟩
  · intro kind hkind later between first earlier hs hlater hfirst
    have hquiet : Quiet kind (between ++ .sent first :: earlier) := by
      have hfollows := hp.beats _ _ hs
      rcases List.mem_pair.mp hkind with rfl | rfl
      · exact hfollows.1 hlater
      · exact hfollows.2 hlater
    obtain ⟨wait, ended, hw⟩ := waited_between hquiet hfirst
    obtain ⟨newer, older, hsplit⟩ := List.append_of_mem hw
    have hwait := hp.beats (.waited wait ended false) (older ++ .sent first :: earlier) (by
      refine List.IsSuffix.trans ⟨.sent later :: newer, ?_⟩ hs
      rw [hsplit]
      simp)
    exact ⟨wait, ended, hw, waited_long hwait.1 hwait.2.1 (hwait.2.2.1 rfl)⟩
  · intro wait ended cut earlier hs
    have hwait := hp.beats _ _ hs
    exact ⟨hwait.1, hwait.2.2.1, hwait.2.2.2.1, hwait.2.2.2.2⟩

end

/-- Two registrations are answered 503 and a third 400. -/
def samplePaced : List Paced.Event :=
  let attempt (status : ℕ) : List Paced.Event :=
    List.replicate 4 (.client .worker) ++ [.client (.requestDone { status := status })]
  [.client (.startClient sampleIdentity .ready)] ++ attempt 503 ++
    List.replicate 3 (.client .worker) ++ [.elapse 60000000000] ++ attempt 503 ++
    List.replicate 3 (.client .worker) ++ [.elapse 60000000000] ++ attempt 400 ++
    List.replicate 2 (.client .worker)

theorem pilot_paced_sample : ∃ s : Paced,
    (s.beats.length = 8 ∧ s.client.snapshot.state = .contractFault) ∧ IsPaced samplePilot s := by
  have h0 : Reach Paced.IsInitial (Paced.step samplePilot) anyStep ({} : Paced) :=
    .start ⟨rfl, rfl, rfl⟩
  have hrun : (runEvents (Paced.step samplePilot) (fun _ _ => true) {} samplePaced).any
      (fun s => s.beats.length = 8 ∧ s.client.snapshot.state = .contractFault) = true := by
    decide +kernel
  obtain ⟨s, hs, ht⟩ := h0.exists_run (fun _ _ _ _ _ => trivial) hrun
  exact ⟨s, of_decide_eq_true ht, pilot_paced s hs⟩

end NodusVision.Guarantees
