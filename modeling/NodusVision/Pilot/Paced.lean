import NodusVision.Pilot.Faults

/-! The Pilot client with the clock that its retries wait on. -/
namespace NodusVision.Pilot
open Text Transition

/-- In milliseconds: the initial delay, doubled up to ten times, and at most the maximal one. -/
def cappedDelay (setup : ClientSetup) (retryCount : ℕ) : ℤ :=
  min setup.config.pilot.retryMaxDelayMs
    (setup.config.pilot.retryInitialDelayMs * 2 ^ min (retryCount - 1) 10)

inductive RetryLoop where
  | registration
  | catalog
  deriving DecidableEq

/-- A `wait_for` of the worker; times are of the steady clock, in nanoseconds. -/
structure RetryWait where
  loop : RetryLoop
  retryCount : ℕ
  started : ℤ
  delayMs : ℤ

def RetryWait.deadline (wait : RetryWait) : ℤ := wait.started + wait.delayMs * 1000000

/-- What the worker does in time; a wait is cut when it ends before its deadline. -/
inductive Beat where
  | sent (message : PilotMessage)
  | judged (purpose : Purpose) (result : PilotHttpResult)
  | waited (wait : RetryWait) (ended : ℤ) (cut : Bool)

/-- `beats` is kept since the last start, the newest first. -/
structure Paced where
  client : Client := {}
  now : ℤ := 0
  waiting : Option RetryWait := none
  beats : List Beat := []

namespace Paced

inductive Event where
  | client (event : Pilot.Event)
  | elapse (duration : ℕ)

/-- The wait that follows the step of the worker. -/
def begins (setup : ClientSetup) (now : ℤ) (w : Worker) : Option RetryWait :=
  match w.pc with
  | .retrying => some
    { loop := .registration
      retryCount := w.retryCount + 1
      started := now
      delayMs := cappedDelay setup (w.retryCount + 1) }
  | .judging (.catalog publication) result =>
    if judgeCatalog setup publication.serverInstanceId result = .retry then some
      { loop := .catalog
        retryCount := publication.retryCount + 1
        started := now
        delayMs := cappedDelay setup (publication.retryCount + 1) }
    else none
  | _ => none

/-- What the trace keeps of the step of the worker. -/
def noted (w : Worker) : List Beat :=
  match w.pc with
  | .starting _ message => [.sent message]
  | .judging purpose result => [.judged purpose result]
  | _ => []

/-- The wait that the step of the worker comes after. -/
def ended (s : Paced) : List Beat :=
  match s.waiting with
  | some wait => [.waited wait s.now (decide (s.now < wait.deadline))]
  | none => []

/-- Only the deadline and the stop flag end a wait. -/
def isHeld (s : Paced) : Bool :=
  s.waiting.any fun wait => decide (s.now < wait.deadline) && !s.client.stopRequested

def isRestart (c : Client) : Pilot.Event → Bool
  | .startClient _ _ => !c.started
  | _ => false

def workerMoved (setup : ClientSetup) (s : Paced) (w : Worker) (c : Client) : Paced :=
  { s with
    client := c
    waiting := begins setup s.now w
    beats := noted w ++ s.ended ++ s.beats }

def step (setup : ClientSetup) (s : Paced) : Event → Option Paced
  | .elapse duration => some { s with now := s.now + duration }
  | .client .worker =>
    if s.isHeld then none
    else s.client.worker.bind fun w => (workerStep setup s.client w).map (s.workerMoved setup w)
  | .client event =>
    (Pilot.step setup s.client event).map fun c =>
      if isRestart s.client event then { s with client := c, waiting := none, beats := [] }
      else { s with client := c }

def IsInitial (s : Paced) : Prop := s.client = {} ∧ s.waiting = none ∧ s.beats = []

/-- A step of the clock or a step of the client. -/
theorem step_client {setup : ClientSetup} {s t : Paced} {event : Event}
    (h : step setup s event = some t) :
    t.client = s.client ∨ ∃ e, Pilot.step setup s.client e = some t.client := by
  cases event with
  | elapse duration =>
    cases h
    exact .inl rfl
  | client e =>
    right
    refine ⟨e, ?_⟩
    cases e with
    | worker =>
      simp only [step] at h
      split at h
      · cases h
      · obtain ⟨w, hw, h⟩ := Option.bind_eq_some_iff.mp h
        obtain ⟨c, hc, rfl⟩ := Option.map_eq_some_iff.mp h
        simp only [Pilot.step, hw, Option.bind_some]
        exact hc
    | startClient | updateProviderState | stopClient | cancelRequest | joinWorker | requestDone =>
      obtain ⟨c, hc, ht⟩ := Option.map_eq_some_iff.mp h
      rw [hc, ← ht]
      split <;> rfl

/-- The clock adds nothing to what the client can do. -/
theorem client_reachable {setup : ClientSetup} {s : Paced}
    (h : Reach IsInitial (step setup) anyStep s) :
    Reach (· = {}) (Pilot.step setup) anyStep s.client := by
  induction h with
  | start h => exact .start h.1
  | next _ he _ ih =>
    rcases step_client he with heq | ⟨e, hs⟩
    · rw [heq]
      exact ih
    · exact ih.next hs trivial

end Paced

def PilotMessage.isRegister : PilotMessage → Bool
  | .register _ => true
  | _ => false

def PilotMessage.isCatalog : PilotMessage → Bool
  | .catalog _ _ _ => true
  | _ => false

/-- No message of a kind was sent since the last wait that was not cut. -/
def Quiet (kind : PilotMessage → Bool) : List Beat → Prop
  | [] | .waited _ _ false :: _ => True
  | .sent message :: earlier => kind message = false ∧ Quiet kind earlier
  | .waited _ _ true :: earlier | .judged _ _ :: earlier => Quiet kind earlier

/-- The answer accepts a catalog. -/
def isPublished (setup : ClientSetup) (result : PilotHttpResult) : Purpose → Bool
  | .catalog publication =>
    match judgeCatalog setup publication.serverInstanceId result with
    | .published _ => true
    | _ => false
  | _ => false

/-- How many waits of the registration loop ended since a catalog was accepted. -/
def registrationWaits (setup : ClientSetup) : List Beat → ℕ
  | [] => 0
  | .sent _ :: earlier => registrationWaits setup earlier
  | .judged purpose result :: earlier =>
    if isPublished setup result purpose then 0 else registrationWaits setup earlier
  | .waited wait _ _ :: earlier =>
    registrationWaits setup earlier + if wait.loop = .registration then 1 else 0

/-- What a beat comes after. -/
def Beat.Follows (setup : ClientSetup) (stopRequested : Bool) (earlier : List Beat) : Beat → Prop
  | .sent message =>
    (message.isRegister = true → Quiet PilotMessage.isRegister earlier) ∧
      (message.isCatalog = true → Quiet PilotMessage.isCatalog earlier)
  | .judged _ _ => True
  | .waited wait ended cut =>
    wait.delayMs = cappedDelay setup wait.retryCount ∧ wait.started ≤ ended ∧
      (cut = false → wait.deadline ≤ ended) ∧ (cut = true → stopRequested = true) ∧
      (wait.loop = .registration → wait.retryCount = registrationWaits setup earlier + 1)

/-- Every beat follows the earlier ones. -/
def InStep (setup : ClientSetup) (stopRequested : Bool) (beats : List Beat) : Prop :=
  ∀ beat earlier, beat :: earlier <:+ beats → beat.Follows setup stopRequested earlier

theorem InStep.cons {setup : ClientSetup} {stopRequested : Bool} {beats : List Beat} {beat : Beat}
    (h : InStep setup stopRequested beats) (hb : beat.Follows setup stopRequested beats) :
    InStep setup stopRequested (beat :: beats) := by
  intro other earlier hs
  rcases List.suffix_cons_iff.mp hs with he | hs
  · cases he
    exact hb
  · exact h other earlier hs

theorem InStep.stopped {setup : ClientSetup} {stopRequested : Bool} {beats : List Beat}
    (h : InStep setup stopRequested beats) : InStep setup true beats := by
  intro beat earlier hs
  have hb := h beat earlier hs
  cases beat with
  | sent message => exact hb
  | judged purpose result => exact hb
  | waited wait ended cut => exact ⟨hb.1, hb.2.1, hb.2.2.1, fun _ => rfl, hb.2.2.2.2⟩

def countsRegistration : Option RetryWait → ℕ
  | some wait => if wait.loop = .registration then 1 else 0
  | none => 0

theorem registrationWaits_ended {setup : ClientSetup} {s : Paced} :
    registrationWaits setup (s.ended ++ s.beats) =
      registrationWaits setup s.beats + countsRegistration s.waiting := by
  unfold Paced.ended
  cases s.waiting <;> rfl

/-- A wait that is over, with the stop flag clear, was not cut. -/
theorem quiet_ended {kind : PilotMessage → Bool} {s : Paced}
    (h : s.waiting = none → Quiet kind s.beats) (hheld : s.isHeld = false)
    (hstop : s.client.stopRequested = false) : Quiet kind (s.ended ++ s.beats) := by
  unfold Paced.ended
  cases hw : s.waiting with
  | none => exact h hw
  | some wait =>
    have hdue : ¬ s.now < wait.deadline := by
      unfold Paced.isHeld at hheld
      rw [hw, Option.any_some, hstop] at hheld
      simpa using hheld
    simp only [decide_eq_false hdue]
    trivial

/-- What the trace says where the worker is. -/
def Worker.Paces (s : Paced) (w : Worker) : Prop :=
  match w.pc with
  | .loop =>
    (∀ wait, s.waiting = some wait → wait.loop = .registration) ∧
      (s.waiting = none → Quiet PilotMessage.isRegister s.beats ∧
        Quiet PilotMessage.isCatalog s.beats)
  | .registering | .readingState | .starting (.register _) _ =>
    s.waiting = none ∧ Quiet PilotMessage.isRegister s.beats ∧
      Quiet PilotMessage.isCatalog s.beats
  | .awaiting (.register _) | .answered (.register _) _ | .judging (.register _) _
  | .starting (.catalog _) _ =>
    s.waiting = none ∧ Quiet PilotMessage.isCatalog s.beats
  | .catalogLoop _ =>
    (∀ wait, s.waiting = some wait → wait.loop = .catalog) ∧
      (s.waiting = none → Quiet PilotMessage.isCatalog s.beats)
  | _ => s.waiting = none

/-- The retry count of the worker, which it resets some steps after a catalog was accepted. -/
def Worker.Counts (setup : ClientSetup) (s : Paced) (w : Worker) : Prop :=
  match w.pc with
  | .goingOnline => registrationWaits setup s.beats = 0
  | _ =>
    registrationWaits setup s.beats + countsRegistration s.waiting = w.retryCount ∧
      ∀ wait, s.waiting = some wait → wait.loop = .registration → wait.retryCount = w.retryCount

/-- What the pace of the worker rests on. -/
structure Pacing (setup : ClientSetup) (s : Paced) : Prop where
  beats : InStep setup s.client.stopRequested s.beats
  waiting : ∀ wait, s.waiting = some wait →
    wait.delayMs = cappedDelay setup wait.retryCount ∧ wait.started ≤ s.now
  paces : ∀ w, s.client.worker = some w → w.Paces s
  counts : ∀ w, s.client.worker = some w → w.Counts setup s
  faults : ∀ purpose result, .judged purpose result ∈ s.beats →
    IsContractFault setup result purpose →
      (∃ earlier, s.beats = .judged purpose result :: earlier) ∧ GaveUp s.client

end NodusVision.Pilot
