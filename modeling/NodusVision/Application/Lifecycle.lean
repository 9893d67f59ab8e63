import NodusVision.Transition.Reach
import NodusVision.Pilot.Messages

/-! Starting and stopping the application while its capture thread runs. -/
namespace NodusVision.Application
open Text Storage Pilot Transition

/-- The fields of `ProviderHealthSnapshot` that the application writes itself. -/
structure ProviderHealth where
  state : ProviderState := .starting
  listening : Bool := false
  lastError : ByteString := []

/-- Where the owner is inside `startApplication` or `stopApplication`. -/
inductive OwnerPoint where
  | idle
  | preparing
  | connecting
  | spawning
  | creatingPilot
  | startingPilot
  | notifying
  | joining
  | releasing
  deriving DecidableEq

/-- `startApplication` holds `m_mutex` until it returns. -/
def OwnerPoint.holdsMutex : OwnerPoint → Bool
  | .preparing | .connecting | .spawning | .creatingPilot | .startingPilot => true
  | .idle | .notifying | .joining | .releasing => false

inductive CapturePoint where
  | loop
  | reading
  | caught
  | failing
  | notifying
  | ended
  deriving DecidableEq

/-- What the application does that the provider state can be followed by. -/
inductive Notice where
  | startApplication
  | healthState (state : ProviderState)
  | updateProviderState (state : ProviderState)
  deriving DecidableEq

/-- One thread owns the application and makes its calls in turn. The trace is newest first. -/
structure Lifecycle where
  health : ProviderHealth := {}
  started : Bool := false
  stopRequested : Bool := false
  hasPilotClient : Bool := false
  capture : Option CapturePoint := none
  owner : OwnerPoint := .idle
  trace : List Notice := []

inductive LifecycleEvent where
  | startApplication
  | stopApplication
  | owner (succeeds : Bool)
  | capture (succeeds : Bool)
  deriving DecidableEq

namespace Lifecycle

def setState (s : Lifecycle) (state : ProviderState) : Lifecycle :=
  { s with health := { s.health with state }, trace := .healthState state :: s.trace }

def setError (s : Lifecycle) (text : ByteString) : Lifecycle :=
  { s with health := { s.health with lastError := text } }

def updateProviderState (s : Lifecycle) (state : ProviderState) : Lifecycle :=
  if s.hasPilotClient then { s with trace := .updateProviderState state :: s.trace } else s

def startApplication (s : Lifecycle) : Option Lifecycle :=
  if s.owner ≠ .idle then none
  else if s.started then some s
  else
    some { s with
      stopRequested := false
      health := {}
      owner := .preparing
      trace := .startApplication :: s.trace }

/-- The handler around the camera and the two threads -/
def startDegraded (s : Lifecycle) : Lifecycle :=
  ((s.setState .degraded).setError (ascii "Camera adapter connection or stream start failed."))

/-- The rest of `startApplication`. Outside the handler, an exception ends the call. -/
def continueStart (s : Lifecycle) (succeeds : Bool) : Option Lifecycle :=
  match s.owner, succeeds with
  | .preparing, true =>
    some { s with
      health := { s.health with listening := true }
      started := true
      owner := .connecting }
  | .preparing, false => some { s with owner := .idle }
  | .connecting, true => some { s.setState .ready with owner := .spawning }
  | .connecting, false => some { s.startDegraded with owner := .creatingPilot }
  | .spawning, true => some { s with capture := some .loop, owner := .creatingPilot }
  | .spawning, false => some { s.startDegraded with owner := .creatingPilot }
  -- the new client stays in its place when `startClient` throws
  | .creatingPilot, true => some { s with hasPilotClient := true, owner := .startingPilot }
  | .creatingPilot, false => some { s with owner := .idle }
  | .startingPilot, _ => some { s with owner := .idle }
  | _, _ => none

def stopApplication (s : Lifecycle) : Option Lifecycle :=
  if s.owner.holdsMutex then none
  else if s.started = false then some s
  else
    some { s.setState .stopping with
      started := false
      stopRequested := true
      owner := .notifying }

/-- The rest of `stopApplication`, which waits for the capture thread to end. -/
def continueStop (s : Lifecycle) : Option Lifecycle :=
  match s.owner with
  | .notifying => some { s.updateProviderState .stopping with owner := .joining }
  | .joining =>
    if s.capture = none ∨ s.capture = some .ended then
      some { s with capture := none, owner := .releasing }
    else none
  | .releasing =>
    some { s with health := { s.health with listening := false }, owner := .idle }
  | _ => none

/-- One step of the capture thread, where `succeeds` says whether a frame is read. -/
def continueCapture (s : Lifecycle) (succeeds : Bool) : Option Lifecycle :=
  match s.capture with
  | some .loop =>
    some { s with capture := some (if s.stopRequested then .ended else .reading) }
  | some .reading => some { s with capture := some (if succeeds then .loop else .caught) }
  -- the flag is read without the mutex
  | some .caught => some { s with capture := some (if s.stopRequested then .loop else .failing) }
  | some .failing =>
    if s.owner.holdsMutex then none
    else
      let failed := s.setError (ascii "Camera frame capture failed; retrying.")
      if s.health.state ≠ .degraded then
        some { failed.setState .degraded with capture := some .notifying }
      else some { failed with capture := some .loop }
  | some .notifying => some { s.updateProviderState .degraded with capture := some .loop }
  | some .ended | none => none

def step (s : Lifecycle) : LifecycleEvent → Option Lifecycle
  | .startApplication => s.startApplication
  | .stopApplication => s.stopApplication
  | .owner succeeds => if s.owner.holdsMutex then s.continueStart succeeds else s.continueStop
  | .capture succeeds => s.continueCapture succeeds

end Lifecycle

/-- The provider state after the notices -/
def currentState : List Notice → ProviderState
  | [] | .startApplication :: _ => .starting
  | .healthState state :: _ => state
  | .updateProviderState _ :: earlier => currentState earlier

/-- `STOPPING` was set after the last start. -/
def isStopping : List Notice → Bool
  | [] | .startApplication :: _ => false
  | .healthState state :: earlier => state = .stopping || isStopping earlier
  | .updateProviderState _ :: earlier => isStopping earlier

def isTransition : ProviderState → ProviderState → Bool
  | .starting, .ready | .starting, .degraded | .ready, .degraded => true
  | _, .stopping => true
  | _, _ => false

/-- Degrades the health state, or hands on that it is degraded -/
def Notice.isDegraded (notice : Notice) : Bool :=
  notice = .healthState .degraded || notice = .updateProviderState .degraded

/-- The provider states follow each other as they should, and a stop is final until a start. -/
structure Orderly (trace : List Notice) : Prop where
  transition : ∀ later state earlier, trace = later ++ .healthState state :: earlier →
    isTransition (currentState earlier) state = true
  final : ∀ later notice earlier, trace = later ++ notice :: earlier →
    notice.isDegraded = true → isStopping earlier = false

/-- The capture thread has passed its test of the stop flag and will degrade the state. -/
def FailureInFlight (s : Lifecycle) : Prop :=
  s.capture = some .failing ∨ s.capture = some .notifying ∧ s.hasPilotClient = true

instance {s : Lifecycle} : Decidable (FailureInFlight s) :=
  inferInstanceAs (Decidable (s.capture = some .failing ∨ _ ∧ s.hasPilotClient = true))

/-- A stop that sets `STOPPING` finds no capture failure in flight. -/
def StopsQuietly (s : Lifecycle) (e : LifecycleEvent) (_ : Lifecycle) : Prop :=
  e = .stopApplication → s.started = true → ¬ FailureInFlight s

def LifecycleReachable (ok : Lifecycle → LifecycleEvent → Lifecycle → Prop) : Lifecycle → Prop :=
  Reach (fun s => s = {}) Lifecycle.step ok

theorem isStopping_of_currentState {trace : List Notice} (h : currentState trace = .stopping) :
    isStopping trace = true := by
  induction trace with
  | nil => cases h
  | cons notice earlier ih =>
    cases notice with
    | startApplication => cases h
    | healthState state =>
      have hs : state = .stopping := h
      rw [isStopping, hs]
      rfl
    | updateProviderState state => exact ih h

theorem currentState_of_isStopping {trace : List Notice} (ho : Orderly trace)
    (h : isStopping trace = true) : currentState trace = .stopping := by
  induction trace with
  | nil => cases h
  | cons notice earlier ih =>
    have he : Orderly earlier :=
      ⟨fun later state rest hl => ho.transition (notice :: later) state rest (by rw [hl]; rfl),
        fun later other rest hl => ho.final (notice :: later) other rest (by rw [hl]; rfl)⟩
    cases notice with
    | startApplication => cases h
    | updateProviderState state => exact ih he h
    | healthState state =>
      rcases Bool.or_eq_true_iff.mp h with hs | hs
      · exact of_decide_eq_true hs
      -- nothing but another stop follows a stop
      · have htransition := ho.transition [] state earlier rfl
        rw [ih he hs] at htransition
        cases state with
        | stopping => rfl
        | starting => cases htransition
        | ready => cases htransition
        | degraded => cases htransition

theorem Orderly.nil : Orderly [] :=
  ⟨fun _ _ _ h => absurd h.symm (List.append_ne_nil_of_right_ne_nil _ (List.cons_ne_nil _ _)),
    fun _ _ _ h => absurd h.symm (List.append_ne_nil_of_right_ne_nil _ (List.cons_ne_nil _ _))⟩

theorem Orderly.cons {trace : List Notice} {notice : Notice} (ho : Orderly trace)
    (htransition : ∀ state, notice = .healthState state →
      isTransition (currentState trace) state = true)
    (hfinal : notice.isDegraded = true → isStopping trace = false) : Orderly (notice :: trace) := by
  constructor
  · intro later state earlier h
    cases later with
    | nil =>
      obtain ⟨rfl, rfl⟩ := List.cons.inj h
      exact htransition state rfl
    | cons first later =>
      obtain ⟨-, hrest⟩ := List.cons.inj h
      exact ho.transition later state earlier hrest
  · intro later other earlier h hdegraded
    cases later with
    | nil =>
      obtain ⟨rfl, rfl⟩ := List.cons.inj h
      exact hfinal hdegraded
    | cons first later =>
      obtain ⟨-, hrest⟩ := List.cons.inj h
      exact ho.final later other earlier hrest hdegraded

/-- The point of the owner fixes the state while the application starts. -/
def OwnerPoint.StateAt : OwnerPoint → ProviderState → Prop
  | .preparing, state | .connecting, state => state = .starting
  | .spawning, state => state = .ready
  | _, _ => True

/-- A state that the trace accounts for; after a stop the capture thread cannot get past its test. -/
structure LifecycleInvariant (s : Lifecycle) : Prop where
  orderly : Orderly s.trace
  current : s.health.state = currentState s.trace
  point : s.owner.StateAt s.health.state
  stopped : isStopping s.trace = true →
    s.stopRequested = true ∧ s.owner.holdsMutex = false ∧ ¬ FailureInFlight s

theorem Orderly.handed {trace : List Notice} {state : ProviderState} (ho : Orderly trace)
    (h : state = .degraded → isStopping trace = false) :
    Orderly (.updateProviderState state :: trace) := by
  apply ho.cons
  · intro other hother
    cases hother
  · intro hdegraded
    apply h
    cases state with
    | degraded => rfl
    | starting => cases hdegraded
    | ready => cases hdegraded
    | stopping => cases hdegraded

theorem Orderly.set {trace : List Notice} {state : ProviderState} (ho : Orderly trace)
    (htransition : isTransition (currentState trace) state = true)
    (h : isStopping trace = false ∨ state = .stopping) :
    Orderly (.healthState state :: trace) := by
  apply ho.cons
  · intro other hother
    cases hother
    exact htransition
  · intro hdegraded
    rcases h with h | rfl
    · exact h
    · cases hdegraded

theorem not_stopping_of_holdsMutex {s : Lifecycle} (hi : LifecycleInvariant s)
    (h : s.owner.holdsMutex = true) : isStopping s.trace = false := by
  rw [Bool.eq_false_iff]
  intro hstopping
  rw [(hi.stopped hstopping).2.1] at h
  cases h

namespace Lifecycle

theorem updateProviderState_cases (s : Lifecycle) (state : ProviderState) :
    s.hasPilotClient = false ∧ s.updateProviderState state = s ∨
    s.hasPilotClient = true ∧ s.updateProviderState state =
      { s with trace := .updateProviderState state :: s.trace } := by
  unfold updateProviderState
  cases h : s.hasPilotClient with
  | true => exact .inr ⟨rfl, if_pos rfl⟩
  | false => exact .inl ⟨rfl, if_neg Bool.false_ne_true⟩

end Lifecycle

section
variable {s t : Lifecycle}

theorem invariant_startApplication (hi : LifecycleInvariant s)
    (h : s.startApplication = some t) : LifecycleInvariant t := by
  unfold Lifecycle.startApplication at h
  split at h
  · cases h
  · split at h
    · cases h
      exact hi
    · cases h
      have horderly : Orderly (.startApplication :: s.trace) :=
        hi.orderly.cons (fun state hstate => by cases hstate) (fun hdegraded => by cases hdegraded)
      exact ⟨horderly, rfl, rfl, fun hstopping => by cases hstopping⟩

theorem invariant_stopApplication (hi : LifecycleInvariant s)
    (hquiet : s.started = true → ¬ FailureInFlight s) (h : s.stopApplication = some t) :
    LifecycleInvariant t := by
  unfold Lifecycle.stopApplication at h
  split at h
  · cases h
  · split at h
    · cases h
      exact hi
    · rename_i hstarted
      cases h
      have horderly : Orderly (.healthState .stopping :: s.trace) := by
        apply hi.orderly.set _ (.inr rfl)
        cases currentState s.trace <;> rfl
      exact ⟨horderly, rfl, trivial, fun _ => ⟨rfl, rfl, hquiet (by simpa using hstarted)⟩⟩

theorem invariant_degraded (hi : LifecycleInvariant s) (hholds : s.owner.holdsMutex = true)
    (htransition : isTransition s.health.state .degraded = true) :
    LifecycleInvariant { s.startDegraded with owner := .creatingPilot } := by
  have hstopping := not_stopping_of_holdsMutex hi hholds
  have horderly : Orderly (.healthState .degraded :: s.trace) :=
    hi.orderly.set (hi.current ▸ htransition) (.inl hstopping)
  refine ⟨horderly, rfl, trivial, ?_⟩
  intro hstopped
  exact absurd (hstopping.symm.trans hstopped) Bool.false_ne_true

theorem invariant_continueStart {succeeds : Bool} (hi : LifecycleInvariant s)
    (h : s.continueStart succeeds = some t) : LifecycleInvariant t := by
  have hidle : ∀ {u : Lifecycle}, u.trace = s.trace → u.health.state = s.health.state →
      u.owner.StateAt u.health.state → s.owner.holdsMutex = true → LifecycleInvariant u := by
    intro u htrace hstate hpoint hholds
    have hstopping := not_stopping_of_holdsMutex hi hholds
    apply LifecycleInvariant.mk (htrace ▸ hi.orderly)
    · rw [hstate, htrace, hi.current]
    · exact hpoint
    · rw [htrace, hstopping]
      exact fun hf => absurd hf Bool.false_ne_true
  have hpoint := hi.point
  unfold Lifecycle.continueStart at h
  cases ho : s.owner with
  | idle | notifying | joining | releasing => simp [ho] at h
  | preparing =>
    rw [ho] at h hpoint
    cases succeeds with
    | true =>
      cases h
      exact hidle rfl rfl hpoint (by rw [ho]; rfl)
    | false =>
      cases h
      exact hidle rfl rfl trivial (by rw [ho]; rfl)
  | connecting =>
    rw [ho] at h hpoint
    have hstarting : s.health.state = .starting := hpoint
    have hholds : s.owner.holdsMutex = true := by rw [ho]; rfl
    cases succeeds with
    | true =>
      cases h
      have hstopping := not_stopping_of_holdsMutex hi hholds
      have htransition : isTransition (currentState s.trace) .ready = true := by
        rw [← hi.current, hstarting]
        rfl
      have horderly : Orderly (.healthState .ready :: s.trace) :=
        hi.orderly.set htransition (.inl hstopping)
      refine ⟨horderly, rfl, rfl, ?_⟩
      intro hstopped
      exact absurd (hstopping.symm.trans hstopped) Bool.false_ne_true
    | false =>
      cases h
      exact invariant_degraded hi hholds (by rw [hstarting]; rfl)
  | spawning =>
    rw [ho] at h hpoint
    have hready : s.health.state = .ready := hpoint
    have hholds : s.owner.holdsMutex = true := by rw [ho]; rfl
    cases succeeds with
    | true =>
      cases h
      exact hidle rfl rfl trivial hholds
    | false =>
      cases h
      exact invariant_degraded hi hholds (by rw [hready]; rfl)
  | creatingPilot =>
    rw [ho] at h
    cases succeeds with
    | true =>
      cases h
      exact hidle rfl rfl trivial (by rw [ho]; rfl)
    | false =>
      cases h
      exact hidle rfl rfl trivial (by rw [ho]; rfl)
  | startingPilot =>
    rw [ho] at h
    cases h
    exact hidle rfl rfl trivial (by rw [ho]; rfl)

theorem invariant_continueStop (hi : LifecycleInvariant s) (h : s.continueStop = some t) :
    LifecycleInvariant t := by
  unfold Lifecycle.continueStop at h
  split at h
  · cases h
    rcases s.updateProviderState_cases .stopping with ⟨-, he⟩ | ⟨-, he⟩
    · rw [he]
      exact ⟨hi.orderly, hi.current, trivial, fun hs => ⟨(hi.stopped hs).1, rfl, (hi.stopped hs).2.2⟩⟩
    · rw [he]
      have horderly : Orderly (.updateProviderState .stopping :: s.trace) :=
        hi.orderly.handed (fun hd => by cases hd)
      exact ⟨horderly, hi.current, trivial,
        fun hs => ⟨(hi.stopped hs).1, rfl, (hi.stopped hs).2.2⟩⟩
  · split at h
    · cases h
      refine ⟨hi.orderly, hi.current, trivial, ?_⟩
      intro hs
      exact ⟨(hi.stopped hs).1, rfl, by rintro (hf | ⟨hf, -⟩) <;> cases hf⟩
    · cases h
  · cases h
    exact ⟨hi.orderly, hi.current, trivial, fun hs => ⟨(hi.stopped hs).1, rfl, (hi.stopped hs).2.2⟩⟩
  · cases h

/-- A step of the capture thread to a point where no failure is in flight -/
theorem invariant_captureAt {u : Lifecycle} (hi : LifecycleInvariant s)
    (htrace : u.trace = s.trace) (hstate : u.health.state = s.health.state)
    (howner : u.owner = s.owner) (hstop : u.stopRequested = s.stopRequested)
    (hpoint : isStopping s.trace = true → ¬ FailureInFlight u) : LifecycleInvariant u := by
  apply LifecycleInvariant.mk (htrace ▸ hi.orderly)
  · rw [hstate, htrace, hi.current]
  · rw [howner, hstate]
    exact hi.point
  · rw [htrace, hstop, howner]
    intro hs
    exact ⟨(hi.stopped hs).1, (hi.stopped hs).2.1, hpoint hs⟩

theorem invariant_continueCapture {succeeds : Bool} (hi : LifecycleInvariant s)
    (h : s.continueCapture succeeds = some t) : LifecycleInvariant t := by
  unfold Lifecycle.continueCapture at h
  split at h
  · cases h
    refine invariant_captureAt hi rfl rfl rfl rfl ?_
    intro _
    cases s.stopRequested <;> rintro (hf | ⟨hf, -⟩) <;> cases hf
  · cases h
    refine invariant_captureAt hi rfl rfl rfl rfl ?_
    intro _
    cases succeeds <;> rintro (hf | ⟨hf, -⟩) <;> cases hf
  · cases h
    refine invariant_captureAt hi rfl rfl rfl rfl ?_
    intro hs
    rw [(hi.stopped hs).1]
    rintro (hf | ⟨hf, -⟩) <;> cases hf
  · rename_i hfailing
    -- a failure in flight is one that no stop was seen for
    have hstopping : isStopping s.trace = false := by
      rw [Bool.eq_false_iff]
      intro hs
      exact (hi.stopped hs).2.2 (.inl hfailing)
    split at h
    · cases h
    · rename_i hfree
      dsimp only at h
      split at h
      · rename_i hne
        cases h
        have htransition : isTransition (currentState s.trace) .degraded = true := by
          rw [← hi.current]
          cases hstate : s.health.state with
          | starting | ready => rfl
          | degraded => exact absurd hstate hne
          | stopping =>
            rw [isStopping_of_currentState (hi.current ▸ hstate)] at hstopping
            cases hstopping
        have horderly : Orderly (.healthState .degraded :: s.trace) :=
          hi.orderly.set htransition (.inl hstopping)
        have hpoint : s.owner.StateAt .degraded := by
          cases ho : s.owner with
          | idle | creatingPilot | startingPilot | notifying | joining | releasing => trivial
          | preparing | connecting | spawning => simp [ho, OwnerPoint.holdsMutex] at hfree
        refine ⟨horderly, rfl, hpoint, ?_⟩
        intro hs
        exact absurd (hstopping.symm.trans hs) Bool.false_ne_true
      · cases h
        refine invariant_captureAt hi rfl rfl rfl rfl ?_
        rintro _ (hf | ⟨hf, -⟩) <;> cases hf
  · rename_i hnotifying
    cases h
    rcases s.updateProviderState_cases .degraded with ⟨-, he⟩ | ⟨hpilot, he⟩
    · rw [he]
      refine invariant_captureAt hi rfl rfl rfl rfl ?_
      rintro _ (hf | ⟨hf, -⟩) <;> cases hf
    · have hstopping : isStopping s.trace = false := by
        rw [Bool.eq_false_iff]
        intro hs
        exact (hi.stopped hs).2.2 (.inr ⟨hnotifying, hpilot⟩)
      rw [he]
      have horderly : Orderly (.updateProviderState .degraded :: s.trace) :=
        hi.orderly.handed fun _ => hstopping
      refine ⟨horderly, hi.current, hi.point, ?_⟩
      intro hs
      exact absurd (hstopping.symm.trans hs) Bool.false_ne_true
  · cases h
  · cases h

theorem lifecycleInvariant_step {e : LifecycleEvent} (hi : LifecycleInvariant s)
    (hquiet : StopsQuietly s e t) (h : s.step e = some t) : LifecycleInvariant t := by
  cases e with
  | startApplication => exact invariant_startApplication hi h
  | stopApplication => exact invariant_stopApplication hi (hquiet rfl) h
  | capture succeeds => exact invariant_continueCapture hi h
  | owner succeeds =>
    unfold Lifecycle.step at h
    dsimp only at h
    split at h
    · exact invariant_continueStart hi h
    · exact invariant_continueStop hi h

end

theorem lifecycleInvariant_reachable {s : Lifecycle} (h : LifecycleReachable StopsQuietly s) :
    LifecycleInvariant s := by
  apply Reach.invariant LifecycleInvariant _ _ h
  · rintro s rfl
    exact ⟨Orderly.nil, rfl, trivial, fun hs => by cases hs⟩
  · intro s e t _ hi he hk
    exact lifecycleInvariant_step hi hk he

end NodusVision.Application
