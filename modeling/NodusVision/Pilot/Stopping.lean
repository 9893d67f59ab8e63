import NodusVision.Pilot.Discipline

/-! How a run of the client ends: what `cancelRequest` meets, and which session is disconnected. -/
namespace NodusVision.Pilot
open Text

def PilotMessage.isDisconnect : PilotMessage → Bool
  | .disconnect _ => true
  | _ => false

def Purpose.isDisconnect : Purpose → Bool
  | .disconnect => true
  | _ => false

/-- The stop flag was found clear, and the request that this check guards has not started. -/
def WorkerPc.isUnguarded : WorkerPc → Bool
  | .registering => true
  | .readingState => true
  | .starting purpose _ => !purpose.isDisconnect
  | _ => false

def WorkerPc.isDisconnecting : WorkerPc → Bool
  | .awaiting purpose => purpose.isDisconnect
  | _ => false

/-- `cancelRequest` meets the worker neither between a check of the stop flag and the request that the
check guards, nor in the final disconnect. -/
def CancelsInOrder (c : Client) (e : Event) (_ : Client) : Prop :=
  e = .cancelRequest → ∀ w, c.worker = some w →
    w.pc.isUnguarded = false ∧ w.pc.isDisconnecting = false

/-- What the transport does for the worker, and what the worker knows about the stop flag. -/
def Worker.Serves (c : Client) (w : Worker) : Prop :=
  match w.pc with
  | .awaiting purpose =>
    ∃ message cancelled, c.active = some (message, cancelled) ∧
      message.isDisconnect = purpose.isDisconnect ∧
      (purpose.isDisconnect = true → c.stopRequested = true ∧ cancelled = false) ∧
      (purpose.isDisconnect = false → c.stopper = .joining → cancelled = true)
  | .starting purpose message =>
    c.active = none ∧ message.isDisconnect = purpose.isDisconnect ∧
      (purpose.isDisconnect = true → c.stopRequested = true) ∧
      (purpose.isDisconnect = false → c.stopper ≠ .joining)
  | .registering => c.active = none ∧ c.stopper ≠ .joining
  | .readingState => c.active = none ∧ c.stopper ≠ .joining
  | .leaving => c.active = none ∧ c.stopRequested = true
  | _ => c.active = none

structure Cancellation (c : Client) : Prop where
  idle : c.Idle
  flagged : c.stopper ≠ .idle → c.stopRequested = true
  worker : ∀ w, c.worker = some w → w.Serves c
  quiet : c.worker = none → c.active = none

section
variable {setup : ClientSetup} {c c' : Client} {w w' : Worker}

/-- Only the worker moves, and the transport stays idle. -/
theorem Cancellation.moved (h : Cancellation c) (hw : c.worker = some w)
    (hstarted : c'.started = c.started) (hflag : c'.stopRequested = c.stopRequested)
    (hstopper : c'.stopper = c.stopper) (hnext : c'.worker = some w') (hs : w'.Serves c') :
    Cancellation c' where
  idle := by
    intro hfalse
    have hnone := (h.idle (hstarted ▸ hfalse)).1
    cases hnone.symm.trans hw
  flagged := by
    rw [hstopper, hflag]
    exact h.flagged
  worker := by
    intro other hother
    cases hnext.symm.trans hother
    exact hs
  quiet := by
    intro hnone
    cases hnext.symm.trans hnone

/-- A guard that was passed shows that the stop flag is clear. -/
theorem Cancellation.not_joining (h : Cancellation c) (hflag : c.stopRequested = false) :
    c.stopper ≠ .joining := by
  intro hj
  have := h.flagged (by rw [hj]; decide)
  rw [hflag] at this
  cases this

theorem compose_serves {purpose : Purpose} {message : PilotMessage} {handler : WorkerPc}
    (hactive : c.active = none) (hp : purpose.isDisconnect = false)
    (hm : message.isDisconnect = false) (hjoining : c.stopper ≠ .joining)
    (hhandler : (w.at handler).Serves c) :
    (w.at (compose setup purpose message handler)).Serves c := by
  unfold compose
  cases message.render setup.formatDouble with
  | ok request =>
    refine ⟨hactive, by rw [hm, hp], ?_, fun _ => hjoining⟩
    intro htrue
    rw [hp] at htrue
    cases htrue
  | error e => exact hhandler

theorem afterRegister_serves {result : PilotHttpResult} (h : Cancellation c) (hw : c.worker = some w)
    (hactive : c.active = none) : Cancellation (afterRegister setup c w result) := by
  unfold afterRegister
  split
  · rename_i response _
    refine h.moved hw rfl rfl rfl rfl ?_
    unfold Worker.Serves
    cases (catalogMessage setup c.identity response.sessionId).render setup.formatDouble with
    | ok request => exact hactive
    | error e => exact hactive
  · exact h.moved hw rfl rfl rfl rfl hactive
  · exact h.moved hw rfl rfl rfl rfl hactive

theorem afterCatalog_serves {publication : Publication} {result : PilotHttpResult}
    (h : Cancellation c) (hw : c.worker = some w) (hactive : c.active = none) :
    Cancellation (afterCatalog setup c w publication result) := by
  unfold afterCatalog
  split
  · exact h.moved hw rfl rfl rfl rfl hactive
  · exact h.moved hw rfl rfl rfl rfl hactive
  · exact h.moved hw rfl rfl rfl rfl hactive
  · exact h.moved hw rfl rfl rfl rfl hactive

theorem afterLifecycle_serves {result : PilotHttpResult} (h : Cancellation c)
    (hw : c.worker = some w) (hactive : c.active = none) :
    Cancellation (afterLifecycle setup c w result) := by
  unfold afterLifecycle
  split
  · exact h.moved hw rfl rfl rfl rfl hactive
  · exact h.moved hw rfl rfl rfl rfl hactive

theorem takePending_serves (h : Cancellation c) (hw : c.worker = some w) (hactive : c.active = none)
    (hflag : c.stopRequested = false) : Cancellation (takePending setup c w) := by
  refine h.moved hw rfl rfl rfl rfl ?_
  have hm : (lifecycleMessage w.sessionId w.sequence c.pendingState).isDisconnect = false := by
    cases c.pendingState <;> rfl
  have hs : Worker.Serves (takePending setup c w)
      (Worker.at { w with sequence := w.sequence + 1 }
        (compose setup (.lifecycle c.pendingState)
          (lifecycleMessage w.sessionId w.sequence c.pendingState) .caught)) :=
    compose_serves hactive rfl hm (h.not_joining hflag) hactive
  exact hs

theorem workerStep_serves (hd : Discipline setup c) (h : Cancellation c) (hw : c.worker = some w)
    (hs : workerStep setup c w = some c') : Cancellation c' := by
  have hold := h.worker w hw
  have hat := hd.worker w hw
  unfold workerStep at hs
  unfold Worker.Serves at hold
  unfold Worker.Holds at hat
  split at hs <;> rename_i hpc <;> rw [hpc] at hold hat
  · cases hs
    refine h.moved hw rfl rfl rfl rfl ?_
    cases hf : c.stopRequested with
    | true => exact ⟨hold, hf⟩
    | false => exact ⟨hold, h.not_joining hf⟩
  · cases hs
    exact h.moved hw rfl rfl rfl rfl hold
  · cases hs
    refine h.moved hw rfl rfl rfl rfl ?_
    exact @compose_serves _ (c.setWorker _) _ _ _ _ hold.1 rfl rfl hold.2 hold.1
  · rename_i purpose message
    obtain ⟨hactive, hkind, hflag, hjoining⟩ := hold
    cases hs
    refine h.moved hw rfl rfl rfl rfl ⟨message, false, rfl, hkind, ?_, ?_⟩
    · intro hp
      exact ⟨hflag hp, rfl⟩
    · intro hp hj
      exact absurd hj (hjoining hp)
  · cases hs
  · rename_i purpose result
    cases hs
    refine h.moved hw rfl rfl rfl rfl ?_
    cases hf : c.stopRequested with
    | true => exact ⟨hold, hf⟩
    | false => exact hold
  · cases hs
    exact afterRegister_serves h hw hold
  · cases hs
    exact afterCatalog_serves h hw hold
  · cases hs
    exact afterLifecycle_serves h hw hold
  · cases hs
  · rename_i publication
    cases hs
    refine h.moved hw rfl rfl rfl rfl ?_
    cases hf : c.stopRequested with
    | true => exact ⟨hold, hf⟩
    | false =>
      obtain ⟨⟨_, _, _, _, hm⟩, _⟩ := hat
      refine ⟨hold, ?_, ?_, fun _ => h.not_joining hf⟩
      · rw [hm]
        rfl
      · intro hp
        cases hp
  · cases hs
    exact h.moved hw rfl rfl rfl rfl hold
  · cases hs
    refine h.moved hw rfl rfl rfl rfl ?_
    cases hf : c.stopRequested with
    | true => exact ⟨hold, hf⟩
    | false => exact hold
  · cases hs
    split
    · exact h.moved hw rfl rfl rfl rfl ⟨hold, ‹_›⟩
    · exact takePending_serves h hw hold (by simpa using ‹¬ c.stopRequested = true›)
  · cases hs
    exact h.moved hw rfl rfl rfl rfl hold
  · cases hs
    exact h.moved hw rfl rfl rfl rfl hold
  · split at hs
    · cases hs
      exact h.moved hw rfl rfl rfl rfl hold.1
    · cases hs
      refine h.moved hw rfl rfl rfl rfl ⟨hold.1, rfl, fun _ => hold.2, ?_⟩
      intro hp
      cases hp
  · cases hs
    exact h.moved hw rfl rfl rfl rfl hold
  · cases hs
  · cases hs

theorem requestDone_serves {result : PilotHttpResult} (h : Cancellation c)
    (hw : c.worker = some w) (hs : requestDone setup c w result = some c') : Cancellation c' := by
  have hold := h.worker w hw
  unfold requestDone at hs
  unfold Worker.Serves at hold
  split at hs
  · rename_i purpose hpc
    rw [hpc] at hold
    cases hs
    refine h.moved hw rfl rfl rfl rfl ?_
    cases purpose <;> rfl
  · cases hs

theorem step_cancellation {e : Event} (hd : Discipline setup c) (h : Cancellation c)
    (hs : step setup c e = some c') (hk : CancelsInOrder c e c') : Cancellation c' := by
  have hidle := step_idle h.idle hs
  cases e with
  | startClient identity initialState =>
    simp only [step] at hs
    split at hs
    · cases hs
      exact h
    · rename_i hstarted
      obtain ⟨hnone, hstopper⟩ := h.idle (by simpa using hstarted)
      split at hs
      · cases hs
        unfold startClient at *
        simp only at *
        split
        · refine ⟨fun hfalse => (by cases hfalse), fun hne => absurd hstopper hne, ?_, fun _ => rfl⟩
          intro w hw
          cases hw
          rfl
        · refine ⟨fun hfalse => (by cases hfalse), fun hne => absurd hstopper hne, ?_,
            fun _ => h.quiet hnone⟩
          intro w hw
          cases hnone.symm.trans hw
      · cases hs
  | updateProviderState state =>
    simp only [step] at hs
    split at hs
    · cases hs
      exact ⟨hidle, h.flagged, h.worker, h.quiet⟩
    · cases hs
      exact h
  | stopClient =>
    simp only [step] at hs
    split at hs
    · rename_i hguard
      cases hs
      refine ⟨hidle, fun _ => rfl, ?_, h.quiet⟩
      intro w hw
      have hold := h.worker w hw
      unfold Worker.Serves at *
      split at hold
      · obtain ⟨message, cancelled, hactive, hkind, hflag, _⟩ := hold
        refine ⟨message, cancelled, hactive, hkind, fun hp => ⟨rfl, (hflag hp).2⟩, ?_⟩
        intro _ hj
        cases hj
      · exact ⟨hold.1, hold.2.1, fun _ => rfl, fun _ => by simp⟩
      · exact ⟨hold.1, by simp⟩
      · exact ⟨hold.1, by simp⟩
      · exact ⟨hold.1, rfl⟩
      · exact hold
    · cases hs
  | cancelRequest =>
    simp only [step] at hs
    split at hs
    · rename_i hcancelling
      have hflag := h.flagged (by rw [hcancelling]; decide)
      cases hs
      have hquiet {w : Worker} (hw : c.worker = some w) (hactive : c.active = none) :
          (cancelActive c).active = none := by
        show c.active.map _ = none
        rw [hactive]
        rfl
      refine ⟨hidle, fun _ => hflag, ?_, ?_⟩
      · intro w hw
        obtain ⟨hguarded, hdisconnecting⟩ := hk rfl w hw
        have hold := h.worker w hw
        unfold Worker.Serves at *
        split at hold <;> rename_i hpc <;> try rw [hpc] at hguarded hdisconnecting
        · obtain ⟨message, cancelled, hactive, hkind, _, _⟩ := hold
          refine ⟨message, true, ?_, hkind, ?_, fun _ _ => rfl⟩
          · show c.active.map _ = _
            rw [hactive]
            rfl
          · intro hp
            cases hp.symm.trans hdisconnecting
        · rename_i _ purpose message
          have hp : purpose.isDisconnect = true := by simpa [WorkerPc.isUnguarded] using hguarded
          refine ⟨hquiet hw hold.1, hold.2.1, fun _ => hflag, ?_⟩
          intro hfalse
          cases hp.symm.trans hfalse
        · cases hguarded
        · cases hguarded
        · exact ⟨hquiet hw hold.1, hflag⟩
        · exact hquiet hw hold
      · intro hnone
        show c.active.map _ = none
        rw [h.quiet hnone]
        rfl
    · cases hs
  | joinWorker =>
    simp only [step] at hs
    split at hs
    · rename_i hguard
      cases hs
      refine ⟨hidle, fun hne => absurd rfl hne, fun w hw => (by cases hw), ?_⟩
      intro _
      show c.active = none
      have hjoin : isJoinable c.worker = true := by
        simp only [Bool.and_eq_true] at hguard
        exact hguard.2
      cases hw : c.worker with
      | none => exact h.quiet hw
      | some w =>
        have hold := h.worker w hw
        rw [hw] at hjoin
        unfold isJoinable at hjoin
        split at hjoin
        · cases ‹some _ = some _›
          exact hold
        · cases hjoin
        · cases ‹some _ = none›
    · cases hs
  | worker =>
    obtain ⟨w, hw, hs⟩ := Option.bind_eq_some_iff.mp hs
    exact workerStep_serves hd h hw hs
  | requestDone result =>
    obtain ⟨w, hw, hs⟩ := Option.bind_eq_some_iff.mp hs
    exact requestDone_serves h hw hs

/-- What is in progress is a request that the worker awaits. -/
theorem active_cancelled (h : Cancellation c) :
    (∀ message, c.active = some (message, true) → message.isDisconnect = false) ∧
    (c.stopper = .joining → ∀ message, c.active = some (message, false) →
      message.isDisconnect = true) := by
  have hawaited {message : PilotMessage} {cancelled : Bool}
      (hactive : c.active = some (message, cancelled)) :
      (message.isDisconnect = true → cancelled = false) ∧
        (message.isDisconnect = false → c.stopper = .joining → cancelled = true) := by
    cases hw : c.worker with
    | none => cases (h.quiet hw).symm.trans hactive
    | some w =>
      have hold := h.worker w hw
      unfold Worker.Serves at hold
      split at hold
      · obtain ⟨message', cancelled', hactive', hkind, hdisconnect, hother⟩ := hold
        cases hactive'.symm.trans hactive
        rw [hkind]
        exact ⟨fun hp => (hdisconnect hp).2, hother⟩
      · cases hold.1.symm.trans hactive
      · cases hold.1.symm.trans hactive
      · cases hold.1.symm.trans hactive
      · cases hold.1.symm.trans hactive
      · cases hold.symm.trans hactive
  constructor
  · intro message hactive
    by_contra hne
    cases (hawaited hactive).1 (by simpa using hne)
  · intro hj message hactive
    by_contra hne
    cases (hawaited hactive).2 (by simpa using hne) hj

end
end NodusVision.Pilot
