import NodusVision.Pilot.Trace
import NodusVision.Transition.Reach

/-! What holds at every point of the worker: which session it is in, which state Pilot has accepted last
and what the snapshot says. -/
namespace NodusVision.Pilot
open Text

/-- The current session has an accepted catalog, and the snapshot shows it. -/
def CatalogLive (setup : ClientSetup) (c : Client) : Prop :=
  ∃ response, latestRegistration c.exchanges = some response ∧
    c.snapshot.serverInstanceId = response.serverInstanceId ∧
    ∃ catalog ∈ acceptedCatalogs c.exchanges,
      catalog.serverInstanceId = response.serverInstanceId ∧ 1 ≤ catalog.catalogGeneration ∧
      catalog.descriptorCount = setup.catalog.descriptors.length ∧
      c.snapshot.catalogGeneration = catalog.catalogGeneration ∧
      c.snapshot.descriptorCount = catalog.descriptorCount

/-- Unless an update is pending, Pilot has accepted the current state. -/
def Synced (c : Client) : Prop :=
  c.pendingState = none → acceptedState c.exchanges = some (makePilotState c.currentState)

/-- Unless an update came meanwhile, `state` is the current state. -/
def Fresh (c : Client) (state : ProviderState) : Prop :=
  c.pendingState = none → state = c.currentState

/-- A lifecycle write carries the current state, or leaves what Pilot has accepted. -/
def Carrying (c : Client) : Option ProviderState → Prop
  | some state => Fresh c state
  | none => Synced c

/-- The worker is in the session of the latest registration. -/
def Registered (c : Client) (w : Worker) : Prop :=
  ∃ response, latestRegistration c.exchanges = some response ∧
    w.sessionId = response.sessionId

/-- The worker publishes the catalog of a session without lifecycle writes. -/
def Publishing (setup : ClientSetup) (c : Client) (w : Worker) (publication : Publication) : Prop :=
  (∃ response, latestRegistration c.exchanges = some response ∧
    w.sessionId = response.sessionId ∧
    publication.serverInstanceId = response.serverInstanceId ∧
    publication.message = catalogMessage setup c.identity response.sessionId) ∧
  sequences c.exchanges = [] ∧ w.sequence = 1 ∧ Synced c

/-- The worker is in a session whose catalog was accepted, and has numbered `w.sequence - 1` writes. -/
def InSession (setup : ClientSetup) (c : Client) (w : Worker) : Prop :=
  Registered c w ∧ CatalogLive setup c ∧ w.sequence = (sequences c.exchanges).length + 1

/-- The state that an accepted registration carried is on top of the trace. -/
def Answered (setup : ClientSetup) (c : Client) (state : ProviderState) (result : PilotHttpResult) :
    Prop :=
  match judgeRegister setup result with
  | .accepted response => ∃ rest, c.exchanges = .registered response :: rest ∧
      carriedState rest = some (makePilotState state)
  | _ => True

/-- What holds where the worker is. -/
def Worker.Holds (setup : ClientSetup) (c : Client) (w : Worker) : Prop :=
  match w.pc with
  | .readingState => c.snapshot.state = .registering
  | .starting (.register state) message =>
    c.snapshot.state = .registering ∧ Fresh c state ∧
      message = registerMessage setup c.identity state
  | .awaiting (.register state) =>
    c.snapshot.state = .registering ∧ Fresh c state ∧
      carriedState c.exchanges = some (makePilotState state)
  | .answered (.register state) result =>
    c.snapshot.state = .registering ∧ Fresh c state ∧ Answered setup c state result
  | .judging (.register state) result =>
    c.snapshot.state = .registering ∧ Fresh c state ∧ Answered setup c state result
  | .starting (.catalog publication) message =>
    Publishing setup c w publication ∧ message = publication.message
  | .awaiting (.catalog publication) => Publishing setup c w publication
  | .answered (.catalog publication) _ => Publishing setup c w publication
  | .judging (.catalog publication) _ => Publishing setup c w publication
  | .catalogLoop publication => Publishing setup c w publication
  | .starting (.lifecycle pending) message =>
    Registered c w ∧ CatalogLive setup c ∧ Carrying c pending ∧
      message = lifecycleMessage w.sessionId ((sequences c.exchanges).length + 1) pending ∧
      w.sequence = (sequences c.exchanges).length + 2
  | .awaiting (.lifecycle pending) =>
    InSession setup c w ∧ Carrying c pending ∧
      carriedState c.exchanges = pending.map makePilotState
  | .answered (.lifecycle pending) _ =>
    InSession setup c w ∧ Carrying c pending ∧
      carriedState c.exchanges = pending.map makePilotState
  | .judging (.lifecycle pending) _ =>
    InSession setup c w ∧ Carrying c pending ∧
      carriedState c.exchanges = pending.map makePilotState
  | .goingOnline => InSession setup c w ∧ Synced c
  | .sessionLoop => InSession setup c w ∧ Synced c
  | .sessionWait => InSession setup c w ∧ Synced c
  | .starting .disconnect message => message = .disconnect w.sessionId
  | _ => True

structure Discipline (setup : ClientSetup) (c : Client) : Prop where
  pending : ∀ state, c.pendingState = some state → state = c.currentState
  orderly : Orderly setup c.identity c.exchanges
  online : c.snapshot.state = .online → CatalogLive setup c
  worker : ∀ w, c.worker = some w → w.Holds setup c

section
variable {setup : ClientSetup} {c c' : Client} {w w' : Worker}

/-- What the worker relies on is in these fields. -/
theorem CatalogLive.congr (h : CatalogLive setup c) (hx : c'.exchanges = c.exchanges)
    (hserver : c'.snapshot.serverInstanceId = c.snapshot.serverInstanceId)
    (hgeneration : c'.snapshot.catalogGeneration = c.snapshot.catalogGeneration)
    (hcount : c'.snapshot.descriptorCount = c.snapshot.descriptorCount) :
    CatalogLive setup c' := by
  unfold CatalogLive at *
  rw [hx, hserver, hgeneration, hcount]
  exact h

/-- Only the worker moves. -/
theorem Discipline.moved (h : Discipline setup c) (hw : w.Holds setup c) :
    Discipline setup (c.setWorker w) where
  pending := h.pending
  orderly := h.orderly
  online := h.online
  worker := by
    intro other hother
    cases hother
    exact hw

/-- The worker reports a state other than `ONLINE` and goes on to where nothing is required. -/
theorem Discipline.reported (h : Discipline setup c) {state : PilotIntegrationState} {error : String}
    (hstate : state ≠ .online) (hw : w.Holds setup (c.setSnapshot setup state error)) :
    Discipline setup ((c.setSnapshot setup state error).setWorker w) where
  pending := h.pending
  orderly := h.orderly
  online := fun hon => absurd hon hstate
  worker := by
    intro other hother
    cases hother
    exact hw

/-- An exchange that is no request and no registration is added. -/
theorem Discipline.noted (h : Discipline setup c) {exchange : Exchange}
    (hsent : ∀ message, exchange ≠ .sent message) {state : PilotIntegrationState} {error : String}
    (hstate : state ≠ .online)
    (hw : w.Holds setup ((c.setSnapshot setup state error).note exchange)) :
    Discipline setup (((c.setSnapshot setup state error).note exchange).setWorker w) where
  pending := h.pending
  orderly := h.orderly.noted hsent
  online := fun hon => absurd hon hstate
  worker := by
    intro other hother
    cases hother
    exact hw

theorem lifecycleMessage_follows {response : PilotRegistrationResponse} {identity : ClientIdentity}
    {exchanges : List Exchange} {pending : Option ProviderState} {sessionId : ByteString}
    (hr : latestRegistration exchanges = some response) (hs : sessionId = response.sessionId)
    (hcatalog : acceptedCatalogs exchanges ≠ []) :
    (lifecycleMessage sessionId ((sequences exchanges).length + 1) pending).Follows setup identity
      exchanges := by
  cases pending with
  | none => exact ⟨response, hr, hs, rfl, hcatalog⟩
  | some state => exact ⟨response, hr, hs, rfl, hcatalog⟩

theorem CatalogLive.catalogs_ne_nil (h : CatalogLive setup c) : acceptedCatalogs c.exchanges ≠ [] := by
  obtain ⟨_, _, _, catalog, hmem, _⟩ := h
  exact List.ne_nil_of_mem hmem

theorem afterRegister_discipline {state : ProviderState} {result : PilotHttpResult}
    (h : Discipline setup c) (hstate : c.snapshot.state = .registering) (hfresh : Fresh c state)
    (ha : Answered setup c state result) :
    Discipline setup (afterRegister setup c w result) := by
  unfold afterRegister
  unfold Answered at ha
  split
  · rename_i response hj
    rw [hj] at ha
    obtain ⟨rest, hx, hcarried⟩ := ha
    have hoff : c.snapshot.state ≠ .online := by
      rw [hstate]
      decide
    refine ⟨h.pending, h.orderly, fun hon => absurd hon hoff, ?_⟩
    intro other hother
    cases hother
    have hpub : Publishing setup c { w with sessionId := response.sessionId, sequence := 1 }
        { serverInstanceId := response.serverInstanceId
          message := catalogMessage setup c.identity response.sessionId } := by
      refine ⟨⟨response, by rw [hx]; rfl, rfl, rfl, rfl⟩, by rw [hx]; rfl, rfl, ?_⟩
      intro hp
      have hc : acceptedState c.exchanges = carriedState rest := by rw [hx]; rfl
      rw [hc, hcarried, hfresh hp]
    cases (catalogMessage setup c.identity response.sessionId).render setup.formatDouble with
    | ok request => exact hpub
    | error e => trivial
  · exact h.reported (by decide) trivial
  · exact h.reported (by decide) trivial

theorem judgeCatalog_published {serverInstanceId : ByteString} {result : PilotHttpResult}
    {response : PilotCatalogAcceptedResponse}
    (h : judgeCatalog setup serverInstanceId result = .published response) :
    response.serverInstanceId = serverInstanceId ∧ 1 ≤ response.catalogGeneration ∧
      response.descriptorCount = setup.catalog.descriptors.length := by
  unfold judgeCatalog at h
  simp only at h
  split at h
  · split at h
    · rename_i parsed hp
      cases h
      exact parseCatalogAcceptedResponse_spec hp
    · cases h
  · split at h
    · split at h <;> cases h
    · split at h
      · cases h
      · split at h <;> cases h

theorem afterCatalog_discipline {publication : Publication} {result : PilotHttpResult}
    (h : Discipline setup c) (hp : Publishing setup c w publication) :
    Discipline setup (afterCatalog setup c w publication result) := by
  unfold afterCatalog
  split
  · rename_i catalog hj
    obtain ⟨hserver, hgeneration, hcount⟩ := judgeCatalog_published hj
    obtain ⟨⟨response, hr, hsession, hpserver, _⟩, hseq, hone, hsynced⟩ := hp
    have hlive : CatalogLive setup
        { c with
          snapshot :=
            { c.snapshot with
              serverInstanceId := catalog.serverInstanceId
              catalogGeneration := catalog.catalogGeneration
              descriptorCount := catalog.descriptorCount }
          worker := some (w.at .goingOnline)
          exchanges := .catalogAccepted catalog :: c.exchanges } :=
      ⟨response, hr, hserver.trans hpserver, catalog, List.mem_cons_self, hserver.trans hpserver,
        hgeneration, hcount, rfl, rfl⟩
    refine ⟨h.pending, h.orderly.noted (by simp), fun _ => hlive, ?_⟩
    intro other hother
    cases hother
    refine ⟨⟨⟨response, hr, hsession⟩, hlive, ?_⟩, hsynced⟩
    have hseq : sequences (.catalogAccepted catalog :: c.exchanges) = [] := hseq
    show w.sequence = (sequences (.catalogAccepted catalog :: c.exchanges)).length + 1
    rw [hseq, hone]
    rfl
  · exact h.noted (by simp) (by decide) trivial
  · exact h.reported (by decide) trivial
  · refine ⟨h.pending, h.orderly, fun hon => (h.online hon).congr rfl rfl rfl rfl, ?_⟩
    intro other hother
    cases hother
    exact hp

theorem afterLifecycle_discipline {pending : Option ProviderState} {result : PilotHttpResult}
    (h : Discipline setup c) (hs : InSession setup c w) (hc : Carrying c pending)
    (hcarried : carriedState c.exchanges = pending.map makePilotState) :
    Discipline setup (afterLifecycle setup c w result) := by
  unfold afterLifecycle
  split
  · have hlive : CatalogLive setup ((updateOnlineSuccess c).note .lifecycleAccepted) := hs.2.1
    refine ⟨h.pending, h.orderly.noted (by simp), fun _ => hlive, ?_⟩
    intro other hother
    cases hother
    refine ⟨⟨hs.1, hlive, hs.2.2⟩, ?_⟩
    intro hp
    have heq : acceptedState (.lifecycleAccepted :: c.exchanges) =
        (carriedState c.exchanges).or (acceptedState c.exchanges) := rfl
    show acceptedState (.lifecycleAccepted :: c.exchanges) = some (makePilotState c.currentState)
    rw [heq, hcarried]
    cases pending with
    | some state =>
      have hfresh : state = c.currentState := hc hp
      rw [hfresh]
      rfl
    | none => exact hc hp
  · exact h.noted (by simp) (by decide) trivial

theorem takePending_discipline (h : Discipline setup c) (hs : InSession setup c w)
    (hsynced : Synced c) : Discipline setup (takePending setup c w) := by
  obtain ⟨hregistered, hlive, hsequence⟩ := hs
  refine ⟨?_, h.orderly, h.online, ?_⟩
  · intro state hstate
    cases hstate
  · intro other hother
    cases hother
    have hc : Carrying { c with pendingState := none } c.pendingState := by
      cases hp : c.pendingState with
      | some state =>
        intro _
        exact h.pending state hp
      | none =>
        intro _
        exact hsynced hp
    unfold Worker.Holds compose
    cases (lifecycleMessage w.sessionId w.sequence c.pendingState).render setup.formatDouble with
    | ok request =>
      refine ⟨hregistered, hlive, hc, ?_, ?_⟩
      · show lifecycleMessage w.sessionId w.sequence c.pendingState = _
        rw [hsequence]
        rfl
      · show w.sequence + 1 = (sequences c.exchanges).length + 2
        omega
    | error e => trivial

/-- Sending a request of the trace's order keeps what the snapshot shows. -/
theorem CatalogLive.sent (h : CatalogLive setup c) (message : PilotMessage) (hw : c'.snapshot = c.snapshot)
    (hx : c'.exchanges = .sent message :: c.exchanges) : CatalogLive setup c' := by
  unfold CatalogLive at *
  rw [hx, hw]
  exact h

theorem starting_discipline {purpose : Purpose} {message : PilotMessage} (h : Discipline setup c)
    (hw : c.worker = some w) (hpc : w.pc = .starting purpose message) :
    Discipline setup
      { c with
        active := some (message, false)
        worker := some (w.at (.awaiting purpose))
        exchanges := .sent message :: c.exchanges } := by
  have hold := h.worker w hw
  unfold Worker.Holds at hold
  rw [hpc] at hold
  have hfollows : message.Follows setup c.identity c.exchanges := by
    cases purpose with
    | register state =>
      obtain ⟨_, _, rfl⟩ := hold
      trivial
    | catalog publication =>
      obtain ⟨⟨⟨response, hr, _, _, hm⟩, _⟩, rfl⟩ := hold
      rw [hm]
      exact ⟨response, hr, rfl⟩
    | lifecycle pending =>
      obtain ⟨⟨response, hr, hsession⟩, hlive, _, rfl, _⟩ := hold
      exact lifecycleMessage_follows hr hsession hlive.catalogs_ne_nil
    | disconnect =>
      cases (hold : message = _)
      trivial
  refine ⟨h.pending, h.orderly.sent hfollows, fun hon => (h.online hon).sent message rfl rfl, ?_⟩
  intro other hother
  cases hother
  cases purpose with
  | register state =>
    obtain ⟨hstate, hfresh, rfl⟩ := hold
    exact ⟨hstate, hfresh, rfl⟩
  | catalog publication =>
    obtain ⟨⟨⟨response, hr, hsession, hserver, hm⟩, hseq, hone, hsynced⟩, rfl⟩ := hold
    refine ⟨⟨response, hr, hsession, hserver, hm⟩, ?_, hone, hsynced⟩
    show sequences (.sent publication.message :: c.exchanges) = []
    rw [hm]
    exact hseq
  | lifecycle pending =>
    obtain ⟨⟨response, hr, hsession⟩, hlive, hc, rfl, hsequence⟩ := hold
    refine ⟨⟨⟨response, hr, hsession⟩, hlive.sent _ rfl rfl, ?_⟩, ?_, ?_⟩
    · show w.sequence = _
      rw [hsequence]
      cases pending <;> rfl
    · cases pending with
      | none => exact hc
      | some state => exact hc
    · cases pending <;> rfl
  | disconnect => trivial

theorem workerStep_discipline (h : Discipline setup c) (hw : c.worker = some w)
    (hs : workerStep setup c w = some c') : Discipline setup c' := by
  have hold := h.worker w hw
  unfold workerStep at hs
  unfold Worker.Holds at hold
  split at hs <;> rename_i hpc <;> rw [hpc] at hold
  · cases hs
    apply h.moved
    cases c.stopRequested <;> trivial
  · cases hs
    exact h.reported (by decide) rfl
  · cases hs
    apply h.moved
    unfold Worker.Holds compose
    cases (registerMessage setup c.identity c.currentState).render setup.formatDouble with
    | ok request => exact ⟨hold, fun _ => rfl, rfl⟩
    | error e => trivial
  · cases hs
    exact starting_discipline h hw hpc
  · cases hs
  · rename_i purpose result
    cases hs
    apply h.moved
    cases c.stopRequested with
    | true => trivial
    | false =>
      cases purpose with
      | register state => exact hold
      | catalog publication => exact hold
      | lifecycle pending => exact hold
      | disconnect => trivial
  · cases hs
    exact afterRegister_discipline h hold.1 hold.2.1 hold.2.2
  · cases hs
    exact afterCatalog_discipline h hold
  · cases hs
    exact afterLifecycle_discipline h hold.1 hold.2.1 hold.2.2
  · cases hs
  · cases hs
    apply h.moved
    cases c.stopRequested with
    | true => trivial
    | false => exact ⟨hold, rfl⟩
  · cases hs
    refine ⟨h.pending, h.orderly, fun _ => hold.1.2.1, ?_⟩
    intro other hother
    cases hother
    exact hold
  · cases hs
    apply h.moved
    cases c.stopRequested with
    | true => trivial
    | false => exact hold
  · cases hs
    split
    · exact h.moved trivial
    · exact takePending_discipline h hold.1 hold.2
  · cases hs
    exact h.reported (by decide) trivial
  · cases hs
    refine ⟨h.pending, h.orderly, fun hon => (h.online hon).congr rfl rfl rfl rfl, ?_⟩
    intro other hother
    cases hother
    trivial
  · split at hs
    · cases hs
      exact h.reported (by decide) trivial
    · cases hs
      exact h.reported (by decide) rfl
  · cases hs
    exact h.reported (by decide) trivial
  · cases hs
  · cases hs

theorem requestDone_discipline {result : PilotHttpResult} (h : Discipline setup c)
    (hw : c.worker = some w) (hs : requestDone setup c w result = some c') :
    Discipline setup c' := by
  have hold := h.worker w hw
  unfold requestDone at hs
  unfold Worker.Holds at hold
  split at hs
  · rename_i purpose hpc
    rw [hpc] at hold
    cases hs
    cases purpose with
    | register state =>
      obtain ⟨hstate, hfresh, hcarried⟩ := hold
      have hoff : c.snapshot.state ≠ .online := by
        rw [hstate]
        decide
      refine ⟨h.pending, ?_, fun hon => absurd hon hoff, ?_⟩
      · show Orderly setup c.identity (arrived setup (.register state) result c.exchanges)
        unfold arrived
        simp only
        split
        · exact h.orderly.noted (by simp)
        · exact h.orderly
      · intro other hother
        cases hother
        refine ⟨hstate, hfresh, ?_⟩
        unfold Answered
        split
        · rename_i response hj
          refine ⟨c.exchanges, ?_, hcarried⟩
          simp only [arrived, hj]
        · trivial
    | catalog publication =>
      refine ⟨h.pending, h.orderly, fun hon => (h.online hon).congr rfl rfl rfl rfl, ?_⟩
      intro other hother
      cases hother
      exact hold
    | lifecycle pending =>
      refine ⟨h.pending, h.orderly, fun hon => (h.online hon).congr rfl rfl rfl rfl, ?_⟩
      intro other hother
      cases hother
      exact hold
    | disconnect =>
      refine ⟨h.pending, h.orderly, fun hon => (h.online hon).congr rfl rfl rfl rfl, ?_⟩
      intro other hother
      cases hother
      trivial
  · cases hs

/-- Nothing that the worker relies on changes, and an update becomes pending. -/
theorem Worker.Holds.updated (h : w.Holds setup c) (state : ProviderState) :
    w.Holds setup { c with currentState := state, pendingState := some state } := by
  have hsynced : Synced { c with currentState := state, pendingState := some state } := by
    intro hp
    cases hp
  have hfresh (other : ProviderState) :
      Fresh { c with currentState := state, pendingState := some state } other := by
    intro hp
    cases hp
  have hcarrying (pending : Option ProviderState) :
      Carrying { c with currentState := state, pendingState := some state } pending := by
    cases pending with
    | none => exact hsynced
    | some other => exact hfresh other
  have hpublishing {publication : Publication} (h : Publishing setup c w publication) :
      Publishing setup { c with currentState := state, pendingState := some state } w publication :=
    ⟨h.1, h.2.1, h.2.2.1, hsynced⟩
  unfold Worker.Holds at *
  split at h
  · exact h
  · exact ⟨h.1, hfresh _, h.2.2⟩
  · exact ⟨h.1, hfresh _, h.2.2⟩
  · exact ⟨h.1, hfresh _, h.2.2⟩
  · exact ⟨h.1, hfresh _, h.2.2⟩
  · exact ⟨hpublishing h.1, h.2⟩
  · exact hpublishing h
  · exact hpublishing h
  · exact hpublishing h
  · exact hpublishing h
  · exact ⟨h.1, h.2.1, hcarrying _, h.2.2.2⟩
  · exact ⟨h.1, hcarrying _, h.2.2⟩
  · exact ⟨h.1, hcarrying _, h.2.2⟩
  · exact ⟨h.1, hcarrying _, h.2.2⟩
  · exact ⟨h.1, hsynced⟩
  · exact ⟨h.1, hsynced⟩
  · exact ⟨h.1, hsynced⟩
  · exact h
  · trivial

/-- Without a started client there are no threads. -/
def Client.Idle (c : Client) : Prop := c.started = false → c.worker = none ∧ c.stopper = .idle

/-- The worker leaves alone what belongs to the callers of the client. -/
theorem workerStep_frame (hs : workerStep setup c w = some c') :
    c'.started = c.started ∧ c'.stopRequested = c.stopRequested ∧ c'.stopper = c.stopper ∧
      ∃ w', c'.worker = some w' := by
  unfold workerStep at hs
  split at hs
  case h_7 =>
    cases hs
    unfold afterRegister
    split <;> exact ⟨rfl, rfl, rfl, _, rfl⟩
  case h_8 =>
    cases hs
    unfold afterCatalog
    split <;> exact ⟨rfl, rfl, rfl, _, rfl⟩
  case h_9 =>
    cases hs
    unfold afterLifecycle
    split <;> exact ⟨rfl, rfl, rfl, _, rfl⟩
  case h_14 =>
    cases hs
    split <;> exact ⟨rfl, rfl, rfl, _, rfl⟩
  case h_17 =>
    split at hs <;>
    · cases hs
      exact ⟨rfl, rfl, rfl, _, rfl⟩
  all_goals cases hs
  all_goals exact ⟨rfl, rfl, rfl, _, rfl⟩

theorem requestDone_frame {result : PilotHttpResult} (hs : requestDone setup c w result = some c') :
    c'.started = c.started ∧ c'.stopRequested = c.stopRequested ∧ c'.stopper = c.stopper ∧
      ∃ w', c'.worker = some w' := by
  unfold requestDone at hs
  split at hs
  · cases hs
    exact ⟨rfl, rfl, rfl, _, rfl⟩
  · cases hs

theorem step_idle {e : Event} (h : c.Idle) (hs : step setup c e = some c') : c'.Idle := by
  unfold Client.Idle at *
  cases e with
  | startClient identity initialState =>
    simp only [step] at hs
    split at hs
    · cases hs
      exact h
    · split at hs
      · cases hs
        unfold startClient
        intro hfalse
        simp only at hfalse
        split at hfalse <;> cases hfalse
      · cases hs
  | updateProviderState state =>
    simp only [step] at hs
    split at hs <;>
    · cases hs
      exact h
  | stopClient =>
    simp only [step] at hs
    split at hs
    · rename_i hguard
      cases hs
      intro hfalse
      simp_all
    · cases hs
  | cancelRequest =>
    simp only [step] at hs
    split at hs
    · rename_i hguard
      cases hs
      intro hfalse
      have := (h hfalse).2
      simp_all
    · cases hs
  | joinWorker =>
    simp only [step] at hs
    split at hs
    · cases hs
      exact fun _ => ⟨rfl, rfl⟩
    · cases hs
  | worker =>
    obtain ⟨w, hw, hs⟩ := Option.bind_eq_some_iff.mp hs
    obtain ⟨hstarted, _, _, _, _⟩ := workerStep_frame hs
    intro hfalse
    have hnone := (h (hstarted ▸ hfalse)).1
    cases hnone.symm.trans hw
  | requestDone result =>
    obtain ⟨w, hw, hs⟩ := Option.bind_eq_some_iff.mp hs
    obtain ⟨hstarted, _, _, _, _⟩ := requestDone_frame hs
    intro hfalse
    have hnone := (h (hstarted ▸ hfalse)).1
    cases hnone.symm.trans hw

theorem step_discipline {e : Event} (hidle : c.Idle) (h : Discipline setup c)
    (hs : step setup c e = some c') : Discipline setup c' := by
  cases e with
  | startClient identity initialState =>
    simp only [step] at hs
    split at hs
    · cases hs
      exact h
    · rename_i hstarted
      split at hs
      · cases hs
        unfold startClient
        simp only
        split
        · refine ⟨?_, .nil, ?_, ?_⟩
          · intro state hstate
            cases hstate
          · intro hon
            cases hon
          · intro w hw
            cases hw
            trivial
        · refine ⟨?_, .nil, ?_, ?_⟩
          · intro state hstate
            cases hstate
          · intro hon
            cases hon
          · intro w hw
            have hnone := (hidle (by simpa using hstarted)).1
            cases hnone.symm.trans hw
      · cases hs
  | updateProviderState state =>
    simp only [step] at hs
    split at hs
    · cases hs
      refine ⟨?_, h.orderly, fun hon => (h.online hon).congr rfl rfl rfl rfl, ?_⟩
      · intro other hother
        cases hother
        rfl
      · intro w hw
        exact (h.worker w hw).updated state
    · cases hs
      exact h
  | stopClient =>
    simp only [step] at hs
    split at hs
    · cases hs
      exact ⟨h.pending, h.orderly, fun hon => (h.online hon).congr rfl rfl rfl rfl, h.worker⟩
    · cases hs
  | cancelRequest =>
    simp only [step] at hs
    split at hs
    · cases hs
      exact ⟨h.pending, h.orderly, fun hon => (h.online hon).congr rfl rfl rfl rfl, h.worker⟩
    · cases hs
  | joinWorker =>
    simp only [step] at hs
    split at hs
    · cases hs
      refine ⟨h.pending, h.orderly, fun hon => (h.online hon).congr rfl rfl rfl rfl, ?_⟩
      intro w hw
      cases hw
    · cases hs
  | worker =>
    obtain ⟨w, hw, hs⟩ := Option.bind_eq_some_iff.mp hs
    exact workerStep_discipline h hw hs
  | requestDone result =>
    obtain ⟨w, hw, hs⟩ := Option.bind_eq_some_iff.mp hs
    exact requestDone_discipline h hw hs

end
end NodusVision.Pilot
