import NodusVision.Pilot.Discipline

/-! Which session the worker disconnects when it leaves. -/
namespace NodusVision.Pilot
open Text

/-- The session id that the worker keeps, if it keeps one. -/
def keptSession (sessionId : ByteString) : Option ByteString :=
  if sessionId = [] then none else some sessionId

/-- The next step of the worker loses a live session, or keeps the id of one that was discarded:
the stop flag is found set while `session_id` names a discarded session, or when a registration was just
accepted, or the worker returns from a catalog fault. -/
def Worker.strays (setup : ClientSetup) (c : Client) (w : Worker) : Bool :=
  match w.pc with
  | .loop => c.stopRequested && !w.sessionId.isEmpty && (liveSession c.exchanges).isNone
  | .answered (.register _) result =>
    c.stopRequested && (!w.sessionId.isEmpty || (judgeRegister setup result).isAccepted)
  | .judging (.catalog publication) result =>
    (judgeCatalog setup publication.serverInstanceId result).isFault
  | _ => false

def KeepsSession (setup : ClientSetup) (c : Client) (e : Event) (_ : Client) : Prop :=
  e = .worker → ∀ w, c.worker = some w → w.strays setup c = false

/-- Between sessions: the session that is kept is live, or none is. -/
def Between (c : Client) (w : Worker) : Prop :=
  liveSession c.exchanges = none ∨ liveSession c.exchanges = keptSession w.sessionId

/-- In a live session. -/
def Alive (c : Client) (w : Worker) : Prop :=
  w.sessionId ≠ [] ∧ liveSession c.exchanges = some w.sessionId

/-- What is live and what was disconnected, where the worker is. -/
def Worker.Tracks (setup : ClientSetup) (c : Client) (w : Worker) : Prop :=
  match w.pc with
  | .loop => Between c w ∧ disconnects c.exchanges = []
  | .registering => Between c w ∧ disconnects c.exchanges = []
  | .readingState => Between c w ∧ disconnects c.exchanges = []
  | .retrying => Between c w ∧ disconnects c.exchanges = []
  | .caught => Between c w ∧ disconnects c.exchanges = []
  | .starting (.register _) _ => Between c w ∧ disconnects c.exchanges = []
  | .awaiting (.register _) => liveSession c.exchanges = none ∧ disconnects c.exchanges = []
  | .answered (.register _) result =>
    (∀ response, judgeRegister setup result = .accepted response →
      liveSession c.exchanges = some response.sessionId) ∧
    ((∀ response, judgeRegister setup result ≠ .accepted response) →
      liveSession c.exchanges = none) ∧ disconnects c.exchanges = []
  | .judging (.register _) result =>
    (∀ response, judgeRegister setup result = .accepted response →
      liveSession c.exchanges = some response.sessionId) ∧
    ((∀ response, judgeRegister setup result ≠ .accepted response) →
      liveSession c.exchanges = none) ∧ disconnects c.exchanges = []
  | .leaving =>
    liveSession c.exchanges = keptSession w.sessionId ∧ disconnects c.exchanges = []
  | .awaiting .disconnect =>
    liveSession c.exchanges = some w.sessionId ∧ disconnects c.exchanges = [w.sessionId]
  | .answered .disconnect _ => False
  | .disconnected =>
    liveSession c.exchanges = some w.sessionId ∧ disconnects c.exchanges = [w.sessionId]
  | .done => disconnects c.exchanges = (liveSession c.exchanges).toList
  | .crashed => True
  | _ => Alive c w ∧ disconnects c.exchanges = []

structure Tracking (setup : ClientSetup) (c : Client) : Prop where
  worker : ∀ w, c.worker = some w → w.Tracks setup c
  ended : c.worker = none → disconnects c.exchanges = (liveSession c.exchanges).toList

section
variable {setup : ClientSetup} {c c' : Client} {w w' : Worker}

theorem Alive.between (h : Alive c w) : Between c w := by
  right
  rw [h.2, keptSession, if_neg h.1]

theorem Alive.kept (h : Alive c w) : liveSession c.exchanges = keptSession w.sessionId := by
  rw [h.2, keptSession, if_neg h.1]

theorem keptSession_eq_some {sessionId : ByteString} (h : sessionId ≠ []) :
    keptSession sessionId = some sessionId := if_neg h

/-- The worker moves to `w'`. -/
theorem Tracking.moved (hnext : c'.worker = some w') (ht : w'.Tracks setup c') :
    Tracking setup c' where
  worker := by
    intro other hother
    cases hnext.symm.trans hother
    exact ht
  ended := by
    intro hnone
    cases hnext.symm.trans hnone

theorem judgeRegister_sessionId {result : PilotHttpResult} {response : PilotRegistrationResponse}
    (h : judgeRegister setup result = .accepted response) : response.sessionId ≠ [] := by
  unfold judgeRegister at h
  split at h
  · split at h
    · rename_i parsed hp
      cases h
      exact parseRegistrationResponse_sessionId hp
    · cases h
  · split at h
    · cases h
    · split at h <;> cases h

theorem afterRegister_tracks {result : PilotHttpResult}
    (hlive : ∀ response, judgeRegister setup result = .accepted response →
      liveSession c.exchanges = some response.sessionId)
    (hdead : (∀ response, judgeRegister setup result ≠ .accepted response) →
      liveSession c.exchanges = none)
    (hnone : disconnects c.exchanges = []) : Tracking setup (afterRegister setup c w result) := by
  unfold afterRegister
  split
  · rename_i response hj
    refine .moved rfl ?_
    have halive : Alive c { w with sessionId := response.sessionId, sequence := 1 } :=
      ⟨judgeRegister_sessionId hj, hlive response hj⟩
    unfold Worker.Tracks
    cases (catalogMessage setup c.identity response.sessionId).render setup.formatDouble with
    | ok request => exact ⟨halive, hnone⟩
    | error e => exact ⟨halive.between, hnone⟩
  · rename_i error hj
    have hdead := hdead (by intro response h; cases hj.symm.trans h)
    exact .moved rfl ⟨.inl hdead, hnone⟩
  · rename_i hj
    have hdead := hdead (by intro response h; cases hj.symm.trans h)
    refine .moved rfl ?_
    show disconnects c.exchanges = (liveSession c.exchanges).toList
    rw [hdead, hnone]
    rfl

theorem afterCatalog_tracks {publication : Publication} {result : PilotHttpResult}
    (h : Alive c w) (hnone : disconnects c.exchanges = [])
    (hfault : (judgeCatalog setup publication.serverInstanceId result).isFault = false) :
    Tracking setup (afterCatalog setup c w publication result) := by
  unfold afterCatalog
  split
  · exact .moved rfl ⟨h, hnone⟩
  · exact .moved rfl ⟨.inl rfl, hnone⟩
  · rename_i error hj
    rw [hj] at hfault
    cases hfault
  · exact .moved rfl ⟨h, hnone⟩

theorem afterLifecycle_tracks {result : PilotHttpResult} (h : Alive c w)
    (hnone : disconnects c.exchanges = []) : Tracking setup (afterLifecycle setup c w result) := by
  unfold afterLifecycle
  split
  · exact .moved rfl ⟨h, hnone⟩
  · exact .moved rfl ⟨.inl rfl, hnone⟩

theorem takePending_tracks (h : Alive c w) (hnone : disconnects c.exchanges = []) :
    Tracking setup (takePending setup c w) := by
  refine .moved rfl ?_
  unfold compose Worker.Tracks
  cases (lifecycleMessage w.sessionId w.sequence c.pendingState).render setup.formatDouble with
  | ok request => exact ⟨h, hnone⟩
  | error e => exact ⟨h.between, hnone⟩

theorem starting_tracks {purpose : Purpose} {message : PilotMessage} (hd : Discipline setup c)
    (hw : c.worker = some w) (hpc : w.pc = .starting purpose message) (ht : w.Tracks setup c) :
    Tracking setup
      { c with
        active := some (message, false)
        worker := some (w.at (.awaiting purpose))
        exchanges := .sent message :: c.exchanges } := by
  have hat := hd.worker w hw
  unfold Worker.Holds at hat
  unfold Worker.Tracks at ht
  rw [hpc] at ht hat
  refine .moved rfl ?_
  cases purpose with
  | register state =>
    obtain ⟨_, _, rfl⟩ := hat
    exact ⟨rfl, ht.2⟩
  | catalog publication =>
    obtain ⟨⟨⟨_, _, _, _, hm⟩, _⟩, rfl⟩ := hat
    unfold Worker.Tracks Alive
    simp only [Worker.at, hm]
    exact ht
  | lifecycle pending =>
    obtain ⟨_, _, _, rfl, _⟩ := hat
    cases pending with
    | none => exact ht
    | some state => exact ht
  | disconnect =>
    obtain ⟨⟨_, hlive⟩, hnone⟩ := ht
    cases (hat : message = _)
    refine ⟨hlive, ?_⟩
    show w.sessionId :: disconnects c.exchanges = [w.sessionId]
    rw [hnone]

theorem workerStep_tracks (hd : Discipline setup c) (ht : w.Tracks setup c)
    (hw : c.worker = some w) (hk : w.strays setup c = false) (hs : workerStep setup c w = some c') :
    Tracking setup c' := by
  have hold := ht
  unfold workerStep at hs
  unfold Worker.Tracks at hold
  unfold Worker.strays at hk
  split at hs <;> rename_i hpc <;> rw [hpc] at hold hk
  · cases hs
    refine .moved rfl ?_
    obtain ⟨hbetween, hnone⟩ := hold
    cases hf : c.stopRequested with
    | true =>
      refine ⟨?_, hnone⟩
      rcases hbetween with hdead | hkept
      · have hempty : w.sessionId = [] := by simpa [hf, hdead] using hk
        show liveSession c.exchanges = keptSession w.sessionId
        rw [hdead, hempty]
        rfl
      · exact hkept
    | false => exact ⟨hbetween, hnone⟩
  · cases hs
    exact .moved rfl hold
  · cases hs
    refine .moved rfl ?_
    unfold compose Worker.Tracks
    cases (registerMessage setup c.identity c.currentState).render setup.formatDouble with
    | ok request => exact hold
    | error e => trivial
  · cases hs
    exact starting_tracks hd hw hpc ht
  · cases hs
  · rename_i purpose result
    cases hs
    refine .moved rfl ?_
    cases purpose with
    | register state =>
      obtain ⟨hlive, hdead, hnone⟩ := hold
      cases hf : c.stopRequested with
      | true =>
        simp only [hf, Bool.true_and, Bool.or_eq_false_iff, Bool.not_eq_false',
          List.isEmpty_iff] at hk
        obtain ⟨hempty, hjudged⟩ := hk
        have hrefused : ∀ response, judgeRegister setup result ≠ .accepted response := by
          intro response hj
          rw [hj] at hjudged
          cases hjudged
        refine ⟨?_, hnone⟩
        show liveSession c.exchanges = keptSession w.sessionId
        rw [hdead hrefused, hempty]
        rfl
      | false => exact ⟨hlive, hdead, hnone⟩
    | catalog publication =>
      cases c.stopRequested with
      | true => exact ⟨hold.1.kept, hold.2⟩
      | false => exact hold
    | lifecycle pending =>
      cases c.stopRequested with
      | true => exact ⟨hold.1.kept, hold.2⟩
      | false => exact hold
    | disconnect => exact hold.elim
  · cases hs
    exact afterRegister_tracks hold.1 hold.2.1 hold.2.2
  · cases hs
    exact afterCatalog_tracks hold.1 hold.2 hk
  · cases hs
    exact afterLifecycle_tracks hold.1 hold.2
  · cases hs
  · cases hs
    refine .moved rfl ?_
    cases c.stopRequested with
    | true => exact ⟨hold.1.kept, hold.2⟩
    | false => exact hold
  · cases hs
    exact .moved rfl hold
  · cases hs
    refine .moved rfl ?_
    cases c.stopRequested with
    | true => exact ⟨hold.1.kept, hold.2⟩
    | false => exact hold
  · cases hs
    split
    · exact .moved rfl ⟨hold.1.kept, hold.2⟩
    · exact takePending_tracks hold.1 hold.2
  · cases hs
    exact .moved rfl hold
  · cases hs
    exact .moved rfl hold
  · obtain ⟨hkept, hnone⟩ := hold
    split at hs
    · rename_i hempty
      cases hs
      refine .moved rfl ?_
      show disconnects c.exchanges = (liveSession c.exchanges).toList
      rw [hkept, hempty, hnone]
      rfl
    · rename_i hne
      cases hs
      refine .moved rfl ⟨⟨hne, ?_⟩, hnone⟩
      exact hkept.trans (keptSession_eq_some hne)
  · cases hs
    refine .moved rfl ?_
    show disconnects c.exchanges = (liveSession c.exchanges).toList
    rw [hold.1, hold.2]
    rfl
  · cases hs
  · cases hs

theorem requestDone_tracks {result : PilotHttpResult} (ht : w.Tracks setup c)
    (hs : requestDone setup c w result = some c') : Tracking setup c' := by
  unfold requestDone at hs
  unfold Worker.Tracks at ht
  split at hs
  · rename_i purpose hpc
    rw [hpc] at ht
    cases hs
    refine .moved rfl ?_
    cases purpose with
    | register state =>
      obtain ⟨hdead, hnone⟩ := ht
      show (∀ response, _ → liveSession (arrived setup (.register state) result c.exchanges) = _) ∧
        (_ → liveSession (arrived setup (.register state) result c.exchanges) = none) ∧
        disconnects (arrived setup (.register state) result c.exchanges) = []
      unfold arrived
      cases hj : judgeRegister setup result with
      | accepted response =>
        refine ⟨?_, fun h => absurd rfl (h response), hnone⟩
        intro other hother
        cases hother
        rfl
      | recovering error =>
        refine ⟨?_, fun _ => hdead, hnone⟩
        intro other hother
        cases hother
      | contractFault =>
        refine ⟨?_, fun _ => hdead, hnone⟩
        intro other hother
        cases hother
    | catalog publication => exact ht
    | lifecycle pending => exact ht
    | disconnect => exact ht
  · cases hs

theorem step_tracking {e : Event} (hidle : c.Idle) (hd : Discipline setup c)
    (h : Tracking setup c) (hs : step setup c e = some c') (hk : KeepsSession setup c e c') :
    Tracking setup c' := by
  cases e with
  | startClient identity initialState =>
    simp only [step] at hs
    split at hs
    · cases hs
      exact h
    · rename_i hstarted
      split at hs
      · cases hs
        unfold startClient
        simp only
        split
        · exact .moved rfl ⟨.inl rfl, rfl⟩
        · refine ⟨?_, fun _ => rfl⟩
          intro w hw
          have hnone := (hidle (by simpa using hstarted)).1
          cases hnone.symm.trans hw
      · cases hs
  | updateProviderState state =>
    simp only [step] at hs
    split at hs <;>
    · cases hs
      exact ⟨h.worker, h.ended⟩
  | stopClient =>
    simp only [step] at hs
    split at hs
    · cases hs
      exact ⟨h.worker, h.ended⟩
    · cases hs
  | cancelRequest =>
    simp only [step] at hs
    split at hs
    · cases hs
      exact ⟨h.worker, h.ended⟩
    · cases hs
  | joinWorker =>
    simp only [step] at hs
    split at hs
    · rename_i hguard
      cases hs
      refine ⟨fun w hw => (by cases hw), ?_⟩
      intro _
      have hjoin : isJoinable c.worker = true := by
        simp only [Bool.and_eq_true] at hguard
        exact hguard.2
      unfold isJoinable at hjoin
      split at hjoin
      · exact h.worker _ ‹_›
      · cases hjoin
      · exact h.ended ‹_›
    · cases hs
  | worker =>
    obtain ⟨w, hw, hs⟩ := Option.bind_eq_some_iff.mp hs
    exact workerStep_tracks hd (h.worker w hw) hw (hk rfl w hw) hs
  | requestDone result =>
    obtain ⟨w, hw, hs⟩ := Option.bind_eq_some_iff.mp hs
    exact requestDone_tracks (h.worker w hw) hs

end
end NodusVision.Pilot
