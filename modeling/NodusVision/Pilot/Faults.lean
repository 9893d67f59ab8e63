import NodusVision.Pilot.Discipline

/-! Answers that are contract faults, and how the worker ends with and without one. -/
namespace NodusVision.Pilot
open Text Transition

/-- The answers after which the client gives up. -/
def IsContractFault (setup : ClientSetup) (result : PilotHttpResult) : Purpose → Prop
  | .register _ => result.status ∈ [400, 413, 415]
  | .catalog _ => result.status ∈ [400, 413, 415] ∨ result.status = 409 ∧
      getErrorCode setup.parse result.body ∉
        [ascii "stale_catalog_generation", ascii "session_expired", ascii "stale_sequence"]
  | .lifecycle _ | .disconnect => False

theorem isContractStatus_iff {status : ℕ} :
    isContractStatus status = true ↔ status ∈ [400, 413, 415] := by
  unfold isContractStatus
  simp only [Bool.or_eq_true, beq_iff_eq, List.mem_cons, List.not_mem_nil, or_false, or_assoc]

theorem judgeRegister_contractFault {setup : ClientSetup} {result : PilotHttpResult}
    {state : ProviderState} :
    judgeRegister setup result = .contractFault ↔
      IsContractFault setup result (.register state) := by
  unfold judgeRegister IsContractFault
  rw [← isContractStatus_iff]
  by_cases hs : result.status = 201
  · rw [if_pos hs, hs]
    constructor
    · intro h
      split at h <;> cases h
    · intro h
      cases h
  · rw [if_neg hs]
    by_cases hf : isContractStatus result.status = true
    · rw [if_pos hf]
      exact iff_of_true rfl hf
    · rw [if_neg hf]
      apply iff_of_false _ hf
      split <;> exact RegisterVerdict.noConfusion

theorem classifyCatalogConflict_replaceSession {errorCode : ByteString} :
    classifyCatalogConflict errorCode = .replaceSession ↔
      errorCode ∈ [ascii "stale_catalog_generation", ascii "session_expired",
        ascii "stale_sequence"] := by
  unfold classifyCatalogConflict
  simp only [List.mem_cons, List.not_mem_nil, or_false]
  split
  · exact iff_of_true rfl ‹_›
  · apply iff_of_false _ ‹_›
    split <;> exact CatalogConflictDisposition.noConfusion

theorem judgeCatalog_isFault {setup : ClientSetup} {publication : Publication}
    {result : PilotHttpResult} :
    (judgeCatalog setup publication.serverInstanceId result).isFault = true ↔
      IsContractFault setup result (.catalog publication) := by
  unfold judgeCatalog IsContractFault
  rw [← isContractStatus_iff, ← classifyCatalogConflict_replaceSession]
  dsimp only
  by_cases h200 : result.status = 200
  · rw [if_pos h200, h200]
    apply iff_of_false
    · split <;> exact Bool.noConfusion
    · simp [isContractStatus]
  · rw [if_neg h200]
    by_cases h409 : result.status = 409
    · rw [if_pos h409, h409]
      cases classifyCatalogConflict (getErrorCode setup.parse result.body) <;>
        simp [isContractStatus, CatalogVerdict.isFault]
    · rw [if_neg h409]
      by_cases hf : isContractStatus result.status = true
      · rw [if_pos hf]
        exact iff_of_true rfl (.inl hf)
      · rw [if_neg hf]
        apply iff_of_false
        · split <;> exact Bool.noConfusion
        · rintro (h | ⟨h, -⟩)
          · exact hf h
          · exact h409 h

/-- The worker takes up no contract fault. -/
def FaultFree (setup : ClientSetup) (c : Client) (e : Event) (_ : Client) : Prop :=
  e = .worker → ∀ w purpose result, c.worker = some w → w.pc = .judging purpose result →
    ¬ IsContractFault setup result purpose

/-- A start that is not ignored -/
def Restarts (c : Client) (e : Event) : Prop :=
  c.started = false ∧ ∃ identity initialState, e = .startClient identity initialState

/-- The client gave up, and does nothing more. -/
def GaveUp (c : Client) : Prop :=
  c.snapshot.state = .contractFault ∧ ∀ w, c.worker = some w → w.pc = .done

/-- A worker that has returned has published `STOPPED`. -/
structure EndsStopped (setup : ClientSetup) (c : Client) : Prop where
  idle : c.Idle
  running : c.started = true → setup.config.pilot.enabled = true → ∃ w, c.worker = some w
  stopped : ∀ w, c.worker = some w → w.pc = .done → c.snapshot.state = .stopped

section
variable {setup : ClientSetup} {c c' : Client} {w w' : Worker}

theorem compose_ne_done {purpose : Purpose} {message : PilotMessage} {handler : WorkerPc}
    (h : handler ≠ .done) : compose setup purpose message handler ≠ .done := by
  unfold compose
  split
  · exact WorkerPc.noConfusion
  · exact h

/-- The two ways to return -/
def Returned (setup : ClientSetup) (w : Worker) (c' : Client) : Prop :=
  c'.snapshot.state = .stopped ∨ c'.snapshot.state = .contractFault ∧
    ∃ purpose result, w.pc = .judging purpose result ∧ IsContractFault setup result purpose

theorem afterRegister_done {result : PilotHttpResult} {state : ProviderState}
    (hpc : w.pc = .judging (.register state) result)
    (hw : (afterRegister setup c w result).worker = some w') (hdone : w'.pc = .done) :
    Returned setup w (afterRegister setup c w result) := by
  unfold afterRegister at hw ⊢
  split at hw
  · cases hw
    dsimp only at hdone
    split at hdone <;> cases hdone
  · cases hw
    cases hdone
  · rename_i hj
    exact .inr ⟨rfl, _, result, hpc, judgeRegister_contractFault.mp hj⟩

theorem afterCatalog_done {result : PilotHttpResult} {publication : Publication}
    (hpc : w.pc = .judging (.catalog publication) result)
    (hw : (afterCatalog setup c w publication result).worker = some w') (hdone : w'.pc = .done) :
    Returned setup w (afterCatalog setup c w publication result) := by
  unfold afterCatalog at hw ⊢
  split at hw
  · cases hw
    cases hdone
  · cases hw
    cases hdone
  · rename_i error hj
    refine .inr ⟨rfl, _, result, hpc, judgeCatalog_isFault.mp ?_⟩
    rw [hj]
    rfl
  · cases hw
    cases hdone

theorem afterLifecycle_ne_done {result : PilotHttpResult}
    (hw : (afterLifecycle setup c w result).worker = some w') : w'.pc ≠ .done := by
  unfold afterLifecycle at hw
  split at hw <;>
  · cases hw
    exact WorkerPc.noConfusion

theorem workerStep_done (hs : workerStep setup c w = some c') (hw : c'.worker = some w')
    (hdone : w'.pc = .done) : Returned setup w c' := by
  unfold workerStep at hs
  split at hs <;> rename_i hpc
  case h_3 =>
    cases hs
    cases hw
    exact absurd hdone (compose_ne_done WorkerPc.noConfusion)
  case h_7 =>
    cases hs
    exact afterRegister_done hpc hw hdone
  case h_8 =>
    cases hs
    exact afterCatalog_done hpc hw hdone
  case h_9 =>
    cases hs
    exact absurd hdone (afterLifecycle_ne_done hw)
  case h_14 =>
    cases hs
    split at hw
    · cases hw
      cases hdone
    · cases hw
      exact absurd hdone (compose_ne_done WorkerPc.noConfusion)
  case h_17 =>
    split at hs <;> cases hs
    · exact .inl rfl
    · cases hw
      cases hdone
  case h_18 =>
    cases hs
    exact .inl rfl
  all_goals cases hs
  all_goals cases hw
  all_goals dsimp only [Worker.at] at hdone
  all_goals first
    | cases hdone
    | split at hdone <;> cases hdone

theorem requestDone_ne_done {result : PilotHttpResult}
    (hs : requestDone setup c w result = some c') (hw : c'.worker = some w') : w'.pc ≠ .done := by
  unfold requestDone at hs
  split at hs
  · cases hs
    cases hw
    dsimp only [Worker.at]
    split <;> exact WorkerPc.noConfusion
  · cases hs

theorem workerStep_running (hs : workerStep setup c w = some c') : w.pc ≠ .done := by
  intro hdone
  unfold workerStep at hs
  rw [hdone] at hs
  cases hs

theorem requestDone_running {result : PilotHttpResult}
    (hs : requestDone setup c w result = some c') : w.pc ≠ .done := by
  intro hdone
  unfold requestDone at hs
  rw [hdone] at hs
  cases hs

/-- Nothing but a new start moves a client that gave up; it sends nothing. -/
theorem GaveUp.step {e : Event} (h : GaveUp c) (hs : step setup c e = some c')
    (he : ¬ Restarts c e) : GaveUp c' ∧ c'.exchanges = c.exchanges := by
  cases e with
  | startClient identity initialState =>
    simp only [Pilot.step] at hs
    split at hs
    · cases hs
      exact ⟨h, rfl⟩
    · rename_i hstarted
      exact absurd ⟨by simpa using hstarted, identity, initialState, rfl⟩ he
  | updateProviderState state =>
    simp only [Pilot.step] at hs
    split at hs <;>
    · cases hs
      exact ⟨h, rfl⟩
  | stopClient =>
    simp only [Pilot.step] at hs
    split at hs <;> cases hs
    exact ⟨h, rfl⟩
  | cancelRequest =>
    simp only [Pilot.step] at hs
    split at hs <;> cases hs
    exact ⟨h, rfl⟩
  | joinWorker =>
    simp only [Pilot.step] at hs
    split at hs <;> cases hs
    refine ⟨⟨h.1, fun w hw => ?_⟩, rfl⟩
    cases hw
  | worker =>
    obtain ⟨w, hw, hs⟩ := Option.bind_eq_some_iff.mp hs
    exact absurd (h.2 w hw) (workerStep_running hs)
  | requestDone result =>
    obtain ⟨w, hw, hs⟩ := Option.bind_eq_some_iff.mp hs
    exact absurd (h.2 w hw) (requestDone_running hs)

/-- The step that takes up a contract fault -/
theorem gaveUp_of_fault {purpose : Purpose} {result : PilotHttpResult} (hw : c.worker = some w)
    (hpc : w.pc = .judging purpose result) (hf : IsContractFault setup result purpose)
    (hs : step setup c .worker = some c') : GaveUp c' := by
  simp only [step, hw, Option.bind_some, workerStep, hpc] at hs
  cases purpose with
  | register state =>
    cases hs
    unfold afterRegister
    rw [judgeRegister_contractFault.mpr hf]
    refine ⟨rfl, fun w' hw' => ?_⟩
    cases hw'
    rfl
  | catalog publication =>
    cases hs
    have hj := judgeCatalog_isFault.mpr hf
    unfold afterCatalog
    split <;> rename_i hv <;> rw [hv] at hj <;> cases hj
    refine ⟨rfl, fun w' hw' => ?_⟩
    cases hw'
    rfl
  | lifecycle pending => cases hf
  | disconnect => cases hf

/-- `updateProviderState` and the sections of `stopClient` up to the join -/
theorem EndsStopped.kept (h : EndsStopped setup c) (hstarted : c'.started = c.started)
    (hidle : c'.Idle) (hworker : c'.worker = c.worker) (hsnapshot : c'.snapshot = c.snapshot) :
    EndsStopped setup c' where
  idle := hidle
  running := by
    rw [hstarted, hworker]
    exact h.running
  stopped := by
    rw [hworker, hsnapshot]
    exact h.stopped

/-- The worker moves on. -/
theorem endsStopped_moved (hidle : c'.Idle) (hw' : c'.worker = some w')
    (hstopped : w'.pc = .done → c'.snapshot.state = .stopped) : EndsStopped setup c' where
  idle := hidle
  running := fun _ _ => ⟨w', hw'⟩
  stopped := by
    intro other hother
    cases hw'.symm.trans hother
    exact hstopped

theorem EndsStopped.step {e : Event} (h : EndsStopped setup c) (hs : step setup c e = some c')
    (hf : FaultFree setup c e c') : EndsStopped setup c' := by
  have hidle := step_idle h.idle hs
  cases e with
  | startClient identity initialState =>
    simp only [Pilot.step] at hs
    split at hs
    · cases hs
      exact h
    · rename_i hstarted
      have hnone := (h.idle (by simpa using hstarted)).1
      split at hs <;> cases hs
      unfold startClient at hidle ⊢
      by_cases hen : setup.config.pilot.enabled = true
      · simp only [hen, if_true] at hidle ⊢
        refine ⟨hidle, fun _ _ => ⟨_, rfl⟩, fun w hw hdone => ?_⟩
        cases hw
        cases hdone
      · simp only [hen] at hidle ⊢
        refine ⟨hidle, fun _ htrue => absurd htrue hen, fun w hw hdone => ?_⟩
        cases hnone.symm.trans hw
  | updateProviderState state =>
    simp only [Pilot.step] at hs
    split at hs <;> cases hs
    · exact h.kept rfl hidle rfl rfl
    · exact h
  | stopClient =>
    simp only [Pilot.step] at hs
    split at hs <;> cases hs
    exact h.kept rfl hidle rfl rfl
  | cancelRequest =>
    simp only [Pilot.step] at hs
    split at hs <;> cases hs
    exact h.kept rfl hidle rfl rfl
  | joinWorker =>
    simp only [Pilot.step] at hs
    split at hs <;> cases hs
    refine ⟨hidle, fun hfalse => ?_, fun w hw => ?_⟩
    · cases hfalse
    · cases hw
  | worker =>
    obtain ⟨w, hw, hs⟩ := Option.bind_eq_some_iff.mp hs
    obtain ⟨-, -, -, w', hw'⟩ := workerStep_frame hs
    apply endsStopped_moved hidle hw'
    intro hdone
    rcases workerStep_done hs hw' hdone with hstate | ⟨-, purpose, result, hpc, hfault⟩
    · exact hstate
    · exact absurd hfault (hf rfl w purpose result hw hpc)
  | requestDone result =>
    obtain ⟨w, hw, hs⟩ := Option.bind_eq_some_iff.mp hs
    obtain ⟨-, -, -, w', hw'⟩ := requestDone_frame hs
    apply endsStopped_moved hidle hw'
    intro hdone
    exact absurd hdone (requestDone_ne_done hs hw')

end
end NodusVision.Pilot
