import NodusVision.Pilot.Paced

/-! Every step of the client keeps its pace. -/
namespace NodusVision.Pilot
open Text

section
variable {setup : ClientSetup} {s : Paced} {w w' : Worker} {c' : Client}

theorem isRegister_lifecycleMessage {sessionId : ByteString} {sequence : ℕ}
    {pending : Option ProviderState} :
    (lifecycleMessage sessionId sequence pending).isRegister = false ∧
      (lifecycleMessage sessionId sequence pending).isCatalog = false := by
  cases pending <;> exact ⟨rfl, rfl⟩

/-- What the worker is about to send. -/
theorem starting_kind {c : Client} (hd : Discipline setup c) (hw : c.worker = some w)
    {purpose : Purpose} {message : PilotMessage} (hpc : w.pc = .starting purpose message) :
    (message.isRegister = true → ∃ state, purpose = .register state) ∧
      (message.isCatalog = true → ∃ publication, purpose = .catalog publication) := by
  have hold := hd.worker w hw
  unfold Worker.Holds at hold
  rw [hpc] at hold
  cases purpose with
  | register state =>
    obtain ⟨-, -, rfl⟩ := hold
    exact ⟨fun _ => ⟨state, rfl⟩, fun h => (by cases h)⟩
  | catalog publication =>
    obtain ⟨⟨⟨_, _, _, _, hm⟩, _⟩, rfl⟩ := hold
    rw [hm]
    exact ⟨fun h => (by cases h), fun _ => ⟨publication, rfl⟩⟩
  | lifecycle pending =>
    obtain ⟨-, -, -, rfl, -⟩ := hold
    have hkind := @isRegister_lifecycleMessage w.sessionId ((sequences c.exchanges).length + 1) pending
    rw [hkind.1, hkind.2]
    exact ⟨fun h => (by cases h), fun h => (by cases h)⟩
  | disconnect =>
    have hold : message = .disconnect w.sessionId := hold
    subst hold
    exact ⟨fun h => (by cases h), fun h => (by cases h)⟩

/-- Outside of the two loops no wait is in progress. -/
theorem waiting_none (h : w.Paces s) (hloop : w.pc ≠ .loop)
    (hcatalog : ∀ publication, w.pc ≠ .catalogLoop publication) : s.waiting = none := by
  unfold Worker.Paces at h
  split at h <;> rename_i hpc
  · exact absurd hpc hloop
  · exact h.1
  · exact h.1
  · exact h.1
  · exact h.1
  · exact h.1
  · exact h.1
  · exact h.1
  · exact absurd hpc (hcatalog _)
  · exact h

theorem inStep_ended (h : Pacing setup s) (hw : s.client.worker = some w) (hheld : s.isHeld = false) :
    InStep setup s.client.stopRequested (s.ended ++ s.beats) := by
  unfold Paced.ended
  cases hwait : s.waiting with
  | none => exact h.beats
  | some wait =>
    obtain ⟨hdelay, hstarted⟩ := h.waiting wait hwait
    apply h.beats.cons
    refine ⟨hdelay, hstarted, ?_, ?_, ?_⟩
    · intro hcut
      exact not_lt.mp (of_decide_eq_false hcut)
    · intro hcut
      unfold Paced.isHeld at hheld
      rw [hwait, Option.any_some, hcut, Bool.true_and] at hheld
      simpa using hheld
    · intro hloop
      have hcount := h.counts w hw
      have hpace := h.paces w hw
      unfold Worker.Counts at hcount
      split at hcount <;> rename_i hpc
      · have hnone := waiting_none hpace (by rw [hpc]; exact WorkerPc.noConfusion)
          (fun _ => by rw [hpc]; exact WorkerPc.noConfusion)
        cases hnone.symm.trans hwait
      · rw [hcount.2 wait hwait hloop, ← hcount.1, hwait, countsRegistration, if_pos hloop]

theorem inStep_noted (h : Pacing setup s) (hd : Discipline setup s.client)
    (hw : s.client.worker = some w) (hheld : s.isHeld = false) :
    InStep setup s.client.stopRequested (Paced.noted w ++ s.ended ++ s.beats) := by
  have hin := inStep_ended h hw hheld
  have hpace := h.paces w hw
  unfold Paced.noted
  split
  · rename_i purpose message hpc
    have hnone := waiting_none hpace (by rw [hpc]; exact WorkerPc.noConfusion)
      (fun _ => by rw [hpc]; exact WorkerPc.noConfusion)
    have hended : s.ended = [] := by rw [Paced.ended, hnone]
    obtain ⟨hregister, hcatalog⟩ := starting_kind hd hw hpc
    rw [hended] at hin ⊢
    apply hin.cons
    unfold Worker.Paces at hpace
    rw [hpc] at hpace
    constructor
    · intro hm
      obtain ⟨state, rfl⟩ := hregister hm
      exact hpace.2.1
    · intro hm
      obtain ⟨publication, rfl⟩ := hcatalog hm
      exact hpace.2
  · exact hin.cons trivial
  · exact hin

/-- Where the trace has to be quiet. -/
def WorkerPc.isPaced : WorkerPc → Bool
  | .loop | .registering | .readingState | .starting (.register _) _ | .awaiting (.register _)
  | .answered (.register _) _ | .judging (.register _) _ | .starting (.catalog _) _
  | .catalogLoop _ => true
  | _ => false

theorem paces_of_waiting_none (h : s.waiting = none) (hpc : w.pc.isPaced = false) : w.Paces s := by
  unfold Worker.Paces
  split <;> rename_i hp
  all_goals first
    | exact h
    | rw [hp] at hpc
      cases hpc

theorem compose_lifecycle {pending : Option ProviderState} {message : PilotMessage} :
    (compose setup (.lifecycle pending) message .caught).isPaced = false := by
  unfold compose
  split <;> rfl

theorem paces_register {state : ProviderState} {result : PilotHttpResult}
    (h : Pacing setup s) (hw : s.client.worker = some w)
    (hpc : w.pc = .judging (.register state) result)
    (hw' : (afterRegister setup s.client w result).worker = some w') :
    w'.Paces (s.workerMoved setup w (afterRegister setup s.client w result)) := by
  have hpace := h.paces w hw
  unfold Worker.Paces at hpace
  rw [hpc] at hpace
  obtain ⟨hnone, hquiet⟩ := hpace
  have hwaiting : (s.workerMoved setup w (afterRegister setup s.client w result)).waiting = none := by
    simp only [Paced.workerMoved, Paced.begins, hpc]
  have hbeats : (s.workerMoved setup w (afterRegister setup s.client w result)).beats =
      .judged (.register state) result :: s.beats := by
    simp only [Paced.workerMoved, Paced.noted, Paced.ended, hpc, hnone, List.append_nil,
      List.singleton_append]
  unfold afterRegister at hw'
  split at hw'
  · cases hw'
    unfold Worker.Paces
    dsimp only
    rw [hwaiting, hbeats]
    split <;> rename_i hnext
    case h_9 => exact ⟨fun _ hwait => (by cases hwait), fun _ => hquiet⟩
    case h_10 => rfl
    all_goals
      split at hnext <;> cases hnext
  · cases hw'
    exact paces_of_waiting_none hwaiting rfl
  · cases hw'
    exact paces_of_waiting_none hwaiting rfl

theorem paces_catalog {publication : Publication} {result : PilotHttpResult}
    (hpc : w.pc = .judging (.catalog publication) result)
    (hw' : (afterCatalog setup s.client w publication result).worker = some w') :
    w'.Paces (s.workerMoved setup w (afterCatalog setup s.client w publication result)) := by
  have hwaiting : ∀ c, (s.workerMoved setup w c).waiting =
      if judgeCatalog setup publication.serverInstanceId result = .retry then some
        { loop := .catalog
          retryCount := publication.retryCount + 1
          started := s.now
          delayMs := cappedDelay setup (publication.retryCount + 1) }
      else none := by
    intro c
    simp only [Paced.workerMoved, Paced.begins, hpc]
  unfold afterCatalog at hw'
  split at hw' <;> rename_i hj
  · cases hw'
    apply paces_of_waiting_none _ rfl
    rw [hwaiting, hj]
    rfl
  · cases hw'
    apply paces_of_waiting_none _ rfl
    rw [hwaiting, hj]
    rfl
  · cases hw'
    apply paces_of_waiting_none _ rfl
    rw [hwaiting, hj]
    rfl
  · cases hw'
    have hsome := hwaiting (afterCatalog setup s.client w publication result)
    rw [hj, if_pos rfl] at hsome
    constructor
    · intro wait hwait
      cases hsome.symm.trans hwait
      rfl
    · intro hnone
      cases hsome.symm.trans hnone

theorem afterLifecycle_isPaced {c : Client} {result : PilotHttpResult}
    (hw' : (afterLifecycle setup c w result).worker = some w') : w'.pc.isPaced = false := by
  unfold afterLifecycle at hw'
  split at hw' <;>
  · cases hw'
    rfl

/-- Before a registration nothing was sent since the last wait. -/
theorem paces_registering (hwaiting : s.waiting = none) (hregister : Quiet PilotMessage.isRegister s.beats)
    (hcatalog : Quiet PilotMessage.isCatalog s.beats)
    (hpc : w.pc = .registering ∨ w.pc = .readingState ∨
      ∃ state message, w.pc = .starting (.register state) message) : w.Paces s := by
  unfold Worker.Paces
  obtain hpc | hpc | ⟨state, message, hpc⟩ := hpc <;> rw [hpc] <;>
    exact ⟨hwaiting, hregister, hcatalog⟩

/-- The step from the head of one of the two loops -/
theorem paces_loop (h : Pacing setup s) (hheld : s.isHeld = false) (hw : s.client.worker = some w)
    (hpc : w.pc = .loop) :
    (w.at (if s.client.stopRequested then .leaving else .registering)).Paces
      (s.workerMoved setup w c') := by
  have hpace := h.paces w hw
  unfold Worker.Paces at hpace
  rw [hpc] at hpace
  have hwaiting : (s.workerMoved setup w c').waiting = none := by
    simp only [Paced.workerMoved, Paced.begins, hpc]
  have hbeats : (s.workerMoved setup w c').beats = s.ended ++ s.beats := by
    simp only [Paced.workerMoved, Paced.noted, hpc, List.nil_append]
  cases hstop : s.client.stopRequested with
  | true => exact paces_of_waiting_none hwaiting rfl
  | false =>
    apply paces_registering hwaiting _ _ (.inl rfl)
    · rw [hbeats]
      exact quiet_ended (fun hnone => (hpace.2 hnone).1) hheld hstop
    · rw [hbeats]
      exact quiet_ended (fun hnone => (hpace.2 hnone).2) hheld hstop

theorem paces_catalogLoop (h : Pacing setup s) (hheld : s.isHeld = false)
    (hw : s.client.worker = some w) {publication : Publication}
    (hpc : w.pc = .catalogLoop publication) :
    (w.at (if s.client.stopRequested then .leaving
      else .starting (.catalog publication) publication.message)).Paces
      (s.workerMoved setup w c') := by
  have hpace := h.paces w hw
  unfold Worker.Paces at hpace
  rw [hpc] at hpace
  have hwaiting : (s.workerMoved setup w c').waiting = none := by
    simp only [Paced.workerMoved, Paced.begins, hpc]
  have hbeats : (s.workerMoved setup w c').beats = s.ended ++ s.beats := by
    simp only [Paced.workerMoved, Paced.noted, hpc, List.nil_append]
  cases hstop : s.client.stopRequested with
  | true => exact paces_of_waiting_none hwaiting rfl
  | false =>
    refine ⟨hwaiting, ?_⟩
    rw [hbeats]
    exact quiet_ended hpace.2 hheld hstop

theorem paces_starting (h : Pacing setup s) (hd : Discipline setup s.client)
    (hw : s.client.worker = some w) {purpose : Purpose} {message : PilotMessage}
    (hpc : w.pc = .starting purpose message) :
    (w.at (.awaiting purpose)).Paces (s.workerMoved setup w c') := by
  have hpace := h.paces w hw
  have hnone := waiting_none hpace (by rw [hpc]; exact WorkerPc.noConfusion)
    (fun _ => by rw [hpc]; exact WorkerPc.noConfusion)
  unfold Worker.Paces at hpace
  rw [hpc] at hpace
  have hwaiting : (s.workerMoved setup w c').waiting = none := by
    simp only [Paced.workerMoved, Paced.begins, hpc]
  cases purpose with
  | register state =>
    refine ⟨hwaiting, ?_⟩
    have hbeats : (s.workerMoved setup w c').beats = .sent message :: s.beats := by
      simp only [Paced.workerMoved, Paced.noted, Paced.ended, hpc, hnone, List.append_nil,
        List.singleton_append]
    rw [hbeats]
    refine ⟨?_, hpace.2.2⟩
    have hkind := (starting_kind hd hw hpc).2
    by_contra hcatalog
    obtain ⟨publication, heq⟩ := hkind (by simpa using hcatalog)
    cases heq
  | catalog publication => exact paces_of_waiting_none hwaiting rfl
  | lifecycle pending => exact paces_of_waiting_none hwaiting rfl
  | disconnect => exact paces_of_waiting_none hwaiting rfl

theorem paces_answered (h : Pacing setup s) (hw : s.client.worker = some w) {purpose : Purpose}
    {result : PilotHttpResult} (hpc : w.pc = .answered purpose result) :
    (w.at (if s.client.stopRequested then .leaving else .judging purpose result)).Paces
      (s.workerMoved setup w c') := by
  have hpace := h.paces w hw
  have hnone := waiting_none hpace (by rw [hpc]; exact WorkerPc.noConfusion)
    (fun _ => by rw [hpc]; exact WorkerPc.noConfusion)
  unfold Worker.Paces at hpace
  rw [hpc] at hpace
  have hwaiting : (s.workerMoved setup w c').waiting = none := by
    simp only [Paced.workerMoved, Paced.begins, hpc]
  have hbeats : (s.workerMoved setup w c').beats = s.beats := by
    simp only [Paced.workerMoved, Paced.noted, Paced.ended, hpc, hnone, List.nil_append]
  cases hstop : s.client.stopRequested with
  | true => exact paces_of_waiting_none hwaiting rfl
  | false =>
    cases purpose with
    | register state =>
      refine ⟨hwaiting, ?_⟩
      rw [hbeats]
      exact hpace.2
    | catalog publication => exact paces_of_waiting_none hwaiting rfl
    | lifecycle pending => exact paces_of_waiting_none hwaiting rfl
    | disconnect => exact paces_of_waiting_none hwaiting rfl

theorem paces_moved (h : Pacing setup s) (hd : Discipline setup s.client) (hheld : s.isHeld = false)
    (hw : s.client.worker = some w) (hs : workerStep setup s.client w = some c')
    (hw' : c'.worker = some w') : w'.Paces (s.workerMoved setup w c') := by
  have hpace := h.paces w hw
  unfold Worker.Paces at hpace
  unfold workerStep at hs
  split at hs <;> rename_i hpc <;> rw [hpc] at hpace
  case h_1 =>
    cases hs
    cases hw'
    exact paces_loop h hheld hw hpc
  case h_2 =>
    cases hs
    cases hw'
    apply paces_registering _ _ _ (.inr (.inl rfl))
    all_goals simp only [Paced.workerMoved, Paced.begins, Paced.noted, Paced.ended, hpc, hpace.1,
      List.nil_append]
    · exact hpace.2.1
    · exact hpace.2.2
  case h_3 =>
    cases hs
    cases hw'
    unfold compose
    split
    · apply paces_registering _ _ _ (.inr (.inr ⟨_, _, rfl⟩))
      all_goals simp only [Paced.workerMoved, Paced.begins, Paced.noted, Paced.ended, hpc, hpace.1,
        List.nil_append]
      · exact hpace.2.1
      · exact hpace.2.2
    · apply paces_of_waiting_none _ rfl
      simp only [Paced.workerMoved, Paced.begins, hpc]
  case h_4 =>
    cases hs
    cases hw'
    exact paces_starting h hd hw hpc
  case h_6 =>
    cases hs
    cases hw'
    exact paces_answered h hw hpc
  case h_7 =>
    cases hs
    exact paces_register h hw hpc hw'
  case h_8 =>
    cases hs
    exact paces_catalog hpc hw'
  case h_9 =>
    cases hs
    apply paces_of_waiting_none _ (afterLifecycle_isPaced hw')
    simp only [Paced.workerMoved, Paced.begins, hpc]
  case h_11 =>
    cases hs
    cases hw'
    exact paces_catalogLoop h hheld hw hpc
  case h_14 =>
    cases hs
    split at hw'
    · cases hw'
      apply paces_of_waiting_none _ rfl
      simp only [Paced.workerMoved, Paced.begins, hpc]
    · cases hw'
      apply paces_of_waiting_none _ compose_lifecycle
      simp only [Paced.workerMoved, Paced.begins, hpc]
  case h_16 =>
    cases hs
    cases hw'
    have hsome : ∀ c, (s.workerMoved setup w c).waiting = some
        { loop := .registration
          retryCount := w.retryCount + 1
          started := s.now
          delayMs := cappedDelay setup (w.retryCount + 1) } := by
      intro c
      simp only [Paced.workerMoved, Paced.begins, hpc]
    constructor
    · intro wait hwait
      cases (hsome _).symm.trans hwait
      rfl
    · intro hnone
      cases (hsome _).symm.trans hnone
  case h_17 =>
    split at hs <;>
    · cases hs
      cases hw'
      apply paces_of_waiting_none _ rfl
      simp only [Paced.workerMoved, Paced.begins, hpc]
  all_goals cases hs
  all_goals cases hw'
  case h_13 =>
    apply paces_of_waiting_none
    · simp only [Paced.workerMoved, Paced.begins, hpc]
    · cases s.client.stopRequested <;> rfl
  all_goals
    apply paces_of_waiting_none _ rfl
    simp only [Paced.workerMoved, Paced.begins, hpc]

/-- Only an accepted catalog resets the count of the trace. -/
theorem registrationWaits_moved
    (hp : ∀ purpose result, w.pc = .judging purpose result →
      isPublished setup result purpose = false) :
    registrationWaits setup (s.workerMoved setup w c').beats =
      registrationWaits setup s.beats + countsRegistration s.waiting := by
  rw [← registrationWaits_ended]
  unfold Paced.workerMoved Paced.noted
  dsimp only
  split
  · rfl
  · rename_i purpose result hpc
    rw [List.append_assoc, List.singleton_append, registrationWaits, hp purpose result hpc]
    rfl
  · rfl

theorem counts_retryCount (h : Pacing setup s) (hw : s.client.worker = some w)
    (hpc : w.pc ≠ .goingOnline) :
    registrationWaits setup s.beats + countsRegistration s.waiting = w.retryCount := by
  have hcount := h.counts w hw
  unfold Worker.Counts at hcount
  split at hcount <;> rename_i hgo
  · exact absurd hgo hpc
  · exact hcount.1

/-- A step that keeps the retry count and begins no wait of the registration loop. -/
theorem counts_kept (h : Pacing setup s) (hw : s.client.worker = some w) (hpc : w.pc ≠ .goingOnline)
    (hb : ∀ wait, Paced.begins setup s.now w = some wait → wait.loop = .catalog)
    (hp : ∀ purpose result, w.pc = .judging purpose result →
      isPublished setup result purpose = false)
    (hretry : w'.retryCount = w.retryCount) (hnext : w'.pc ≠ .goingOnline) :
    w'.Counts setup (s.workerMoved setup w c') := by
  unfold Worker.Counts
  split <;> rename_i hgo
  · exact absurd hgo hnext
  · constructor
    · have hzero : countsRegistration (s.workerMoved setup w c').waiting = 0 := by
        unfold Paced.workerMoved
        dsimp only
        cases hwait : Paced.begins setup s.now w with
        | none => rfl
        | some wait =>
          rw [countsRegistration, hb wait hwait]
          rfl
      rw [registrationWaits_moved hp, hzero, hretry]
      exact counts_retryCount h hw hpc
    · intro wait hwait hloop
      cases hloop.symm.trans (hb wait hwait)

theorem begins_none (hretrying : w.pc ≠ .retrying)
    (hjudging : ∀ publication result, w.pc ≠ .judging (.catalog publication) result)
    {now : ℤ} : Paced.begins setup now w = none := by
  unfold Paced.begins
  split <;> rename_i hpc
  · exact absurd hpc hretrying
  · exact absurd hpc (hjudging _ _)
  · rfl

theorem compose_ne_goingOnline {purpose : Purpose} {message : PilotMessage} {handler : WorkerPc}
    (h : handler ≠ .goingOnline) : compose setup purpose message handler ≠ .goingOnline := by
  unfold compose
  split
  · exact WorkerPc.noConfusion
  · exact h

theorem isPublished_catalog {publication : Publication} {result : PilotHttpResult}
    {verdict : CatalogVerdict}
    (h : judgeCatalog setup publication.serverInstanceId result = verdict) :
    isPublished setup result (.catalog publication) = true ↔ ∃ response, verdict = .published response := by
  subst h
  unfold isPublished
  dsimp only
  split
  · exact iff_of_true rfl ⟨_, ‹_›⟩
  · rename_i hne
    apply iff_of_false Bool.false_ne_true
    rintro ⟨response, hj⟩
    exact hne response hj

theorem counts_catalog {publication : Publication} {result : PilotHttpResult} (h : Pacing setup s)
    (hw : s.client.worker = some w) (hpc : w.pc = .judging (.catalog publication) result)
    (hw' : (afterCatalog setup s.client w publication result).worker = some w') :
    w'.Counts setup (s.workerMoved setup w (afterCatalog setup s.client w publication result)) := by
  have hgo : w.pc ≠ .goingOnline := by
    rw [hpc]
    exact WorkerPc.noConfusion
  have hb : ∀ wait, Paced.begins setup s.now w = some wait → wait.loop = .catalog := by
    intro wait hwait
    rw [Paced.begins, hpc] at hwait
    dsimp only at hwait
    split at hwait <;> cases hwait
    rfl
  by_cases hpub : isPublished setup result (.catalog publication) = true
  · have hbeats : registrationWaits setup
        (s.workerMoved setup w (afterCatalog setup s.client w publication result)).beats = 0 := by
      simp only [Paced.workerMoved, Paced.noted, hpc, List.cons_append, registrationWaits, hpub,
        if_true]
    unfold afterCatalog at hw'
    split at hw' <;> rename_i hj
    · cases hw'
      exact hbeats
    all_goals
      obtain ⟨response, heq⟩ := (isPublished_catalog hj).mp hpub
      cases heq
  · have hkept : w'.retryCount = w.retryCount ∧ w'.pc ≠ .goingOnline := by
      unfold afterCatalog at hw'
      split at hw' <;> rename_i hj
      · exact absurd ((isPublished_catalog hj).mpr ⟨_, rfl⟩) hpub
      all_goals
        cases hw'
        exact ⟨rfl, WorkerPc.noConfusion⟩
    apply counts_kept h hw hgo hb _ hkept.1 hkept.2
    intro purpose other hj
    cases hpc.symm.trans hj
    exact Bool.eq_false_iff.mpr hpub

theorem counts_goingOnline (h : Pacing setup s) (hw : s.client.worker = some w)
    (hpc : w.pc = .goingOnline) (hretry : w'.retryCount = 0) (hnext : w'.pc = .sessionLoop) :
    w'.Counts setup (s.workerMoved setup w c') := by
  have hcount := h.counts w hw
  have hnone := waiting_none (h.paces w hw) (by rw [hpc]; exact WorkerPc.noConfusion)
    (fun _ => by rw [hpc]; exact WorkerPc.noConfusion)
  unfold Worker.Counts at hcount
  rw [hpc] at hcount
  have hwaiting : (s.workerMoved setup w c').waiting = none := by
    simp only [Paced.workerMoved, Paced.begins, hpc]
  have hbeats : (s.workerMoved setup w c').beats = s.beats := by
    simp only [Paced.workerMoved, Paced.noted, Paced.ended, hpc, hnone, List.nil_append]
  unfold Worker.Counts
  rw [hnext, hwaiting, hbeats, hretry]
  refine ⟨hcount, fun wait hwait => ?_⟩
  cases hwait

theorem counts_retrying (h : Pacing setup s) (hw : s.client.worker = some w)
    (hpc : w.pc = .retrying) (hretry : w'.retryCount = w.retryCount + 1) (hnext : w'.pc = .loop) :
    w'.Counts setup (s.workerMoved setup w c') := by
  have hcount := counts_retryCount h hw (by rw [hpc]; exact WorkerPc.noConfusion)
  have hwaiting : (s.workerMoved setup w c').waiting = some
      { loop := .registration
        retryCount := w.retryCount + 1
        started := s.now
        delayMs := cappedDelay setup (w.retryCount + 1) } := by
    simp only [Paced.workerMoved, Paced.begins, hpc]
  have hmoved : registrationWaits setup (s.workerMoved setup w c').beats =
      registrationWaits setup s.beats + countsRegistration s.waiting := by
    apply registrationWaits_moved
    intro purpose result hj
    cases hpc.symm.trans hj
  unfold Worker.Counts
  rw [hnext, hwaiting, hmoved, hretry, hcount]
  refine ⟨rfl, fun wait hwait _ => ?_⟩
  cases hwait
  rfl

/-- The other steps keep the retry count. -/
theorem workerStep_retryCount {c : Client} (hgo : w.pc ≠ .goingOnline) (hretrying : w.pc ≠ .retrying)
    (hjudging : ∀ publication result, w.pc ≠ .judging (.catalog publication) result)
    (hs : workerStep setup c w = some c') (hw' : c'.worker = some w') :
    w'.retryCount = w.retryCount ∧ w'.pc ≠ .goingOnline := by
  unfold workerStep at hs
  split at hs <;> rename_i hpc
  case h_3 =>
    cases hs
    cases hw'
    exact ⟨rfl, compose_ne_goingOnline WorkerPc.noConfusion⟩
  case h_7 =>
    cases hs
    unfold afterRegister at hw'
    split at hw' <;> cases hw'
    · dsimp only
      refine ⟨rfl, ?_⟩
      split <;> exact WorkerPc.noConfusion
    all_goals exact ⟨rfl, WorkerPc.noConfusion⟩
  case h_8 => exact absurd hpc (hjudging _ _)
  case h_9 =>
    cases hs
    unfold afterLifecycle at hw'
    split at hw' <;> cases hw'
    all_goals exact ⟨rfl, WorkerPc.noConfusion⟩
  case h_12 => exact absurd hpc hgo
  case h_14 =>
    cases hs
    split at hw' <;> cases hw'
    · exact ⟨rfl, WorkerPc.noConfusion⟩
    · exact ⟨rfl, compose_ne_goingOnline WorkerPc.noConfusion⟩
  case h_16 => exact absurd hpc hretrying
  case h_17 =>
    split at hs <;> cases hs <;> cases hw'
    all_goals exact ⟨rfl, WorkerPc.noConfusion⟩
  all_goals cases hs
  all_goals cases hw'
  all_goals refine ⟨rfl, ?_⟩
  all_goals first
    | exact WorkerPc.noConfusion
    | cases c.stopRequested <;> exact WorkerPc.noConfusion

theorem counts_moved (h : Pacing setup s) (hw : s.client.worker = some w)
    (hs : workerStep setup s.client w = some c') (hw' : c'.worker = some w') :
    w'.Counts setup (s.workerMoved setup w c') := by
  by_cases hgo : w.pc = .goingOnline
  · simp only [workerStep, hgo] at hs
    cases hs
    cases hw'
    exact counts_goingOnline h hw hgo rfl rfl
  by_cases hretrying : w.pc = .retrying
  · simp only [workerStep, hretrying] at hs
    cases hs
    cases hw'
    exact counts_retrying h hw hretrying rfl rfl
  by_cases hjudging : ∃ publication result, w.pc = .judging (.catalog publication) result
  · obtain ⟨publication, result, hpc⟩ := hjudging
    simp only [workerStep, hpc] at hs
    cases hs
    exact counts_catalog h hw hpc hw'
  · have hother : ∀ publication result, w.pc ≠ .judging (.catalog publication) result :=
      fun publication result hpc => hjudging ⟨publication, result, hpc⟩
    obtain ⟨hretry, hnext⟩ := workerStep_retryCount hgo hretrying hother hs hw'
    apply counts_kept h hw hgo _ _ hretry hnext
    · intro wait hwait
      cases (begins_none hretrying hother).symm.trans hwait
    · intro purpose result hj
      cases purpose with
      | catalog publication => exact absurd hj (hother publication result)
      | register state => rfl
      | lifecycle pending => rfl
      | disconnect => rfl

theorem pacing_moved (h : Pacing setup s) (hd : Discipline setup s.client) (hheld : s.isHeld = false)
    (hw : s.client.worker = some w) (hs : workerStep setup s.client w = some c') :
    Pacing setup (s.workerMoved setup w c') where
  beats := by
    have hflag : c'.stopRequested = s.client.stopRequested := (workerStep_frame hs).2.1
    show InStep setup c'.stopRequested (Paced.noted w ++ s.ended ++ s.beats)
    rw [hflag]
    exact inStep_noted h hd hw hheld
  waiting := by
    intro wait hwait
    replace hwait : Paced.begins setup s.now w = some wait := hwait
    unfold Paced.begins at hwait
    split at hwait
    · cases hwait
      exact ⟨rfl, le_rfl⟩
    · split at hwait <;> cases hwait
      exact ⟨rfl, le_rfl⟩
    · cases hwait
  paces _ hw' := paces_moved h hd hheld hw hs hw'
  counts _ hw' := counts_moved h hw hs hw'
  faults := by
    have hstep : Pilot.step setup s.client .worker = some c' := by
      simp only [step, hw, Option.bind_some]
      exact hs
    intro purpose result hm hf
    replace hm : .judged purpose result ∈ Paced.noted w ++ s.ended ++ s.beats := hm
    rw [List.append_assoc, List.mem_append, List.mem_append] at hm
    rcases hm with hm | hm | hm
    · unfold Paced.noted at hm
      split at hm
      · cases List.mem_singleton.mp hm
      · rename_i hpc
        cases List.mem_singleton.mp hm
        refine ⟨⟨s.ended ++ s.beats, ?_⟩, gaveUp_of_fault hw hpc hf hstep⟩
        simp only [Paced.workerMoved, Paced.noted, hpc, List.cons_append, List.nil_append]
      · cases hm
    · unfold Paced.ended at hm
      split at hm
      · cases List.mem_singleton.mp hm
      · cases hm
    · obtain ⟨-, hgone⟩ := h.faults purpose result hm hf
      exact absurd (hgone.2 w hw) (workerStep_running hs)

/-- A step of the client that leaves the worker where the trace has it -/
theorem Pacing.kept (h : Pacing setup s)
    (hflag : c'.stopRequested = s.client.stopRequested ∨ c'.stopRequested = true)
    (hw : ∀ w, c'.worker = some w → w.Paces s ∧ w.Counts setup s)
    (hg : GaveUp s.client → GaveUp c') : Pacing setup { s with client := c' } where
  beats := by
    show InStep setup c'.stopRequested s.beats
    rcases hflag with hflag | hflag
    · rw [hflag]
      exact h.beats
    · rw [hflag]
      exact h.beats.stopped
  waiting := h.waiting
  paces w hw' := (hw w hw').1
  counts w hw' := (hw w hw').2
  faults purpose result hm hf :=
    ⟨(h.faults purpose result hm hf).1, hg (h.faults purpose result hm hf).2⟩

theorem pacing_requestDone (h : Pacing setup s) (hw : s.client.worker = some w)
    {result : PilotHttpResult} (hs : requestDone setup s.client w result = some c') :
    Pacing setup { s with client := c' } := by
  have hflag := (requestDone_frame hs).2.1
  have hrunning := requestDone_running hs
  have hpace := h.paces w hw
  have hcount := h.counts w hw
  apply h.kept (.inl hflag)
  · intro w' hw'
    unfold requestDone at hs
    split at hs
    · rename_i purpose hpc
      have hnone := waiting_none hpace (by rw [hpc]; exact WorkerPc.noConfusion)
        (fun _ => by rw [hpc]; exact WorkerPc.noConfusion)
      unfold Worker.Paces at hpace
      unfold Worker.Counts at hcount
      rw [hpc] at hpace hcount
      cases hs
      cases hw'
      cases purpose with
      | register state => exact ⟨hpace, hcount⟩
      | catalog publication => exact ⟨paces_of_waiting_none hnone rfl, hcount⟩
      | lifecycle pending => exact ⟨paces_of_waiting_none hnone rfl, hcount⟩
      | disconnect => exact ⟨paces_of_waiting_none hnone rfl, hcount⟩
    · cases hs
  · intro hgone
    exact absurd (hgone.2 w hw) hrunning

/-- A new life of the client -/
theorem pacing_started {c : Client} (hw : ∀ w, c.worker = some w → w = { pc := .loop }) :
    Pacing setup { s with client := c, waiting := none, beats := [] } where
  beats := by
    intro beat earlier hs
    cases List.suffix_nil.mp hs
  waiting := by
    intro wait hwait
    cases hwait
  paces := by
    intro w hcw
    rw [hw w hcw]
    exact ⟨fun wait hwait => (by cases hwait), fun _ => ⟨trivial, trivial⟩⟩
  counts := by
    intro w hcw
    rw [hw w hcw]
    exact ⟨rfl, fun wait hwait => (by cases hwait)⟩
  faults := by
    intro purpose result hm
    cases hm

theorem Paced.isRestart_iff {c : Client} {e : Pilot.Event} :
    Paced.isRestart c e = true ↔ Restarts c e := by
  unfold Restarts
  cases e with
  | startClient identity initialState =>
    simp [Paced.isRestart]
  | updateProviderState | stopClient | cancelRequest | joinWorker | worker | requestDone =>
    simp [Paced.isRestart]

theorem pacing_client {e : Pilot.Event} (h : Pacing setup s) (hidle : s.client.Idle)
    (hne : e ≠ .worker) (hs : Pilot.step setup s.client e = some c') :
    Pacing setup (if Paced.isRestart s.client e then
      { s with client := c', waiting := none, beats := [] } else { s with client := c' }) := by
  have hself : ∀ w, s.client.worker = some w → w.Paces s ∧ w.Counts setup s :=
    fun w hw => ⟨h.paces w hw, h.counts w hw⟩
  by_cases hr : Paced.isRestart s.client e = true
  · rw [if_pos hr]
    obtain ⟨hstarted, identity, initialState, rfl⟩ := Paced.isRestart_iff.mp hr
    have hnone := (hidle hstarted).1
    simp only [step, hstarted, Bool.false_eq_true, if_false] at hs
    split at hs <;> cases hs
    apply pacing_started
    intro w hw
    unfold startClient at hw
    dsimp only at hw
    split at hw
    · cases hw
      rfl
    · cases hnone.symm.trans hw
  · rw [if_neg hr]
    have hrestarts : ¬ Restarts s.client e := fun hres => hr (Paced.isRestart_iff.mpr hres)
    have hgone : GaveUp s.client → GaveUp c' := fun hg => (hg.step hs hrestarts).1
    cases e with
    | startClient identity initialState =>
      simp only [step] at hs
      split at hs
      · cases hs
        exact h
      · rename_i hstarted
        exact absurd ⟨by simpa using hstarted, identity, initialState, rfl⟩ hrestarts
    | updateProviderState state =>
      simp only [step] at hs
      split at hs <;> cases hs
      · exact h.kept (.inl rfl) hself hgone
      · exact h
    | stopClient =>
      simp only [step] at hs
      split at hs <;> cases hs
      exact h.kept (.inr rfl) hself hgone
    | cancelRequest =>
      simp only [step] at hs
      split at hs <;> cases hs
      exact h.kept (.inl rfl) hself hgone
    | joinWorker =>
      simp only [step] at hs
      split at hs <;> cases hs
      refine h.kept ?_ ?_ hgone
      · exact .inl rfl
      · intro w hw
        cases hw
    | worker => exact absurd rfl hne
    | requestDone result =>
      obtain ⟨w, hw, hs⟩ := Option.bind_eq_some_iff.mp hs
      exact pacing_requestDone h hw hs

theorem pacing_step {t : Paced} {event : Paced.Event} (h : Pacing setup s)
    (hidle : s.client.Idle) (hd : Discipline setup s.client)
    (hs : Paced.step setup s event = some t) : Pacing setup t := by
  cases event with
  | elapse duration =>
    cases hs
    refine ⟨h.beats, fun wait hwait => ?_, h.paces, h.counts, h.faults⟩
    obtain ⟨hdelay, hstarted⟩ := h.waiting wait hwait
    refine ⟨hdelay, hstarted.trans ?_⟩
    show s.now ≤ s.now + duration
    omega
  | client e =>
    cases e with
    | worker =>
      simp only [Paced.step] at hs
      split at hs
      · cases hs
      · rename_i hheld
        obtain ⟨w, hw, hs⟩ := Option.bind_eq_some_iff.mp hs
        obtain ⟨c, hc, rfl⟩ := Option.map_eq_some_iff.mp hs
        exact pacing_moved h hd (by simpa using hheld) hw hc
    | startClient | updateProviderState | stopClient | cancelRequest | joinWorker | requestDone =>
      obtain ⟨c, hc, rfl⟩ := Option.map_eq_some_iff.mp hs
      exact pacing_client h hidle (by exact Event.noConfusion) hc

end

end NodusVision.Pilot
