import NodusVision.Guarantees.Scenario
import NodusVision.Manager.Lookups

/-! How a stop is answered, by what is recorded in memory and on the disk. -/
namespace NodusVision.Guarantees
open Text Storage Disk Program Recording RecordingStore Manager Transition

/-- Neither the current recording nor one with an artifact -/
def Unknown (s : System) (recordingId : ByteString) : Prop :=
  recordingId ≠ s.impl.recordingId ∧ ∀ m, s.machine.disk (.artifact m recordingId) = none

/-- The answer of the step is that of a stop. -/
def Answers (s t : System) (request : RecordingStartRequest)
    (result : Except Exception RecordingStopResult) : Prop :=
  t.history.returns = .stop request result :: s.history.returns

/-- The call has run `beginFinalizationLocked`, or finds its own stop being finalized. -/
def Accepts (s t : System) (request : RecordingStartRequest) : Prop :=
  request.recordingId = s.impl.recordingId ∧
    ((∃ b, s.holder = some (.stopBegin request b)) ∧
        t.history.closed = some ⟨request.recordingId, .requested request⟩ ∨
      s.impl.state = .finalizing ∧ s.impl.stop.requestId = request.requestId ∧
        s.impl.stop.canonical = canonicalStop request)

/-- In finalized storage, with the bytes of the stop -/
def Replays (d : Disk) (request : RecordingStartRequest) : Prop :=
  Finalized d request.recordingId ∧
    d (.entry .finalized request.recordingId (.file .stopRequest)) =
      some (.regular (canonicalStop request))

structure Classified (s t : System) (request : RecordingStartRequest)
    (result : Except Exception RecordingStopResult) : Prop where
  notFound : (∃ what, result = .error (.recordingNotFound what)) ↔ Unknown s request.recordingId
  accepted : result = .ok .accepted → Accepts s t request
  replayed : result = .ok .replayed → Replays s.machine.disk request
  conflict : ¬Unknown s request.recordingId → result ≠ .ok .accepted → result ≠ .ok .replayed →
    ∃ e, result = .error e ∧ IsConflict e

section Answers
variable {setup : Setup} {s t : System} {request : RecordingStartRequest}
  {result : Except Exception RecordingStopResult}

theorem answers_release {other : RecordingStartRequest}
    {result' : Except Exception RecordingStopResult}
    (h : Answers s (s.release (.stop other result')) request result) :
    other = request ∧ result' = result := by
  have hhead : Return.stop other result' = .stop request result := (List.cons.inj h).1
  cases hhead
  exact ⟨rfl, rfl⟩

theorem not_answers {u : System} (hr : u.history.returns = s.history.returns) :
    ¬Answers s u request result := by
  intro h
  rw [Answers, hr] at h
  exact List.cons_ne_self _ _ h.symm

theorem classified_conflict {e : Exception} (hknown : ¬Unknown s request.recordingId)
    (he : IsConflict e) : Classified s t request (.error e) := by
  constructor
  · constructor
    · rintro ⟨what, hw⟩
      exact absurd (Except.error.inj hw) (he what)
    · exact fun hu => absurd hu hknown
  · exact nofun
  · exact nofun
  · exact fun _ _ _ => ⟨e, rfl, he⟩

theorem classified_unknown (hunknown : Unknown s request.recordingId) :
    Classified s t request (.error recordingUnknown) :=
  ⟨⟨fun _ => hunknown, fun _ => ⟨_, rfl⟩⟩, nofun, nofun, fun hk => absurd hunknown hk⟩

theorem classified_accepted (h : Accepts s t request) :
    Classified s t request (.ok .accepted) := by
  constructor
  · constructor
    · rintro ⟨what, hw⟩
      cases hw
    · exact fun hu => absurd h.1 hu.1
  · exact fun _ => h
  · exact nofun
  · exact fun _ hne => absurd rfl hne

theorem classified_replayed (h : Replays s.machine.disk request) :
    Classified s t request (.ok .replayed) := by
  constructor
  · constructor
    · rintro ⟨what, hw⟩
      cases hw
    · rintro ⟨-, habsent⟩
      have hfin : s.machine.disk (.artifact .finalized request.recordingId) = some .directory := h.1
      rw [habsent .finalized] at hfin
      cases hfin
  · exact nofun
  · exact fun _ => h
  · exact fun _ _ hne => absurd rfl hne

/-- The current recording is known. -/
theorem known_of_current (h : request.recordingId = s.impl.recordingId) :
    ¬Unknown s request.recordingId := fun hu => hu.1 h

/-- The ledger of a stop speaks of a recording that is closed or being closed. -/
theorem stopEntered_classified (hk : s.core.Settled) (hw : s.machine.disk.WellFormed)
    (hl : s.lifecycle.Truthful) {other : RecordingStartRequest} (hvo : isStopValid other = true)
    (h : Answers s (s.stopEntered other) request result) :
    Classified s (s.stopEntered other) request result := by
  unfold System.stopEntered at h ⊢
  split at h
  · rename_i hsame
    rw [if_pos hsame]
    obtain ⟨hid, hreq⟩ := hsame
    have hne : s.impl.stop.requestId ≠ [] := by
      rw [← hreq]
      exact requestId_ne_nil (Bool.and_eq_true_iff.mp hvo).1
    obtain ⟨hstopped, hidle, hstored⟩ := hl.stopped hne
    split at h
    · rename_i hcan
      rw [if_pos hcan]
      split at h
      · obtain ⟨rfl, rfl⟩ := answers_release h
        exact classified_conflict (known_of_current hid) (isConflict_runtimeError _)
      · rename_i hfaulted
        split at h
        · rename_i hfinal
          obtain ⟨rfl, rfl⟩ := answers_release h
          have hfin : Finalized s.machine.disk other.recordingId := by
            rw [hid]
            exact hl.finalized hfinal
          have hstored : StopStored s.machine.disk other.recordingId (canonicalStop other) := by
            rw [hid, hcan]
            exact hstored
          exact classified_replayed ⟨hfin, hstored.finalized hw hfin⟩
        · rename_i hfinal
          obtain ⟨rfl, rfl⟩ := answers_release h
          have hstate : s.impl.state = .finalizing := by
            rcases hk.cases with ⟨hi, -⟩ | ⟨ho, -⟩ | ⟨hc, -⟩ | ⟨hs | hs, -⟩
            · exact absurd hi hidle
            · cases ho.2.2.symm.trans hstopped
            · exact hc.1
            · exact absurd hs hfinal
            · exact absurd hs hfaulted
          exact classified_accepted ⟨hid, .inr ⟨hstate, hreq.symm, hcan.symm⟩⟩
    · rename_i hcan
      rw [if_neg hcan]
      obtain ⟨rfl, rfl⟩ := answers_release h
      exact classified_conflict (known_of_current hid) (isConflict_runtimeError _)
  · exact absurd h (not_answers rfl)

theorem stopUnrecorded_classified {other : RecordingStartRequest}
    (hunknown : other.recordingId ≠ s.impl.recordingId →
      ∀ m, s.machine.disk (.artifact m other.recordingId) = none)
    (h : Answers s (s.stopUnrecorded other) request result) :
    Classified s t request result := by
  unfold System.stopUnrecorded at h
  split at h
  · rename_i hne
    obtain ⟨rfl, rfl⟩ := answers_release h
    exact classified_unknown ⟨hne, hunknown hne⟩
  · rename_i hid
    split at h
    · obtain ⟨rfl, rfl⟩ := answers_release h
      exact classified_conflict (known_of_current (not_not.mp hid)) (isConflict_runtimeError _)
    · exact absurd h (not_answers rfl)

theorem stopReplayed_answers {other : RecordingStartRequest}
    {artifact : PersistedRecordingArtifact}
    (h : Answers s (s.stopReplayed other artifact) request result) :
    other = request ∧ result = .ok .replayed := by
  unfold System.stopReplayed at h
  split at h
  · have hhead : Return.stop other (.ok .replayed) = .stop request result := (List.cons.inj h).1
    cases hhead
    exact ⟨rfl, rfl⟩
  · obtain ⟨rfl, rfl⟩ := answers_release h
    exact ⟨rfl, rfl⟩

/-- The answer after the lookup, from what the lookup tells. -/
theorem stopLookedUp_classified {other : RecordingStartRequest}
    {r : Option PersistedRecordingArtifact}
    (hshared : LookupShared other.recordingId s.machine.disk r)
    (htells : other.recordingId ≠ s.impl.recordingId →
      LookupTells s.machine other.recordingId (.pure r))
    (h : Answers s (s.stopLookedUp other r) request result) :
    Classified s t request result := by
  have hnone : ∀ a, r = some a → a.stopRequest = none →
      other.recordingId ≠ s.impl.recordingId → False := by
    rintro a ha hstop hne
    rcases htells hne with ⟨-, hsafe⟩ | ⟨-, hsafe⟩
    · cases ha.symm.trans hsafe.of_pure
    · obtain ⟨b, evidence, hb, hevidence⟩ := hsafe.of_pure
      cases ha.symm.trans hb
      cases hstop.symm.trans hevidence
  have hknown : ∀ a, r = some a → ¬Unknown s other.recordingId := by
    rintro a ha ⟨hne, habsent⟩
    rcases htells hne with ⟨-, hsafe⟩ | ⟨⟨k, hk⟩, -⟩
    · cases ha.symm.trans hsafe.of_pure
    · exact hk (habsent k)
  unfold System.stopLookedUp at h
  split at h
  · apply stopUnrecorded_classified _ h
    intro hne
    rcases htells hne with ⟨habsent, -⟩ | ⟨-, hsafe⟩
    · exact habsent
    · obtain ⟨b, evidence, hb, -⟩ := hsafe.of_pure
      cases hb
  · rename_i artifact
    split at h
    · rename_i hstop
      apply stopUnrecorded_classified _ h
      exact fun hne => (hnone artifact rfl hstop hne).elim
    · rename_i evidence hevidence
      split at h
      · obtain ⟨rfl, rfl⟩ := answers_release h
        exact classified_conflict (hknown artifact rfl) (isConflict_runtimeError _)
      · rename_i hcan
        split at h
        · rename_i hfinal
          obtain ⟨rfl, rfl⟩ := stopReplayed_answers h
          have hholds := (hshared artifact rfl).2 hfinal
          refine classified_replayed ⟨hholds.directory, hholds.stop.trans ?_⟩
          rw [hevidence, not_not.mp hcan]
          rfl
        · split at h
          · obtain ⟨rfl, rfl⟩ := answers_release h
            exact classified_conflict (hknown artifact rfl) (isConflict_runtimeError _)
          · rename_i hcurrent
            apply stopUnrecorded_classified _ h
            intro hne
            exact absurd (.inr hne) hcurrent

/-- A stop that ran `beginFinalizationLocked` -/
theorem stopBegin_classified {other : RecordingStartRequest} {b : BeginPc} {c : Choice}
    (hh : s.holder = some (.stopBegin other b)) (hid : other.recordingId = s.impl.recordingId)
    (hb : b.Conflicts) (he : s.callStep setup c (.stopBegin other b) = some t)
    (h : Answers s t request result) : Classified s t request result := by
  cases he
  rcases begin_outcome hb with ⟨u, b', he, hu, -⟩ | ⟨u, he, hu, hclosed⟩ | ⟨u, e, he, hu, hconflict⟩
  · rw [he] at h
    exact absurd h (not_answers hu.returns)
  · rw [he] at h ⊢
    have hhead : Return.stop other (.ok .accepted) = .stop request result := (List.cons.inj h).1
    cases hhead
    exact classified_accepted ⟨hid, .inl ⟨⟨b, hh⟩, hid ▸ hclosed⟩⟩
  · rw [he] at h ⊢
    have hhead : Return.stop other (.error e) = .stop request result := (List.cons.inj h).1
    cases hhead
    exact classified_conflict (known_of_current hid) hconflict

theorem callStep_classified {call : Call} {c : Choice} (hk : s.core.Control)
    (hs : s.Storage setup) (hl : s.lifecycle.Truthful) (htells : s.Tells) (hh : s.holder = some call)
    (he : s.callStep setup c call = some t) (h : Answers s t request result) :
    Classified s t request result := by
  have hcontrol := hk.call hh
  have hstorage := hs.call call hh
  have hcall := htells call hh
  cases call with
  | stopEntered other =>
    cases he
    exact stopEntered_classified hcontrol hs.wellFormed hl hstorage h
  | stopLookup other p =>
    cases he
    cases p with
    | pure r => exact stopLookedUp_classified hstorage.2.of_pure hcall.2 h
    | throw e =>
      obtain ⟨rfl, rfl⟩ := answers_release h
      refine classified_conflict ?_ hcall.1
      rintro ⟨hne, habsent⟩
      rcases hcall.2 hne with ⟨-, hsafe⟩ | ⟨⟨k, hk⟩, -⟩
      · exact hsafe.of_throw
      · exact hk (habsent k)
    | op o k => exact absurd h (not_answers rfl)
  | stopBegin other b => exact stopBegin_classified hh hcontrol.2.2 hcall he h
  | _ =>
    have hno := noStopCall_callStep he nofun rfl
    exact absurd h (hno.returns request result)

end Answers

/-- Where a stop meets evidence, or nothing at all, its answer says which recording it named. -/
theorem stop_outcomes_classified {setup : Setup} {s t : System} {e : Event}
    {request : RecordingStartRequest} {result : Except Exception RecordingStopResult}
    (h : Reach (IsInitial setup) (System.step setup) StopsTraceably s)
    (hok : StopsTraceably s e t) (he : s.step setup e = some t)
    (hv : isStopValid request = true) (hr : Answers s t request result) :
    Classified s t request result := by
  have hk := control_reachable h
  have hs := storage_reachable h
  have hl := truthful_reachable h
  have htells := tells_reachable (fun _ _ _ h => h) h
  cases e with
  | tick | setUnix =>
    cases he
    exact absurd hr (not_answers rfl)
  | call c =>
    cases c with
    | start | shutdown | destroy =>
      simp only [System.step, System.enter] at he
      split at he <;> cases he
      exact absurd hr (not_answers rfl)
    | stop other =>
      simp only [System.step, System.enter] at he
      split at he
      · rename_i hinvalid
        cases he
        have hhead : Return.stop other (.error unsafeStopIdentity) = .stop request result :=
          (List.cons.inj hr).1
        cases hhead
        cases hinvalid.symm.trans hv
      · split at he <;> cases he
        exact absurd hr (not_answers rfl)
  | callStep c =>
    obtain ⟨call, hh, he⟩ := Option.bind_eq_some_iff.mp he
    exact callStep_classified hk hs hl htells hh he hr
  | workerStep c =>
    obtain ⟨w, hw, he⟩ := Option.bind_eq_some_iff.mp he
    exact absurd hr (not_answers (unseen_workerStep he).returns)
  | join =>
    simp only [System.step] at he
    split at he <;> cases he
    cases (List.cons.inj hr).1
  | submit frame =>
    simp only [System.step] at he
    split at he <;> cases he
    unfold System.submit at hr
    split at hr
    · exact absurd hr (not_answers rfl)
    · split at hr <;> exact absurd hr (not_answers rfl)
  | submitContended frame =>
    simp only [System.step] at he
    split at he <;> cases he
    exact absurd hr (not_answers rfl)
  | captureStep =>
    obtain ⟨call, -, rfl⟩ := Option.map_eq_some_iff.mp he
    unfold System.captureStep at hr
    split at hr
    · exact absurd hr (not_answers rfl)
    · split at hr <;> exact absurd hr (not_answers rfl)
  | crash =>
    cases he
    exact absurd hr (not_answers rfl)

/-- Nothing fails, no worker runs beside a call, and a stop is for the current recording or for an
id without an artifact. -/
def traceably (s : System) (e : Event) : Bool :=
  (match e with
  | .callStep c => !c.fails
  | .workerStep _ => s.holder.isNone
  | _ => true) &&
  match s.holder with
  | some (.stopEntered request) => request.recordingId == s.impl.recordingId ||
    (s.machine.disk (.artifact .staging request.recordingId)).isNone &&
      (s.machine.disk (.artifact .finalized request.recordingId)).isNone
  | _ => true

theorem traceably_sound (s : System) (e : Event) (t : System) (h : traceably s e = true) :
    StopsTraceably s e t := by
  obtain ⟨hevent, hcall⟩ := Bool.and_eq_true_iff.mp h
  constructor
  · rintro request c hh rfl hne ⟨m, start, hartifact, -⟩
    rw [hh] at hcall
    rcases Bool.or_eq_true_iff.mp hcall with hcurrent | habsent
    · exact hne (eq_of_beq hcurrent)
    · obtain ⟨hstaging, hfinalized⟩ := Bool.and_eq_true_iff.mp habsent
      cases m with
      | staging => exact hartifact (Option.isNone_iff_eq_none.mp hstaging)
      | finalized => exact hartifact (Option.isNone_iff_eq_none.mp hfinalized)
  · rintro request p c - rfl - -
    exact Bool.not_eq_true' _ ▸ hevent
  · rintro request p c q hh rfl
    rw [hh] at hevent
    cases hevent

/-- The lookup of a stop has found no evidence for an id that is not the current one. -/
def isUnrecorded (found : Option PersistedRecordingArtifact → Bool) (s : System) : Bool :=
  match s.holder with
  | some (.stopLookup request (.pure r)) => found r && r.all (fun a => a.stopRequest.isNone) &&
    isStopValid request && request.recordingId ≠ s.impl.recordingId &&
    (r.isNone || (s.machine.disk (.artifact .staging request.recordingId)).isSome)
  | _ => false

theorem answers_unrecorded {setup : Setup} {found : Option PersistedRecordingArtifact → Bool}
    {s : System} (h : isUnrecorded found s = true) :
    ∃ request r t, s.holder = some (.stopLookup request (.pure r)) ∧ found r = true ∧
      isStopValid request = true ∧
      (r = none ∨ s.machine.disk (.artifact .staging request.recordingId) ≠ none) ∧
      s.step setup (.callStep smooth) = some t ∧
      Answers s t request (.error recordingUnknown) := by
  unfold isUnrecorded at h
  split at h
  · rename_i request r hh
    simp only [Bool.and_eq_true, Bool.or_eq_true, decide_eq_true_eq] at h
    obtain ⟨⟨⟨⟨hfound, hstop⟩, hv⟩, hne⟩, hdisk⟩ := h
    have hlooked : s.stopLookedUp request r =
        s.release (.stop request (.error recordingUnknown)) := by
      have hunrecorded : s.stopUnrecorded request =
          s.release (.stop request (.error recordingUnknown)) := if_pos hne
      cases r with
      | none => exact hunrecorded
      | some a =>
        have hnone : a.stopRequest = none := Option.isNone_iff_eq_none.mp hstop
        simp only [System.stopLookedUp, hnone]
        exact hunrecorded
    have hstep : s.step setup (.callStep smooth) =
        some (s.release (.stop request (.error recordingUnknown))) := by
      simp only [System.step, hh, Option.bind_some, System.callStep, System.advance, hlooked]
    refine ⟨request, r, _, hh, hfound, hv, ?_, hstep, rfl⟩
    rcases hdisk with hr | hd
    · exact .inl (Option.isNone_iff_eq_none.mp hr)
    · exact .inr (Option.isSome_iff_ne_none.mp hd)
  · cases h

/-- A stop that is about to return accepted -/
def isAccepting (s : System) : Bool :=
  match s.holder with
  | some (.stopBegin request .checkDeadline) =>
    isStopValid request && decide (s.machine.steady < s.impl.finalizeDeadline)
  | _ => false

theorem answers_accepting {setup : Setup} {s : System} (h : isAccepting s = true) :
    ∃ request t, isStopValid request = true ∧ s.step setup (.callStep smooth) = some t ∧
      (∀ u, StopsTraceably s (.callStep smooth) u) ∧ Answers s t request (.ok .accepted) := by
  unfold isAccepting at h
  split at h
  · rename_i request hh
    obtain ⟨hv, hearly⟩ := Bool.and_eq_true_iff.mp h
    have hnot : ¬s.impl.finalizeDeadline ≤ s.machine.steady := not_le.mpr (of_decide_eq_true hearly)
    have hstep : s.step setup (.callStep smooth) = some (System.release { s with
        impl := { s.impl with stop := (Closer.requested request).ledger }
        history := { s.history with
          closed := some ⟨s.impl.recordingId, .requested request⟩ } }
        (.stop request (.ok .accepted))) := by
      simp only [System.step, hh, Option.bind_some, System.callStep, BeginPc.step, if_neg hnot]
    refine ⟨request, _, hv, hstep, fun u => ?_, rfl⟩
    constructor
    · intro other c ho
      cases hh.symm.trans ho
    · intro other p c ho
      cases hh.symm.trans ho
    · intro other p c q ho
      cases hh.symm.trans ho
  · cases h

/-- A stop that finds its own recording finalized -/
def isReplaying (s : System) : Bool :=
  match s.holder with
  | some (.stopEntered request) => isStopValid request &&
    decide (request.recordingId = s.impl.recordingId ∧ request.requestId = s.impl.stop.requestId) &&
    decide (canonicalStop request = s.impl.stop.canonical) && decide (s.impl.state = .finalized)
  | _ => false

theorem answers_replaying {setup : Setup} {s : System} (h : isReplaying s = true) :
    ∃ request t, isStopValid request = true ∧ s.step setup (.callStep smooth) = some t ∧
      (∀ u, StopsTraceably s (.callStep smooth) u) ∧ Answers s t request (.ok .replayed) := by
  unfold isReplaying at h
  split at h
  · rename_i request hh
    simp only [Bool.and_eq_true, decide_eq_true_eq] at h
    obtain ⟨⟨⟨hv, hsame⟩, hcan⟩, hfinal⟩ := h
    have hnot : s.impl.state ≠ .faulted := by
      rw [hfinal]
      exact fun hfaulted => by cases hfaulted
    have hentered : s.stopEntered request = s.release (.stop request (.ok .replayed)) := by
      unfold System.stopEntered
      rw [if_pos hsame, if_pos hcan, if_neg hnot, if_pos hfinal]
    have hstep : s.step setup (.callStep smooth) =
        some (s.release (.stop request (.ok .replayed))) := by
      simp only [System.step, hh, Option.bind_some, System.callStep, hentered]
    refine ⟨request, _, hv, hstep, fun u => ?_, rfl⟩
    constructor
    · rintro other c ho - hne
      cases hh.symm.trans ho
      exact absurd hsame.1 hne
    · intro other p c ho
      cases hh.symm.trans ho
    · intro other p c q ho
      cases hh.symm.trans ho
  · cases h

theorem traceable_reach (test : System → Bool) (events : List Event)
    (h : (runEvents (System.step sampleSetup) traceably sampleStart events).any test = true) :
    ∃ s, Reach (IsInitial sampleSetup) (System.step sampleSetup) StopsTraceably s ∧
      test s = true :=
  (Reach.start sampleStart_isInitial).exists_run (fun s e t hc _ => traceably_sound s e t hc) h

/-- The stop of a recording, on its way -/
def stopsTake : List Event :=
  [.call (.start (request "start-1" "take-1"))] ++ calls 58 ++
    [.call (.stop (request "stop-1" "take-1"))] ++ calls 28

set_option maxRecDepth 100000 in
/-- A stop of an id that was never recorded, the stop of a recording, and its replay -/
theorem stop_outcomes_classified_unknown :
    (∃ s t request, Reach (IsInitial sampleSetup) (System.step sampleSetup) StopsTraceably s ∧
      Classified s t request (.error recordingUnknown)) ∧
    (∃ s t request, Answers s t request (.ok .accepted) ∧ Accepts s t request) ∧
    ∃ s t request, Answers s t request (.ok .replayed) ∧ Replays s.machine.disk request := by
  constructor
  · obtain ⟨s, hs, htest⟩ := traceable_reach (isUnrecorded Option.isNone)
      ([.call (.stop (request "stop-1" "take-1"))] ++ calls 6) (by decide)
    obtain ⟨request, r, t, hh, -, hv, -, ht, hr⟩ := answers_unrecorded htest
    have hok : StopsTraceably s (.callStep smooth) t := by
      constructor
      · intro other c ho
        cases hh.symm.trans ho
      · rintro other p c - ⟨⟩ - -
        rfl
      · rintro other p c q - ⟨⟩
    exact ⟨s, t, request, hs, stop_outcomes_classified hs hok ht hv hr⟩
  constructor
  · obtain ⟨s, hs, htest⟩ := traceable_reach isAccepting stopsTake (by decide +kernel)
    obtain ⟨request, t, hv, ht, hok, hr⟩ := answers_accepting htest
    exact ⟨s, t, request, hr, (stop_outcomes_classified hs (hok t) ht hv hr).accepted rfl⟩
  · obtain ⟨s, hs, htest⟩ := traceable_reach isReplaying (stopsTake ++ calls 1 ++ works 52 ++
      [.call (.stop (request "stop-1" "take-1"))]) (by decide +kernel)
    obtain ⟨request, t, hv, ht, hok, hr⟩ := answers_replaying htest
    exact ⟨s, t, request, hr, (stop_outcomes_classified hs (hok t) ht hv hr).replayed rfl⟩

set_option maxRecDepth 100000 in
/-- The process ends while it records, and the next one is asked to stop the recording. -/
theorem stop_misclassified : ∃ s t request,
    Reach (IsInitial sampleSetup) (System.step sampleSetup) anyStep s ∧
      s.step sampleSetup (.callStep smooth) = some t ∧ isStopValid request = true ∧
      Answers s t request (.error recordingUnknown) ∧
      s.machine.disk (.artifact .staging request.recordingId) ≠ none ∧
      ¬Classified s t request (.error recordingUnknown) := by
  obtain ⟨s, hs, htest⟩ := sample_reach anyStep (fun _ => true)
    (isUnrecorded Option.isSome) (fun _ _ _ _ => trivial)
    ([.call (.start (request "start-1" "take-1"))] ++ calls 58 ++ [.crash] ++
      [.call (.stop (request "stop-1" "take-1"))] ++ calls 16) (by decide +kernel)
  obtain ⟨request, r, t, hh, hfound, hv, hdisk, ht, hr⟩ := answers_unrecorded htest
  have hstaging : s.machine.disk (.artifact .staging request.recordingId) ≠ none := by
    rcases hdisk with rfl | hd
    · cases hfound
    · exact hd
  refine ⟨s, t, request, hs, ht, hv, hr, hstaging, ?_⟩
  intro hclass
  exact hstaging ((hclass.notFound.mp ⟨_, rfl⟩).2 .staging)

end NodusVision.Guarantees
