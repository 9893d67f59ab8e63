import NodusVision.Manager.Closers

/-! What the recorder has acknowledged is on the disk. -/
namespace NodusVision.Manager
open Text Storage Disk Program Recording RecordingStore Transition

/-- A request file of a recording, wherever its artifact is. -/
def RequestStored (d : Disk) (recordingId : ByteString) (file : ArtifactFile)
    (contents : ByteString) : Prop :=
  ∃ m, d (.entry m recordingId (.file file)) = some (.regular contents)

namespace RequestStored
variable {d d' : Disk} {recordingId contents contents' : ByteString} {file : ArtifactFile}

theorem directory {m : ManagedDirectory} (hw : d.WellFormed)
    (h : d (.entry m recordingId (.file file)) = some (.regular contents)) :
    d (.artifact m recordingId) = some .directory := by
  refine (hw.entry_regular m recordingId (.file file) ?_).2
  rw [h]
  exact Option.some_ne_none _

theorem lawful (h : RequestStored d recordingId file contents) (hf : IsRequestFile file)
    (hw : d.WellFormed) (hl : d.Lawful d') : RequestStored d' recordingId file contents := by
  obtain ⟨m, hm⟩ := h
  have hdir : d (.artifact m recordingId) ≠ none := by
    rw [directory hw hm]
    exact Option.some_ne_none _
  have hne : d (.entry m recordingId (.file file)) ≠ none := by
    rw [hm]
    exact Option.some_ne_none _
  cases m with
  | finalized => exact ⟨.finalized, (((hl hw).2.finalized recordingId hdir).2 _).trans hm⟩
  | staging =>
    obtain ⟨m', -, hkeep⟩ := (hl hw).2.staging recordingId hdir
    exact ⟨m', (hkeep file hf hne).trans hm⟩

/-- An artifact is in one place. -/
theorem unique (h : RequestStored d recordingId file contents)
    (h' : RequestStored d recordingId file contents') (hw : d.WellFormed) :
    contents = contents' := by
  obtain ⟨m, hm⟩ := h
  obtain ⟨m', hm'⟩ := h'
  have hsame : m = m' := by
    have hdir := directory hw hm
    have hdir' := directory hw hm'
    cases m <;> cases m' <;> try rfl
    all_goals
      rcases hw.one_place recordingId with hnone | hnone
      · first | cases hnone.symm.trans hdir | cases hnone.symm.trans hdir'
      · first | cases hnone.symm.trans hdir | cases hnone.symm.trans hdir'
  subst hsame
  exact Node.regular.inj (Option.some.inj (hm.symm.trans hm'))

end RequestStored

/-- What an answer promises of the disk. -/
def Acknowledged (d : Disk) : Return → Prop
  | .start request (.ok _) => ∃ canonical, Canonical request canonical ∧
      RequestStored d request.recordingId .startRequest canonical
  | .stop request (.ok _) => isStopValid request = true ∧
      RequestStored d request.recordingId .stopRequest (canonicalStop request)
  | _ => True

theorem Acknowledged.lawful {d d' : Disk} {r : Return} (h : Acknowledged d r) (hw : d.WellFormed)
    (hl : d.Lawful d') : Acknowledged d' r := by
  cases r with
  | start request result =>
    cases result with
    | ok a =>
      obtain ⟨canonical, hc, hstored⟩ := h
      exact ⟨canonical, hc, hstored.lawful (.inl rfl) hw hl⟩
    | error e => trivial
  | stop request result =>
    cases result with
    | ok a =>
      obtain ⟨hv, hstored⟩ := h
      exact ⟨hv, hstored.lawful (.inr rfl) hw hl⟩
    | error e => trivial
  | shutdown => trivial

namespace Lifecycle
variable {v v' u : Lifecycle}

/-- The start that the ledger names is on the disk. -/
def StartHeld (v : Lifecycle) : Prop :=
  v.start.requestId ≠ [] →
    RequestStored v.disk v.recordingId .startRequest v.start.canonical

theorem StartHeld.same (h : v.StartHeld) (hw : v.disk.WellFormed) (hl : v.disk.Lawful v'.disk)
    (hid : v'.recordingId = v.recordingId) (hstart : v'.start = v.start) : v'.StartHeld := by
  intro hne
  rw [hstart] at hne
  rw [hid, hstart]
  exact (h hne).lawful (.inl rfl) hw hl

theorem Begins.startHeld {closer : Closer} {b : BeginPc} {r : BeginResult}
    (hb : v.Begins closer b r u) (h : v.StartHeld) (hw : v.disk.WellFormed) : u.StartHeld := by
  cases hb with
  | write d p p' hd => exact h.same hw hd.1 rfl rfl
  | _ => exact h

theorem startHeld_next (h : v.StartHeld) (hw : v.disk.WellFormed) (hn : v.Next v') :
    v'.StartHeld := by
  cases hn with
  | proceed d hh hf hd => exact h.same hw hd.1 rfl rfl
  | work d hworker hm hd => exact h.same hw hd.1 rfl rfl
  | @startRestored request canonical artifact hh hworker hc heq hheld =>
    intro _
    exact ⟨_, hheld.start.trans (congrArg (fun text => some (Node.regular text)) heq)⟩
  | stopRestored | exit => exact fun hne => absurd rfl hne
  | publish hh hworker hs hc hp => exact fun _ => ⟨_, hp.start⟩
  | beginPoint hh hc hc' hf hb | beginFinished rs hh hc hf hb
  | beginFailed h' rs hh hc hb | workBegin hh hworker hpc hid hin hb
  | workFinished hh hworker hpc hid hin hb | workFailed hh hworker hpc hid hin hb =>
    have hu := hb.startHeld h hw
    exact hu
  | _ => exact h

end Lifecycle

section Steps
variable {setup : Setup} {s t : System}

open Lifecycle

theorem startHeld_reachable {ok : System → Event → System → Prop}
    (h : Reach (IsInitial setup) (System.step setup) ok s) : s.lifecycle.StartHeld := by
  refine lifecycle_reachable StartHeld (fun machine => ?_)
    (fun s e t hk hs hi _ hn => startHeld_next hi hs.wellFormed hn) h
  exact fun hne => absurd rfl hne

/-- A step answers nothing, or what it answers is on the disk before it. -/
inductive Answered (s t : System) : Prop
  | silent (h : t.history.returns = s.history.returns)
  | answers (r : Return) (h : t.history.returns = r :: s.history.returns)
      (hr : Acknowledged s.machine.disk r)

theorem answered_startEntered {request : RecordingStartRequest} (h : s.lifecycle.StartHeld) :
    Answered s (s.startEntered request) := by
  unfold System.startEntered
  split
  · exact .answers _ rfl trivial
  · rename_i canonical hc
    split
    · rename_i hsame
      split
      · rename_i hcanonical
        refine .answers _ rfl ⟨canonical, hc, ?_⟩
        have hne : s.impl.start.requestId ≠ [] := by
          rw [← hsame.2]
          exact requestId_ne_nil (serialize_ok hc).1
        rw [hsame.1, hcanonical]
        exact h hne
      · exact .answers _ rfl trivial
    · split
      · exact .answers _ rfl trivial
      · split <;> exact .silent rfl

theorem answered_startLookedUp {request : RecordingStartRequest} {canonical : ByteString}
    {r : Option PersistedRecordingArtifact} (hc : Canonical request canonical)
    (hr : LookupFound request.recordingId s.machine.disk r) :
    Answered s (s.startLookedUp setup request canonical r) := by
  cases r with
  | none => exact .silent rfl
  | some artifact =>
    simp only [System.startLookedUp]
    split
    · exact .answers _ rfl trivial
    · rename_i heq
      refine .answers _ rfl ⟨canonical, hc, _, hr.2.start.trans ?_⟩
      exact congrArg (fun text => some (Node.regular text)) (not_not.mp heq)

theorem answered_stopEntered {request : RecordingStartRequest} (hl : s.lifecycle.Truthful)
    (hv : isStopValid request = true) : Answered s (s.stopEntered request) := by
  unfold System.stopEntered
  split
  · rename_i hsame
    have hne : s.impl.stop.requestId ≠ [] := by
      rw [← hsame.2]
      exact requestId_ne_nil (Bool.and_eq_true_iff.mp hv).1
    obtain ⟨-, -, hstored⟩ := hl.stopped hne
    split
    · rename_i hcanonical
      have hheld : RequestStored s.machine.disk request.recordingId .stopRequest
          (canonicalStop request) := by
        rw [hsame.1, hcanonical]
        exact hstored
      split
      · exact .answers _ rfl trivial
      · split <;> exact .answers _ rfl ⟨hv, hheld⟩
    · exact .answers _ rfl trivial
  · exact .silent rfl

theorem answered_stopUnrecorded {request : RecordingStartRequest} :
    Answered s (s.stopUnrecorded request) := by
  unfold System.stopUnrecorded
  split
  · exact .answers _ rfl trivial
  · split
    · exact .answers _ rfl trivial
    · exact .silent rfl

theorem answered_stopLookedUp {request : RecordingStartRequest}
    {r : Option PersistedRecordingArtifact}
    (hv : isStopValid request = true) (hr : LookupShared request.recordingId s.machine.disk r) :
    Answered s (s.stopLookedUp request r) := by
  unfold System.stopLookedUp
  split
  · exact answered_stopUnrecorded
  · rename_i artifact
    split
    · exact answered_stopUnrecorded
    · rename_i evidence hevidence
      split
      · exact .answers _ rfl trivial
      · rename_i heq
        split
        · rename_i hfinal
          have hstop := ((hr artifact rfl).2 hfinal).stop
          rw [hevidence, not_not.mp heq] at hstop
          have hheld : RequestStored s.machine.disk request.recordingId .stopRequest
              (canonicalStop request) := ⟨_, hstop⟩
          unfold System.stopReplayed
          split <;> exact .answers _ rfl ⟨hv, hheld⟩
        · split
          · exact .answers _ rfl trivial
          · exact answered_stopUnrecorded

theorem answered_callStep {c : Choice} {call : Call} (hk : s.core.Control) (hs : s.Storage setup)
    (hl : s.lifecycle.Truthful) (h : s.lifecycle.StartHeld) (hh : s.holder = some call)
    (he : s.callStep setup c call = some t) : Answered s t := by
  have hstorage := hs.call call hh
  have hadvance : ∀ {α : Type} {point : StoreProg α → Call} {onReturn : α → System}
      {onThrow : Exception → System} {p : StoreProg α}, (∀ a, p = .pure a → Answered s (onReturn a)) →
      (∀ e, Answered s (onThrow e)) → Answered s (s.advance c point onReturn onThrow p) := by
    intro α point onReturn onThrow p hreturn hthrow
    cases p with
    | pure a => exact hreturn a rfl
    | throw e => exact hthrow e
    | op o k => exact .silent rfl
  cases call with
  | startEntered request =>
    cases he
    exact answered_startEntered h
  | startJoining request canonical =>
    change (if s.workerLive = true then none else _) = some t at he
    split at he <;> cases he
    exact .silent rfl
  | startLookup request canonical p =>
    cases he
    obtain ⟨hc, hr⟩ := hstorage
    refine hadvance ?_ fun _ => .answers _ rfl trivial
    rintro r rfl
    exact answered_startLookedUp hc hr.of_pure
  | startPreparing | startWriter | startReleaseWriter | startSidecar | startReleaseSidecar =>
    cases he
    exact hadvance (fun _ _ => .silent rfl) fun _ => .silent rfl
  | startSpawn request =>
    change (if c.fails = true then _ else _) = some t at he
    split at he <;> cases he <;> exact .silent rfl
  | startPublish | startRecording | startFailed | shutdownCatch =>
    cases he
    exact .silent rfl
  | startAdmit request =>
    cases he
    obtain ⟨hc, -, hstarted⟩ := hstorage
    exact .answers _ rfl ⟨_, hc, _, hstarted.start⟩
  | startRethrow request e =>
    cases he
    exact .answers _ rfl trivial
  | stopEntered request =>
    cases he
    exact answered_stopEntered hl hstorage
  | stopLookup request p =>
    cases he
    obtain ⟨hv, hr⟩ := hstorage
    refine hadvance ?_ fun _ => .answers _ rfl trivial
    rintro r rfl
    exact answered_stopLookedUp hv hr.of_pure
  | stopBegin request b =>
    cases he
    obtain ⟨hv, hb⟩ := hstorage
    cases b with
    | enter | closeAdmission => exact .silent rfl
    | evidence p => cases p <;> exact .silent rfl
    | checkDeadline =>
      simp only [BeginPc.step]
      split
      · exact .silent rfl
      · refine .answers _ rfl ⟨hv, .staging, ?_⟩
        rw [(hk.call hh).2.2]
        exact hb
    | fail e => exact .answers _ rfl trivial
  | shutdownEntered =>
    cases he
    unfold System.shutdownEntered
    split
    · exact .silent rfl
    · split
      · exact .silent rfl
      · exact .answers _ rfl trivial
  | shutdownBegin b =>
    cases he
    apply begin_elim (R := Answered s)
    · exact fun u b' hu => .silent hu.returns
    · exact fun u hu => .silent hu.returns
    · exact fun u e hu _ => .silent hu.returns
  | destroying p =>
    cases he
    exact hadvance (fun _ _ => .silent rfl) fun _ => .silent rfl

theorem returns_submit (frame : CapturedFrame) :
    (s.submit frame).history.returns = s.history.returns := by
  unfold System.submit
  split
  · rfl
  · split <;> rfl

theorem returns_captureStep (call : CaptureCall) :
    (s.captureStep call).history.returns = s.history.returns := by
  unfold System.captureStep
  split
  · rfl
  · split <;> rfl

theorem answered_step {e : Event} (hk : s.core.Control) (hs : s.Storage setup)
    (hl : s.lifecycle.Truthful) (h : s.lifecycle.StartHeld) (he : s.step setup e = some t) :
    Answered s t := by
  cases e with
  | tick ns | setUnix ns | crash =>
    cases he
    exact .silent rfl
  | call api =>
    cases api with
    | stop request =>
      simp only [System.step, System.enter] at he
      split at he
      · cases he
        exact .answers _ rfl trivial
      · split at he <;> cases he
        exact .silent rfl
    | start request | shutdown | destroy =>
      simp only [System.step, System.enter] at he
      split at he <;> cases he
      exact .silent rfl
  | callStep c =>
    obtain ⟨call, hh, hstep⟩ := Option.bind_eq_some_iff.mp he
    exact answered_callStep hk hs hl h hh hstep
  | workerStep c =>
    obtain ⟨w, hw, hstep⟩ := Option.bind_eq_some_iff.mp he
    exact .silent (unseen_workerStep hstep).returns
  | join =>
    simp only [System.step] at he
    split at he <;> cases he
    exact .answers _ rfl trivial
  | submit frame =>
    simp only [System.step] at he
    split at he <;> cases he
    exact .silent (returns_submit frame)
  | submitContended frame =>
    simp only [System.step] at he
    split at he <;> cases he
    exact .silent rfl
  | captureStep =>
    obtain ⟨call, -, rfl⟩ := Option.map_eq_some_iff.mp he
    exact .silent (returns_captureStep call)

/-- The stop that a call answers is its own. -/
theorem stopping_of_answer {c : Choice} {call : Call} {request : RecordingStartRequest}
    {result : Except Exception RecordingStopResult} (he : s.callStep setup c call = some t)
    (h : t.history.returns = .stop request result :: s.history.returns) :
    call.stopping = some request := by
  have hsilent : ∀ {u : System}, u.history.returns = s.history.returns →
      u.history.returns = .stop request result :: s.history.returns → False := by
    intro u hu hr
    exact absurd (hu.symm.trans hr) (List.cons_ne_self _ _).symm
  have hown : ∀ {other : RecordingStartRequest} {answer : Except Exception RecordingStopResult},
      Return.stop other answer :: s.history.returns = .stop request result :: s.history.returns →
        some other = some request := by
    intro other answer hr
    cases (List.cons.inj hr).1
    rfl
  have hunrecorded : ∀ other : RecordingStartRequest,
      (s.stopUnrecorded other).history.returns = .stop request result :: s.history.returns →
        some other = some request := by
    intro other hr
    unfold System.stopUnrecorded at hr
    split at hr
    · exact hown hr
    · split at hr
      · exact hown hr
      · exact (hsilent rfl hr).elim
  cases call with
  | stopEntered other =>
    cases he
    unfold System.stopEntered at h
    split at h
    · split at h
      · split at h
        · exact hown h
        · split at h <;> exact hown h
      · exact hown h
    · exact (hsilent rfl h).elim
  | stopLookup other p =>
    cases he
    cases p with
    | pure r =>
      have h : (s.stopLookedUp other r).history.returns =
          .stop request result :: s.history.returns := h
      unfold System.stopLookedUp at h
      split at h
      · exact hunrecorded other h
      · split at h
        · exact hunrecorded other h
        · split at h
          · exact hown h
          · split at h
            · unfold System.stopReplayed at h
              split at h <;> exact hown h
            · split at h
              · exact hown h
              · exact hunrecorded other h
    | throw e => exact hown h
    | op o k => exact (hsilent rfl h).elim
  | stopBegin other b =>
    cases he
    revert h
    apply begin_elim (R := fun u => u.history.returns = .stop request result :: s.history.returns →
      some other = some request)
    · exact fun u b' hu h => (hsilent hu.returns h).elim
    · intro u hu h
      have h : Return.stop other (.ok .accepted) :: u.history.returns =
          .stop request result :: s.history.returns := h
      rw [hu.returns] at h
      exact hown h
    · intro u e hu _ h
      have h : Return.stop other (.error e) :: u.history.returns =
          .stop request result :: s.history.returns := h
      rw [hu.returns] at h
      exact hown h
  | _ => exact absurd h ((noStopCall_callStep he (fun _ heq => by cases heq) rfl).returns _ _)

/-- A stop is answered to its caller. -/
theorem stops_of_answer {e : Event} {request : RecordingStartRequest}
    {result : Except Exception RecordingStopResult} (he : s.step setup e = some t)
    (h : t.history.returns = .stop request result :: s.history.returns) :
    e = .call (.stop request) ∨ ∃ call, s.holder = some call ∧ call.stopping = some request := by
  have hsilent : t.history.returns ≠ s.history.returns := by
    intro hsame
    exact absurd (hsame.symm.trans h) (List.cons_ne_self _ _).symm
  cases e with
  | tick ns | setUnix ns | crash =>
    cases he
    exact absurd rfl hsilent
  | call api =>
    cases api with
    | stop other =>
      simp only [System.step, System.enter] at he
      split at he
      · cases he
        cases (List.cons.inj h).1
        exact .inl rfl
      · split at he <;> cases he
        exact absurd rfl hsilent
    | start other | shutdown | destroy =>
      simp only [System.step, System.enter] at he
      split at he <;> cases he
      exact absurd rfl hsilent
  | callStep c =>
    obtain ⟨call, hh, hstep⟩ := Option.bind_eq_some_iff.mp he
    exact .inr ⟨call, hh, stopping_of_answer hstep h⟩
  | workerStep c =>
    obtain ⟨w, hw, hstep⟩ := Option.bind_eq_some_iff.mp he
    exact absurd (unseen_workerStep hstep).returns hsilent
  | join =>
    simp only [System.step] at he
    split at he <;> cases he
    cases (List.cons.inj h).1
  | submit frame =>
    simp only [System.step] at he
    split at he <;> cases he
    exact absurd (returns_submit frame) hsilent
  | submitContended frame =>
    simp only [System.step] at he
    split at he <;> cases he
    exact absurd rfl hsilent
  | captureStep =>
    obtain ⟨call, -, rfl⟩ := Option.map_eq_some_iff.mp he
    exact absurd (returns_captureStep call) hsilent

/-- In every run, with any number of crashes in it. -/
theorem acknowledged_reachable {ok : System → Event → System → Prop}
    (h : Reach (IsInitial setup) (System.step setup) ok s) :
    ∀ r ∈ s.history.returns, Acknowledged s.machine.disk r := by
  refine h.invariant (fun s => ∀ r ∈ s.history.returns, Acknowledged s.machine.disk r) ?_ ?_
  · rintro s ⟨machine, -, rfl⟩ r hr
    cases hr
  · intro s e t hreach hall he _
    have hs := storage_reachable hreach
    have hlawful : s.machine.disk.Lawful t.machine.disk := (step_next (control_reachable hreach) hs he).lawful
    have hkept : ∀ r, Acknowledged s.machine.disk r → Acknowledged t.machine.disk r :=
      fun r hr => hr.lawful hs.wellFormed hlawful
    intro r hr
    apply hkept
    cases answered_step (control_reachable hreach) hs (truthful_reachable hreach)
      (startHeld_reachable hreach) he with
    | silent hsame =>
      rw [hsame] at hr
      exact hall r hr
    | answers r' hnew hack =>
      rw [hnew] at hr
      rcases List.mem_cons.mp hr with rfl | hr
      · exact hack
      · exact hall r hr

/-- Where all stops are of one kind, so are the answered ones. -/
theorem answered_stops {P : RecordingStartRequest → Prop}
    (h : Reach (IsInitial setup) (System.step setup)
      (fun _ e _ => ∀ request, e = .call (.stop request) → P request) s) :
    ∀ request result, .stop request result ∈ s.history.returns → P request := by
  have hinv : s.StopsAre P ∧
      ∀ request result, .stop request result ∈ s.history.returns → P request := by
    refine h.invariant (fun s => s.StopsAre P ∧
      ∀ request result, .stop request result ∈ s.history.returns → P request) ?_ ?_
    · rintro s ⟨machine, -, rfl⟩
      constructor
      · intro call request hc
        cases hc
      · intro request result hmem
        cases hmem
    · intro s e t hreach hi he hP
      refine ⟨stopsAre_step hi.1 he hP, ?_⟩
      intro request result hmem
      cases answered_step (control_reachable hreach) (storage_reachable hreach)
        (truthful_reachable hreach) (startHeld_reachable hreach) he with
      | silent hsame =>
        rw [hsame] at hmem
        exact hi.2 request result hmem
      | answers r hnew hack =>
        rw [hnew] at hmem
        rcases List.mem_cons.mp hmem with rfl | hmem
        · rcases stops_of_answer he hnew with heq | ⟨call, hh, hstopping⟩
          · exact hP request heq
          · exact hi.1 call request hh hstopping
        · exact hi.2 request result hmem
  exact hinv.2

end Steps

end NodusVision.Manager
