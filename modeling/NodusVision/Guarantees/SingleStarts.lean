import NodusVision.Guarantees.Scenario
import NodusVision.Manager.StartOnce

/-! Over any number of process lifetimes a recording is started at most once, one recording at a
time is in progress, and a start neither damages an artifact that it finds nor leaves a trace
when it is refused. -/
namespace NodusVision.Guarantees
open Text Storage Disk Program Recording Manager Transition

/-- The recorder, with the disk on which the latest start has entered, and whether the steps of
that start have left the memory and the disk as they were. -/
structure Observed where
  system : System
  entry : Disk
  untouched : Prop

namespace Observed

def after (x : Observed) (t : System) : Event → Observed
  | .call (.start _) => ⟨t, t.machine.disk, True⟩
  | .callStep _ => ⟨t, x.entry,
      x.untouched ∧ t.impl = x.system.impl ∧ t.machine.disk = x.system.machine.disk⟩
  | _ => ⟨t, x.entry, x.untouched⟩

def step (setup : Setup) (x : Observed) (e : Event) : Option Observed :=
  (x.system.step setup e).map fun t => x.after t e

def IsInitial (setup : Setup) (x : Observed) : Prop :=
  Manager.IsInitial setup x.system ∧ x.entry = x.system.machine.disk

variable {setup : Setup} {x y : Observed} {e : Event}

theorem step_callStep {c : Choice} (h : x.step setup (.callStep c) = some y) :
    x.system.step setup (.callStep c) = some y.system ∧ y.entry = x.entry ∧
      (y.untouched ↔ x.untouched ∧ y.system.impl = x.system.impl ∧
        y.system.machine.disk = x.system.machine.disk) := by
  obtain ⟨t, ht, rfl⟩ := Option.map_eq_some_iff.mp h
  exact ⟨ht, rfl, Iff.rfl⟩

theorem after_system (t : System) (e : Event) : (x.after t e).system = t := by
  cases e with
  | call api => cases api <;> rfl
  | _ => rfl

theorem step_system (h : x.step setup e = some y) : x.system.step setup e = some y.system := by
  obtain ⟨t, ht, rfl⟩ := Option.map_eq_some_iff.mp h
  rw [after_system]
  exact ht

theorem step_other (h : x.step setup e = some y) (hne : ∀ c, e ≠ .callStep c) :
    (∃ request, e = .call (.start request)) ∧ y.entry = y.system.machine.disk ∧ y.untouched ∨
      (∀ request, e ≠ .call (.start request)) ∧ y.entry = x.entry ∧
        y.untouched = x.untouched := by
  obtain ⟨t, -, rfl⟩ := Option.map_eq_some_iff.mp h
  cases e with
  | callStep c => exact absurd rfl (hne c)
  | call api =>
    cases api with
    | start request => exact .inl ⟨⟨request, rfl⟩, rfl, trivial⟩
    | stop | shutdown | destroy => exact .inr ⟨(fun r h => by cases h), rfl, rfl⟩
  | _ => exact .inr ⟨(fun r h => by cases h), rfl, rfl⟩

end Observed

/-- What is known of the start that holds the mutex. -/
structure Entered (x : Observed) : Prop where
  kept : ∀ id m, x.entry (.artifact m id) ≠ none →
    ∃ k, x.system.machine.disk (.artifact k id) ≠ none
  apart : ∀ call request, x.system.holder = some call → call.request = some request →
    call.undecided = false → ∀ m, x.entry (.artifact m request.recordingId) = none
  quiet : ∀ call, x.system.holder = some call → call.undecided = true → x.untouched
  releases : ∀ call, x.system.holder = some call → call.Releases

theorem undecided_of_request {call : Call} (h : call.request = none) :
    call.undecided = false ∧ call.Releases := by
  cases call with
  | stopEntered | stopLookup | stopBegin | shutdownEntered | shutdownBegin | shutdownCatch
  | destroying => exact ⟨rfl, trivial⟩
  | _ => cases h

/-- Why a start is refused before it creates anything, and what it throws. -/
inductive Rejects (s : System) (request : RecordingStartRequest) : Call → Exception → Prop
  | invalid {e : Exception} (hc : serializeRecordingStartRequest request = .error e) :
      Rejects s request (.startEntered request) e
  | active {canonical : ByteString} (hc : serializeRecordingStartRequest request = .ok canonical)
      (hid : ¬(request.recordingId = s.impl.recordingId ∧
        request.requestId = s.impl.start.requestId)) (hs : s.impl.state.isActive = true) :
      Rejects s request (.startEntered request) alreadyActive
  | reused {canonical : ByteString} (hc : serializeRecordingStartRequest request = .ok canonical)
      (hid : request.recordingId = s.impl.recordingId ∧
        request.requestId = s.impl.start.requestId) (hne : canonical ≠ s.impl.start.canonical) :
      Rejects s request (.startEntered request) startContentReused
  | unread {canonical : ByteString} {e : Exception} :
      Rejects s request (.startLookup request canonical (.throw e)) e
  | persisted {canonical : ByteString} {artifact : PersistedRecordingArtifact}
      (hne : artifact.startRequest ≠ canonical) :
      Rejects s request (.startLookup request canonical (.pure (some artifact)))
        startIdentityConflict

section Steps
variable {setup : Setup} {x y : Observed} {s t : System} {c : Choice} {call : Call}
  {request : RecordingStartRequest} {e : Exception}

theorem refused_callStep (h : Rejects s request call e)
    (he : s.callStep setup c call = some t) :
    t.impl = s.impl ∧ t.machine.disk = s.machine.disk ∧
      t.history.returns = .start request (.error e) :: s.history.returns := by
  cases h with
  | invalid hc =>
    simp only [System.callStep, System.startEntered, hc] at he
    cases he
    exact ⟨rfl, rfl, rfl⟩
  | unread =>
    cases he
    exact ⟨rfl, rfl, rfl⟩
  | active hc hid hs =>
    simp only [System.callStep, System.startEntered, hc] at he
    rw [if_neg hid, if_pos hs] at he
    cases he
    exact ⟨rfl, rfl, rfl⟩
  | reused hc hid hne =>
    simp only [System.callStep, System.startEntered, hc] at he
    rw [if_pos hid, if_neg hne] at he
    cases he
    exact ⟨rfl, rfl, rfl⟩
  | persisted hne =>
    simp only [System.callStep, System.advance, System.startLookedUp] at he
    rw [if_pos hne] at he
    cases he
    exact ⟨rfl, rfl, rfl⟩

theorem undecided_of_rejects (h : Rejects s request call e) : call.undecided = true := by
  cases h <;> rfl

/-- No other error is answered by a start that has created nothing. -/
theorem rejects_of_answer (hu : call.undecided = true) (hreq : call.request = some request)
    (he : s.callStep setup c call = some t)
    (hr : t.history.returns = .start request (.error e) :: s.history.returns) :
    Rejects s request call e := by
  have hquiet : s.history.returns ≠ .start request (.error e) :: s.history.returns :=
    fun h => List.cons_ne_self _ _ h.symm
  have hanswer : ∀ {result : Except Exception RecordingStartResult},
      .start request result :: s.history.returns =
        .start request (.error e) :: s.history.returns → result = .error e := by
    intro result h
    cases h
    rfl
  cases call with
  | startEntered r =>
    cases hreq
    cases he
    revert hr
    unfold System.startEntered
    split
    · rename_i hc
      intro hr
      cases hanswer hr
      exact .invalid hc
    · rename_i canonical hc
      split
      · rename_i hid
        split
        · intro hr
          cases hanswer hr
        · rename_i hne
          intro hr
          cases hanswer hr
          exact .reused hc hid hne
      · rename_i hid
        split
        · rename_i hs
          intro hr
          cases hanswer hr
          exact .active hc hid hs
        · split
          · exact fun hr => absurd hr hquiet
          · exact fun hr => absurd hr hquiet
  | startJoining r canonical =>
    change (if s.workerLive = true then none else _) = some t at he
    split at he <;> cases he
    exact absurd hr hquiet
  | startLookup r canonical p =>
    cases hreq
    cases he
    cases p with
    | throw e' =>
      cases hanswer hr
      exact .unread
    | op o k => exact absurd hr hquiet
    | pure found =>
      revert hr
      cases found with
      | none => exact fun hr => absurd hr hquiet
      | some artifact =>
        simp only [System.advance, System.startLookedUp]
        split
        · rename_i hne
          intro hr
          cases hanswer hr
          exact .persisted hne
        · intro hr
          cases hanswer hr
  | _ => cases hu

theorem entered_callStep (hr : Reach (Manager.IsInitial setup) (System.step setup) anyStep
    x.system) (h : Entered x) (he : x.step setup (.callStep c) = some y) : Entered y := by
  have hs := storage_reachable hr
  obtain ⟨ht, hentry, huntouched⟩ := Observed.step_callStep he
  have hnext := step_next (control_reachable hr) hs ht
  have hkept : ∀ id m, y.entry (.artifact m id) ≠ none →
      ∃ k, y.system.machine.disk (.artifact k id) ≠ none := by
    intro id m hm
    rw [hentry] at hm
    exact Lifecycle.exists_artifact_lawful hs.wellFormed hnext.lawful (h.kept id m hm)
  have hfree : y.system.holder = none → Entered y := by
    intro hnone
    refine ⟨hkept, ?_, ?_, ?_⟩
    · intro call' request hc
      cases hnone.symm.trans hc
    · intro call' hc
      cases hnone.symm.trans hc
    · intro call' hc
      cases hnone.symm.trans hc
  obtain ⟨call, hh, hstep⟩ := Option.bind_eq_some_iff.mp ht
  cases hreq : call.request with
  | none =>
    refine ⟨hkept, ?_, ?_, ?_⟩
    · intro call' request hc hsome
      cases (request_callStep hreq hstep hc).symm.trans hsome
    · intro call' hc hu
      cases (undecided_of_request (request_callStep hreq hstep hc)).1.symm.trans hu
    · intro call' hc
      exact (undecided_of_request (request_callStep hreq hstep hc)).2
  | some request =>
    cases startStep_callStep hs (h.releases call hh) hh hreq hstep with
    | waits call' hu hh' hu' hrel hi hd =>
      refine ⟨hkept, ?_, ?_, ?_⟩
      · intro call'' request' hc _ hdecided
        cases hh'.symm.trans hc
        cases hu'.symm.trans hdecided
      · intro _ _ _
        exact huntouched.mpr ⟨h.quiet call hh hu, hi, hd⟩
      · intro call'' hc
        cases hh'.symm.trans hc
        exact hrel
    | refused e hu hh' => exact hfree hh'
    | replayed hu hh' => exact hfree hh'
    | prepares call' hu hh' hp hrel =>
      have hst : call'.Starts request := .inl hp
      have habsent : ∀ m, x.entry (.artifact m request.recordingId) = none := by
        rcases hnext.starts hh' hst with ⟨before, hb, hst'⟩ | habsent
        · cases hh.symm.trans hb
          cases hst'.request.2.symm.trans hu
        · intro m
          by_contra hne
          obtain ⟨k, hk⟩ := h.kept _ m hne
          exact hk (habsent k)
      refine ⟨hkept, ?_, ?_, ?_⟩
      · intro call'' request' hc hr' _
        cases hh'.symm.trans hc
        cases hst.request.1.symm.trans hr'
        rw [hentry]
        exact habsent
      · intro call'' hc hu'
        cases hh'.symm.trans hc
        cases hst.request.2.symm.trans hu'
      · intro call'' hc
        cases hh'.symm.trans hc
        exact hrel
    | builds hu hh' hd =>
      refine ⟨hkept, ?_, ?_, ?_⟩
      · intro call' request' hc hr' _
        cases (hh' call' hc).1.symm.trans hr'
        rw [hentry]
        exact h.apart call request hh hreq hu
      · intro call' hc hu'
        cases (hh' call' hc).2.1.symm.trans hu'
      · intro call' hc
        exact (hh' call' hc).2.2

theorem entered_step {e : Event} (hr : Reach (Manager.IsInitial setup) (System.step setup) anyStep
    x.system) (h : Entered x) (he : x.step setup e = some y) : Entered y := by
  have hs := storage_reachable hr
  by_cases hcall : ∃ c, e = .callStep c
  · obtain ⟨c, rfl⟩ := hcall
    exact entered_callStep hr h he
  have hne : ∀ c, e ≠ .callStep c := not_exists.mp hcall
  have ht := Observed.step_system he
  obtain ⟨⟨request, rfl⟩, hentry, huntouched⟩ | ⟨hstart, hentry, huntouched⟩ :=
    Observed.step_other he hne
  · have hholder : y.system.holder = some (.startEntered request) := by
      simp only [System.step, System.enter] at ht
      split at ht
      · rw [← Option.some.inj ht]
        rfl
      · cases ht
    refine ⟨?_, ?_, fun _ _ _ => huntouched, ?_⟩
    · intro id m hm
      rw [hentry] at hm
      exact ⟨m, hm⟩
    · intro call request' hc _ hdecided
      cases hholder.symm.trans hc
      cases hdecided
    · intro call hc
      cases hholder.symm.trans hc
      trivial
  · have hnext := step_next (control_reachable hr) hs ht
    have hheld : ∀ call, y.system.holder = some call →
        x.system.holder = some call ∨ call.request = none := by
      intro call hc
      rcases holder_step ht hne hc with hold | ⟨api, rfl, henters⟩
      · exact .inl hold
      · right
        cases api with
        | start request => exact absurd rfl (hstart request)
        | stop | shutdown =>
          cases henters
          rfl
        | destroy =>
          obtain ⟨p, rfl⟩ := henters
          rfl
    refine ⟨?_, ?_, ?_, ?_⟩
    · intro id m hm
      rw [hentry] at hm
      exact Lifecycle.exists_artifact_lawful hs.wellFormed hnext.lawful (h.kept id m hm)
    · intro call request hc hreq hu
      rw [hentry]
      rcases hheld call hc with hold | hnone
      · exact h.apart call request hold hreq hu
      · cases hnone.symm.trans hreq
    · intro call hc hu
      rw [huntouched]
      rcases hheld call hc with hold | hnone
      · exact h.quiet call hold hu
      · cases (undecided_of_request hnone).1.symm.trans hu
    · intro call hc
      rcases hheld call hc with hold | hnone
      · exact h.releases call hold
      · exact (undecided_of_request hnone).2

end Steps

/-- Starts are single and apart. -/
structure StartsApart (setup : Setup) (x : Observed) : Prop where
  once : ∀ id, x.system.history.returns.countP (Return.starts id) ≤ 1
  single : ∀ n k p q, x.system.history.phase n = some p → p.isActive = true →
    x.system.history.phase k = some q → q.isActive = true → n = k
  current : x.system.impl.state ≠ .idle →
    x.system.history.phase x.system.history.current = some x.system.impl.state
  kept : ∀ c t call request, x.system.holder = some call → call.request = some request →
    x.system.step setup (.callStep c) = some t →
    ∀ id m, x.entry (.artifact m id) ≠ none →
      LeavesArtifact x.system.machine.disk t.machine.disk id ∨
        call.releasing = true ∧ KeepsArtifact x.system.machine.disk t.machine.disk id
  answered : ∀ c y call request e, x.system.holder = some call → call.request = some request →
    call.undecided = true → x.step setup (.callStep c) = some y →
    y.system.history.returns = .start request (.error e) :: x.system.history.returns →
    Rejects x.system request call e
  refused : ∀ c y call request e, x.system.holder = some call →
    Rejects x.system request call e → x.step setup (.callStep c) = some y →
    y.system.history.returns = .start request (.error e) :: x.system.history.returns ∧ y.untouched

/-- In every run, over any number of process lifetimes. -/
theorem starts_apart {setup : Setup} {x : Observed}
    (h : Reach (Observed.IsInitial setup) (Observed.step setup) anyStep x) :
    StartsApart setup x := by
  have hinv : Reach (Manager.IsInitial setup) (System.step setup) anyStep x.system ∧
      Entered x := by
    refine h.invariant (fun x => Reach (Manager.IsInitial setup) (System.step setup) anyStep
      x.system ∧ Entered x) ?_ ?_
    · rintro x ⟨hs, hentry⟩
      have hnone : x.system.holder = none := by
        obtain ⟨machine, -, hx⟩ := hs
        rw [hx]
        rfl
      refine ⟨.start hs, ?_, ?_, ?_, ?_⟩
      · intro id m hm
        rw [hentry] at hm
        exact ⟨m, hm⟩
      · intro call request hc
        cases hnone.symm.trans hc
      · intro call hc
        cases hnone.symm.trans hc
      · intro call hc
        cases hnone.symm.trans hc
    · intro x e y _ hi he _
      exact ⟨hi.1.next (Observed.step_system he) trivial, entered_step hi.1 hi.2 he⟩
  obtain ⟨hr, hentered⟩ := hinv
  have hs := storage_reachable hr
  have hn := (numbered_reachable hr).1
  have hactive : ∀ n p, x.system.history.phase n = some p → p.isActive = true →
      n = x.system.history.current := by
    intro n p hp ha
    by_contra hne
    rcases hn.past n p hne hp with rfl | rfl <;> cases ha
  constructor
  · exact (startedOnce_reachable hr).once
  · intro n k p q hp hpa hq hqa
    exact (hactive n p hp hpa).trans (hactive k q hq hqa).symm
  · exact hn.current
  · intro c t call request hh hreq ht id m hm
    obtain ⟨call', hh', he⟩ := Option.bind_eq_some_iff.mp ht
    cases hh.symm.trans hh'
    cases startStep_callStep hs (hentered.releases call hh) hh hreq he with
    | waits call' hu hh' hu' hrel hi hd => exact .inl (hd ▸ .refl _ id)
    | refused e hu hh' hi hm => exact .inl (hm ▸ .refl _ id)
    | replayed hu hh' hd => exact .inl (hd ▸ .refl _ id)
    | prepares call' hu hh' hp hrel hd => exact .inl (hd ▸ .refl _ id)
    | builds hu hh' hd =>
      apply hd
      rintro rfl
      exact hm (hentered.apart call request hh hreq hu m)
  · intro c y call request e hh hreq hu he hret
    obtain ⟨ht, -, -⟩ := Observed.step_callStep he
    obtain ⟨call', hh', hstep⟩ := Option.bind_eq_some_iff.mp ht
    cases hh.symm.trans hh'
    exact rejects_of_answer hu hreq hstep hret
  · intro c y call request e hh hrej he
    obtain ⟨ht, -, huntouched⟩ := Observed.step_callStep he
    obtain ⟨call', hh', hstep⟩ := Option.bind_eq_some_iff.mp ht
    cases hh.symm.trans hh'
    obtain ⟨hi, hd, hret⟩ := refused_callStep hrej hstep
    exact ⟨hret, huntouched.mpr ⟨hentered.quiet call hh (undecided_of_rejects hrej), hi, hd⟩⟩

/-- One recording has been started, and the start of another one has entered. -/
def secondStart : List Event :=
  [.call (.start (request "start-1" "take-1"))] ++ calls 58 ++
    [.call (.start (request "start-2" "take-2"))]

set_option maxRecDepth 100000 in
theorem starts_apart_second : ∃ x : Observed,
    x.system.history.returns.countP (Return.starts (ascii "take-1")) = 1 ∧
    x.system.holder.isSome = true ∧ StartsApart sampleSetup x := by
  have hstart : Reach (Observed.IsInitial sampleSetup) (Observed.step sampleSetup) anyStep
      ⟨sampleStart, emptyMachine.disk, True⟩ := .start ⟨sampleStart_isInitial, rfl⟩
  have hrun : (runEvents (Observed.step sampleSetup) (fun _ _ => true)
      ⟨sampleStart, emptyMachine.disk, True⟩ secondStart).any (fun x =>
        decide (x.system.history.returns.countP (Return.starts (ascii "take-1")) = 1) &&
          x.system.holder.isSome) = true := by
    decide +kernel
  obtain ⟨x, hx, htest⟩ := hstart.exists_run (fun _ _ _ _ _ => trivial) hrun
  simp only [Bool.and_eq_true, decide_eq_true_eq] at htest
  exact ⟨x, htest.1, htest.2, starts_apart hx⟩

end NodusVision.Guarantees
