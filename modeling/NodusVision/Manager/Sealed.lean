import NodusVision.Manager.Closers

/-! While the closing of a recording is on record, nobody else closes one, and the ledger that
names the recording is that of its closer. -/
namespace NodusVision.Manager
open Text Storage Disk Program Recording RecordingStore Transition

namespace Lifecycle
variable {v v' u : Lifecycle}

/-- A thread is at this point of `beginFinalizationLocked`. -/
def InBegin (v : Lifecycle) (b : BeginPc) : Prop :=
  (∃ call closer, v.holder = some call ∧ call.closing = some (closer, b)) ∨
    ∃ w, v.worker = some w ∧ w.pc = .loop (.begin b)

/-- What a step does to the record of the closing. -/
inductive RecordStep (v v' : Lifecycle) : Prop
  | kept (h : v'.closed = v.closed)
  | cleared (h : v'.closed = none)
  | closes (closer : Closer) (hb : v.InBegin .checkDeadline) (hh : v'.holder = none)
      (hc : v'.closed = some ⟨v.recordingId, closer⟩) (hs : v'.stop = closer.ledger)
      (hid : v'.recordingId = v.recordingId) (hbegun : v'.begun = v.begun)
      (hd : StopIs v'.disk v.recordingId (closer.evidence v.recordingId))
      (hr : ∀ request, closer = .requested request →
        ∃ call, v.holder = some call ∧ call.stopping = some request)

theorem Begins.record {closer : Closer} {b : BeginPc} {r : BeginResult}
    (h : v.Begins closer b r u) : u.closed = v.closed ∨ b = .checkDeadline ∧ r = .finished ∧
      u = { v with stop := closer.ledger, closed := some ⟨v.recordingId, closer⟩ } ∧
      StopIs v.disk v.recordingId (closer.evidence v.recordingId) := by
  cases h with
  | finish hlate hs => exact .inr ⟨rfl, rfl, rfl, hs⟩
  | _ => exact .inl rfl

theorem stopping_of_closing {call : Call} {request : RecordingStartRequest} {b : BeginPc}
    (h : call.closing = some (.requested request, b)) : call.stopping = some request := by
  cases call <;> cases h
  rfl

theorem Next.recordStep (h : v.Next v') : v.RecordStep v' := by
  cases h with
  | enter call closed hh hs hc hcl =>
    rcases hcl with rfl | rfl
    · exact .kept rfl
    · exact .cleared rfl
  | @beginPoint call call' closer b b' u hh hc hc' hf hb =>
    rcases hb.record with hsame | ⟨-, hfin, -⟩
    · exact .kept hsame
    · cases hfin
  | @beginFinished call closer b u rs hh hc hf hb =>
    rcases hb.record with hsame | ⟨rfl, -, rfl, hs⟩
    · exact .kept hsame
    · refine .closes closer (.inl ⟨call, closer, hh, hc⟩) rfl rfl rfl rfl rfl hs ?_
      rintro request rfl
      exact ⟨call, hh, stopping_of_closing hc⟩
  | beginFailed h' rs hh hc hb =>
    rcases hb.record with hsame | ⟨-, hfin, -⟩
    · exact .kept hsame
    · cases hfin
  | workBegin hh hw hpc hid hin hb | workFailed hh hw hpc hid hin hb =>
    rcases hb.record with hsame | ⟨-, hfin, -⟩
    · exact .kept hsame
    · cases hfin
  | @workFinished w b u hh hw hpc hid hin hb =>
    rcases hb.record with hsame | ⟨rfl, -, rfl, hs⟩
    · exact .kept hsame
    · refine .closes .maxDuration (.inr ⟨w, hw, hpc⟩) hh rfl rfl rfl rfl hs ?_
      intro request heq
      cases heq
  | exit => exact .cleared rfl
  | _ => exact .kept rfl

/-- There is no record while a recording starts, takes frames or is being closed. -/
structure Sealed (v : Lifecycle) : Prop where
  recording : v.state = .recording → v.closed = none
  inside : ∀ b, v.InBegin b → b ≠ .enter → v.closed = none

/-- Neither call nor worker comes to close a recording. -/
theorem Sealed.same (h : v.Sealed) (hc : v'.closed = v.closed ∨ v'.closed = none)
    (hs : v'.state = .recording → v.state = .recording)
    (hb : ∀ b, v'.InBegin b → b ≠ .enter → v.InBegin b) : v'.Sealed := by
  rcases hc with hc | hc
  · constructor
    · intro hr
      rw [hc]
      exact h.recording (hs hr)
    · intro b hin hne
      rw [hc]
      exact h.inside b (hb b hin hne) hne
  · exact ⟨fun _ => hc, fun _ _ _ => hc⟩

/-- The mutex is free, or its holder closes nothing. -/
theorem Sealed.free (h : v.Sealed) (hc : v'.closed = v.closed ∨ v'.closed = none)
    (hs : v'.state = .recording → v.state = .recording)
    (hh : ∀ call, v'.holder = some call → call.closing = none)
    (hw : ∀ w b, v'.worker = some w → w.pc = .loop (.begin b) → v.worker = some w) :
    v'.Sealed := by
  refine h.same hc hs ?_
  rintro b (⟨call, closer, hcall, hcl⟩ | ⟨w, hw', hpc⟩) -
  · cases (hh call hcall).symm.trans hcl
  · exact .inr ⟨w, hw w b hw' hpc, hpc⟩

/-- Distinct closers leave distinct evidence, as far as the stops are of the kind `P`. -/
structure Tells (P : RecordingStartRequest → Prop) : Prop where
  requested : ∀ request other, P request → P other →
    canonicalStop request = canonicalStop other → request.requestId = other.requestId
  internal : ∀ request reason, P request → isRecordingIdValid request.recordingId = true →
    canonicalStop request ≠ serializeInternalStopEvidence request.recordingId reason

/-- What the record says is so. -/
structure Recorded (P : RecordingStartRequest → Prop) (v : Lifecycle) : Prop where
  begun : ∀ r, v.closed = some r → r.recordingId ∈ v.begun
  evidence : ∀ r, v.closed = some r →
    StopStored v.disk r.recordingId (r.closer.evidence r.recordingId)
  ledger : ∀ r, v.closed = some r → v.recordingId = r.recordingId → v.stop = r.closer.ledger
  requested : ∀ r request, v.closed = some r → r.closer = .requested request → P request

/-- The ledger is left alone, or there is no record. -/
theorem Recorded.same {P : RecordingStartRequest → Prop} (h : v.Recorded P)
    (hw : v.disk.WellFormed) (hl : v.disk.Lawful v'.disk)
    (hc : v'.closed = v.closed ∨ v'.closed = none) (hb : ∀ id ∈ v.begun, id ∈ v'.begun)
    (hs : v'.closed = none ∨ v'.recordingId = v.recordingId ∧ v'.stop = v.stop) :
    v'.Recorded P := by
  have hold : ∀ r, v'.closed = some r → v.closed = some r := by
    intro r hr
    rcases hc with hc | hc
    · exact hc.symm.trans hr
    · cases hc.symm.trans hr
  constructor
  · intro r hr
    exact hb _ (h.begun r (hold r hr))
  · intro r hr
    exact (h.evidence r (hold r hr)).lawful hw hl
  · intro r hr hid
    rcases hs with hs | ⟨hid', hs⟩
    · cases hs.symm.trans hr
    · rw [hs]
      exact h.ledger r (hold r hr) (hid'.symm.trans hid)
  · intro r request hr
    exact h.requested r request (hold r hr)

/-- The evidence of a finalized artifact is that of its closer. -/
theorem ledger_of_evidence {P : RecordingStartRequest → Prop} (hP : Tells P) {closer : Closer}
    {request : RecordingStartRequest} (hrequest : P request)
    (hvalid : isRecordingIdValid request.recordingId = true)
    (hcloser : ∀ other, closer = .requested other → P other)
    (he : closer.evidence request.recordingId = canonicalStop request) :
    closer.ledger = ⟨request.requestId, canonicalStop request, .requested⟩ := by
  cases closer with
  | requested other =>
    have hid := hP.requested other request (hcloser other rfl) hrequest he
    have hledger : (Closer.requested other).ledger =
        ⟨other.requestId, canonicalStop other, .requested⟩ := rfl
    have he : canonicalStop other = canonicalStop request := he
    rw [hledger, hid, he]
  | maxDuration => exact absurd he.symm (hP.internal request .maxDuration hrequest hvalid)
  | applicationShutdown =>
    exact absurd he.symm (hP.internal request .applicationShutdown hrequest hvalid)

end Lifecycle

section Steps
variable {setup : Setup} {s t : System} {v' : Lifecycle} {P : RecordingStartRequest → Prop}

open Lifecycle

/-- A start clears the record as it enters. -/
def System.StartsUnclosed (s : System) : Prop :=
  ∀ call request, s.holder = some call → call.request = some request → s.history.closed = none

theorem startsUnclosed_step {e : Event} (hk : s.core.Control) (hs : s.Storage setup)
    (h : s.StartsUnclosed) (he : s.step setup e = some t) : t.StartsUnclosed := by
  intro call request hc hr
  have hrecord : s.history.closed = none → t.history.closed = none := by
    intro hnone
    cases (step_next hk hs he).recordStep with
    | kept h => exact h.trans hnone
    | cleared h => exact h
    | closes closer hb hh => cases hh.symm.trans hc
  by_cases hcall : ∃ c, e = .callStep c
  · obtain ⟨c, rfl⟩ := hcall
    obtain ⟨held, hh, hstep⟩ := Option.bind_eq_some_iff.mp he
    cases hreq : held.request with
    | none => cases (request_callStep hreq hstep hc).symm.trans hr
    | some other => exact hrecord (h held other hh hreq)
  · rcases holder_step he (not_exists.mp hcall) hc with hold | ⟨api, rfl, henters⟩
    · exact hrecord (h call request hold hr)
    · cases api with
      | start other =>
        simp only [System.step, System.enter] at he
        split at he <;> cases he
        rfl
      | stop | shutdown =>
        cases henters
        cases hr
      | destroy =>
        obtain ⟨p, rfl⟩ := henters
        cases hr

theorem not_recording_of_inBegin {b : BeginPc} (hk : s.core.Control) (h : s.lifecycle.InBegin b)
    (hne : b ≠ .enter) : s.lifecycle.state ≠ .recording := by
  intro hr
  rcases h with ⟨call, closer, hh, hc⟩ | ⟨w, hw, hpc⟩
  · exact hne ((flags_enter (closing_control hk hh hc).2).2 hr)
  · cases hh : s.holder with
    | none => exact hne ((flags_enter (worker_flags hk hh hw hpc)).2 hr)
    | some call =>
      have hfree := hk.released hh w hw
      rw [hpc] at hfree
      cases hfree

/-- Whoever is in `beginFinalizationLocked` has found no record. -/
theorem unclosed_of_inBegin {b : BeginPc} (hk : s.core.Control) (h : s.lifecycle.Sealed)
    (hb : s.lifecycle.InBegin b) : s.lifecycle.closed = none := by
  by_cases hne : b = .enter
  · subst hne
    apply h.recording
    rcases hb with ⟨call, closer, hh, hc⟩ | ⟨w, hw, hpc⟩
    · exact (flags_enter (closing_control hk hh hc).2).1 rfl
    · cases hh : s.holder with
      | none => exact (flags_enter (worker_flags hk hh hw hpc)).1 rfl
      | some call =>
        have hfree := hk.released hh w hw
        rw [hpc] at hfree
        cases hfree
  · exact h.inside b hb hne

theorem sealed_next (hk : s.core.Control) (h : s.lifecycle.Sealed) (hn : s.lifecycle.Next v')
    (hstart : ∀ call request, v'.holder = some call → call.request = some request →
      v'.closed = none) : v'.Sealed := by
  have hclear : v'.closed = none → v'.Sealed := fun hc => ⟨fun _ => hc, fun _ _ _ => hc⟩
  have hpoint : ∀ {b b' : BeginPc} {closer : Closer} {u : Lifecycle}, s.lifecycle.InBegin b →
      s.lifecycle.Begins closer b (.point b') u → u.closed = none := by
    intro b b' closer u hin hb
    rcases hb.record with hsame | ⟨-, hfin, -⟩
    · exact hsame.trans (unclosed_of_inBegin hk h hin)
    · cases hfin
  have hfailed : ∀ {b : BeginPc} {e : Exception} {closer : Closer} {u : Lifecycle},
      s.lifecycle.InBegin b → s.lifecycle.Begins closer b (.failed e) u → u.closed = none := by
    intro b e closer u hin hb
    rcases hb.record with hsame | ⟨-, hfin, -⟩
    · exact hsame.trans (unclosed_of_inBegin hk h hin)
    · cases hfin
  have hsame : s.lifecycle.closed = s.lifecycle.closed ∨ s.lifecycle.closed = none := .inl rfl
  have hnone : ∀ call : Call, none = some call → call.closing = none := by
    intro call hc
    cases hc
  have hworker : ∀ w b, s.lifecycle.worker = some w → w.pc = .loop (.begin b) →
      s.lifecycle.worker = some w := fun w b hw _ => hw
  cases hn with
  | tick | reject => exact h.same hsame id fun b hb _ => hb
  | joined =>
    refine h.same hsame id ?_
    rintro b (hb | ⟨w, ⟨⟩, -⟩) -
    exact .inl hb
  | answer | repeated | await | started => exact h.free hsame id hnone hworker
  | enter call closed hh hs hc hcl =>
    refine h.free hcl id ?_ hworker
    rintro _ ⟨⟩
    exact hc
  | @proceed call call' d hh hf hd =>
    refine h.same hsame id ?_
    rintro b (⟨_, closer, ⟨⟩, hcl⟩ | hw) hne
    · exact absurd (hf.closing closer b hcl).1 hne
    · exact .inr hw
  | startJoined | prepare | create | publish | spawn | record | startFailed =>
    exact hclear (hstart _ _ rfl rfl)
  | @startRestored request canonical artifact =>
    refine h.free hsame ?_ hnone hworker
    intro hr
    have hr : (if artifact.finalized then RecordingState.finalized else .faulted) = .recording := hr
    split at hr <;> cases hr
  | stopRestored | shutdownCatch =>
    refine h.free hsame ?_ hnone hworker
    intro hr
    cases hr
  | @beginPoint call call' closer b b' u hh hc hc' hf hb =>
    have hu : u.closed = none := hpoint (.inl ⟨call, closer, hh, hc⟩) hb
    exact hclear hu
  | @beginFailed call closer b e u h' rs hh hc hb =>
    have hu : u.closed = none := hfailed (.inl ⟨call, closer, hh, hc⟩) hb
    exact hclear hu
  | @workBegin w b b' u hh hw hpc hid hin hb =>
    have hu : u.closed = none := hpoint (.inr ⟨w, hw, hpc⟩) hb
    exact hclear hu
  | @workFailed w b e u hh hw hpc hid hin hb =>
    have hu : u.closed = none := hfailed (.inr ⟨w, hw, hpc⟩) hb
    exact hclear hu
  | @beginFinished call closer b u rs hh hc hf hb =>
    have hin : s.lifecycle.InBegin b := .inl ⟨call, closer, hh, hc⟩
    cases hb with
    | finish hlate hstop =>
      constructor
      · intro hr
        exact absurd hr (not_recording_of_inBegin hk hin fun he => by cases he)
      · rintro b (⟨_, _, ⟨⟩, -⟩ | ⟨w, hw, hpc⟩) -
        have hfree := hk.released hh w hw
        rw [hpc] at hfree
        cases hfree
  | @workFinished w b u hh hw hpc hid hin hb =>
    have hbegin : s.lifecycle.InBegin b := .inr ⟨w, hw, hpc⟩
    cases hb with
    | finish hlate hstop =>
      constructor
      · intro hr
        exact absurd hr (not_recording_of_inBegin hk hbegin fun he => by cases he)
      · rintro b (⟨call, closer, hc, -⟩ | ⟨_, ⟨⟩, hpc'⟩) -
        · cases hh.symm.trans hc
        · cases hpc'
  | @work w pc d hw hm hd =>
    refine h.same hsame id ?_
    rintro b (hb | ⟨_, ⟨⟩, hpc⟩) hne
    · exact .inl hb
    · generalize w.pc = k at hm
      cases hpc
      cases hm with
      | within hk hl => cases hl
      | wake => exact absurd rfl hne
  | finalized hh | faulted hh =>
    refine h.free hsame ?_ ?_ ?_
    · intro hr
      cases hr
    · intro call hc
      cases hh.symm.trans hc
    · rintro w b ⟨⟩ hpc
      cases hpc
  | exit => exact hclear rfl

/-- FINALIZING is entered by `beginFinalizationLocked` only. -/
theorem finalizing_next (h : s.lifecycle.state = .finalizing → s.lifecycle.recordingId ∈ s.lifecycle.begun)
    (hn : s.lifecycle.Next v') : v'.state = .finalizing → v'.recordingId ∈ v'.begun := by
  have hbegins : ∀ {closer : Closer} {b : BeginPc} {r : BeginResult} {u : Lifecycle},
      s.lifecycle.Begins closer b r u → u.state = .finalizing → u.recordingId ∈ u.begun := by
    intro closer b r u hb
    cases hb with
    | enter => exact fun _ => List.mem_cons_self
    | fail =>
      intro hf
      cases hf
    | _ => exact h
  cases hn with
  | @startRestored request canonical artifact =>
    intro hf
    have hf : (if artifact.finalized then RecordingState.finalized else .faulted) = .finalizing := hf
    split at hf <;> cases hf
  | publish hh hw hst =>
    intro hf
    cases hst.symm.trans hf
  | stopRestored | prepare | record | startFailed | shutdownCatch | finalized | faulted | exit =>
    intro hf
    cases hf
  | beginPoint hh hc hc' hf hb | beginFinished rs hh hc hf hb | beginFailed h' rs hh hc hb
  | workBegin hh hw hpc hid hin hb | workFinished hh hw hpc hid hin hb
  | workFailed hh hw hpc hid hin hb =>
    have hu := hbegins hb
    exact hu
  | _ => exact h

theorem begun_of_inBegin (hk : s.core.Control)
    (h : s.lifecycle.state = .finalizing → s.lifecycle.recordingId ∈ s.lifecycle.begun)
    (hb : s.lifecycle.InBegin .checkDeadline) : s.lifecycle.recordingId ∈ s.lifecycle.begun := by
  apply h
  rcases hb with ⟨call, closer, hh, hc⟩ | ⟨w, hw, hpc⟩
  · have hflags := (closing_control hk hh hc).2
    exact hflags.1
  · cases hh : s.holder with
    | none =>
      have hflags := worker_flags hk hh hw hpc
      exact hflags.1
    | some call =>
      have hfree := hk.released hh w hw
      rw [hpc] at hfree
      cases hfree

theorem recorded_next (hs : s.Storage setup) (hP : Tells P) (h : s.lifecycle.Recorded P)
    (hn : s.lifecycle.Next v')
    (hunclosed : ∀ call request, s.lifecycle.holder = some call → call.request = some request →
      s.lifecycle.closed = none)
    (hstops : ∀ call request, s.lifecycle.holder = some call → call.stopping = some request →
      P request)
    (hbegun : s.lifecycle.InBegin .checkDeadline → s.lifecycle.recordingId ∈ s.lifecycle.begun) :
    v'.Recorded P := by
  have hwf : s.lifecycle.disk.WellFormed := hs.wellFormed
  have hkept : s.lifecycle.closed = s.lifecycle.closed ∨ s.lifecycle.closed = none := .inl rfl
  have hledger : s.lifecycle.closed = none ∨ s.lifecycle.recordingId = s.lifecycle.recordingId ∧
      s.lifecycle.stop = s.lifecycle.stop := .inr ⟨rfl, rfl⟩
  have hbegins : ∀ {closer : Closer} {b : BeginPc} {r : BeginResult} {u : Lifecycle},
      s.lifecycle.InBegin b → (∀ request, closer = .requested request → P request) →
      s.lifecycle.Begins closer b r u → u.Recorded P := by
    intro closer b r u hin hcloser hb
    cases hb with
    | enter =>
      exact h.same hwf (.refl _) hkept (fun id hid => List.mem_cons_of_mem _ hid) hledger
    | write d p p' hd => exact h.same hwf hd.1 hkept (fun id hid => hid) hledger
    | close | written | unwritten | late | fail =>
      exact h.same hwf (.refl _) hkept (fun id hid => hid) hledger
    | finish hlate hstop =>
      constructor
      · rintro r ⟨⟩
        exact hbegun hin
      · rintro r ⟨⟩
        exact ⟨.staging, hstop⟩
      · rintro r ⟨⟩ -
        rfl
      · rintro r request ⟨⟩ heq
        exact hcloser request heq
  have hbeside : ∀ {u : Lifecycle} {holder : Option Call} {worker : Option Worker}
      {returns : List Return}, u.Recorded P →
      Recorded P { u with holder := holder, worker := worker, returns := returns } :=
    fun hu => ⟨hu.begun, hu.evidence, hu.ledger, hu.requested⟩
  have hcalls : ∀ {call : Call} {closer : Closer} {b : BeginPc},
      s.lifecycle.holder = some call → call.closing = some (closer, b) →
      ∀ request, closer = .requested request → P request := by
    rintro call closer b hh hc request rfl
    exact hstops call request hh (stopping_of_closing hc)
  have hinternal : ∀ request, Closer.maxDuration = .requested request → P request := by
    intro request heq
    cases heq
  cases hn with
  | enter call closed hh hst hc hcl =>
    exact h.same hwf (.refl _) hcl (fun id hid => hid) (.inr ⟨rfl, rfl⟩)
  | proceed d hh hf hd | work d hw hm hd =>
    exact h.same hwf hd.1 hkept (fun id hid => hid) hledger
  | startRestored hh | publish hh =>
    have hnone := hunclosed _ _ hh rfl
    exact h.same hwf (.refl _) hkept (fun id hid => hid) (.inl hnone)
  | @stopRestored request artifact hh hfin hst hv heq hheld =>
    obtain ⟨-, hvalid⟩ := Bool.and_eq_true_iff.mp hv
    constructor
    · exact h.begun
    · exact h.evidence
    · intro r hr hid
      have hid : request.recordingId = r.recordingId := hid
      have hfinal := (h.evidence r hr).finalized hwf (hid ▸ hheld.directory)
      have hstop : s.lifecycle.disk (.entry .finalized request.recordingId (.file .stopRequest)) =
          some (.regular (canonicalStop request)) :=
        hheld.stop.trans (congrArg (Option.map Node.regular) heq)
      rw [← hid, hstop] at hfinal
      have he : r.closer.evidence request.recordingId = canonicalStop request :=
        (Node.regular.inj (Option.some.inj hfinal)).symm
      exact (ledger_of_evidence hP (hstops _ request hh rfl) hvalid
        (fun other ho => h.requested r other hr ho) he).symm
    · exact h.requested
  | beginPoint hh hc hc' hf hb | beginFailed h' rs hh hc hb =>
    exact hbeside (hbegins (.inl ⟨_, _, hh, hc⟩) (hcalls hh hc) hb)
  | beginFinished rs hh hc hf hb =>
    exact hbeside (hbegins (.inl ⟨_, _, hh, hc⟩) (hcalls hh hc) hb)
  | workBegin hh hw hpc hid hin hb | workFinished hh hw hpc hid hin hb
  | workFailed hh hw hpc hid hin hb =>
    have hu := hbegins (.inr ⟨_, hw, hpc⟩) hinternal hb
    exact ⟨hu.begun, hu.evidence, hu.ledger, hu.requested⟩
  | exit => exact h.same hwf (.refl _) (.inr rfl) (fun id hid => hid) (.inl rfl)
  | _ => exact h.same hwf (.refl _) hkept (fun id hid => hid) hledger

/-- The record is left alone, or a closer finishes. -/
def System.KeepsClosed (s t : System) : Prop :=
  t.history.closed = s.history.closed ∨ t.history.closed ≠ none

theorem begin_keepsClosed {c : Choice} {closer : Closer} {point : System → BeginPc → System}
    {finish : System → System} {rethrow : System → Exception → System} {b : BeginPc}
    (hpoint : ∀ u b', (point u b').history.closed = u.history.closed)
    (hfinish : ∀ u, (finish u).history.closed = u.history.closed)
    (hrethrow : ∀ u e, (rethrow u e).history.closed = u.history.closed) :
    s.KeepsClosed (b.step setup s c closer point finish rethrow) := by
  cases b with
  | enter | closeAdmission => exact .inl (hpoint _ _)
  | evidence p => cases p <;> exact .inl (hpoint _ _)
  | checkDeadline =>
    simp only [BeginPc.step]
    split
    · exact .inl (hpoint _ _)
    · right
      rw [hfinish]
      exact Option.some_ne_none _
  | fail e => exact .inl (hrethrow _ _)

theorem keepsClosed_callStep {c : Choice} {call : Call} (he : s.callStep setup c call = some t)
    (hd : ∀ p, call ≠ .destroying p) : s.KeepsClosed t := by
  have hadvance : ∀ {α : Type} {point : StoreProg α → Call} {onReturn : α → System}
      {onThrow : Exception → System} {p : StoreProg α}, (∀ a, s.KeepsClosed (onReturn a)) →
      (∀ e, s.KeepsClosed (onThrow e)) → s.KeepsClosed (s.advance c point onReturn onThrow p) := by
    intro α point onReturn onThrow p hreturn hthrow
    cases p with
    | pure a => exact hreturn a
    | throw e => exact hthrow e
    | op o k => exact .inl rfl
  cases call with
  | startEntered request =>
    cases he
    unfold System.startEntered
    split
    · exact .inl rfl
    · split
      · split <;> exact .inl rfl
      · split
        · exact .inl rfl
        · split <;> exact .inl rfl
  | startJoining request canonical =>
    change (if s.workerLive = true then none else _) = some t at he
    split at he <;> cases he
    exact .inl rfl
  | startLookup request canonical p =>
    cases he
    refine hadvance (fun r => ?_) fun _ => .inl rfl
    cases r with
    | none => exact .inl rfl
    | some artifact =>
      simp only [System.startLookedUp]
      split <;> exact .inl rfl
  | startPreparing | startWriter | startReleaseWriter | startSidecar | startReleaseSidecar =>
    cases he
    exact hadvance (fun _ => .inl rfl) fun _ => .inl rfl
  | startSpawn request =>
    change (if c.fails = true then _ else _) = some t at he
    split at he <;> cases he <;> exact .inl rfl
  | startPublish | startRecording | startFailed | shutdownCatch | startAdmit | startRethrow =>
    cases he
    exact .inl rfl
  | stopEntered request =>
    cases he
    unfold System.stopEntered
    split
    · split
      · split
        · exact .inl rfl
        · split <;> exact .inl rfl
      · exact .inl rfl
    · exact .inl rfl
  | stopLookup request p =>
    cases he
    have hunrecorded : s.KeepsClosed (s.stopUnrecorded request) := by
      unfold System.stopUnrecorded
      split
      · exact .inl rfl
      · split <;> exact .inl rfl
    refine hadvance (fun r => ?_) fun _ => .inl rfl
    unfold System.stopLookedUp
    split
    · exact hunrecorded
    · split
      · exact hunrecorded
      · split
        · exact .inl rfl
        · split
          · unfold System.stopReplayed
            split <;> exact .inl rfl
          · split
            · exact .inl rfl
            · exact hunrecorded
  | stopBegin | shutdownBegin =>
    cases he
    exact begin_keepsClosed (fun _ _ => rfl) (fun _ => rfl) fun _ _ => rfl
  | shutdownEntered =>
    cases he
    unfold System.shutdownEntered
    split
    · exact .inl rfl
    · split <;> exact .inl rfl
  | destroying p => exact absurd rfl (hd p)

theorem closed_requireDeadline (next : WorkerPc) :
    (s.requireDeadline next).history.closed = s.history.closed := by
  unfold System.requireDeadline
  split <;> rfl

theorem closed_dispatch : s.dispatch.history.closed = s.history.closed := by
  unfold System.dispatch
  split
  · rfl
  · split <;> rfl

theorem closed_afterWait : s.afterWait.history.closed = s.history.closed := by
  unfold System.afterWait
  split
  · rfl
  · exact closed_dispatch

theorem keepsClosed_advanceWorker {c : Choice} {α : Type} {point : StoreProg α → WorkerPc}
    {onReturn : α → System} {onThrow : Exception → System} {p : StoreProg α}
    (hreturn : ∀ a, s.KeepsClosed (onReturn a)) (hthrow : ∀ e, s.KeepsClosed (onThrow e)) :
    s.KeepsClosed (s.advanceWorker c point onReturn onThrow p) := by
  cases p with
  | pure a => exact hreturn a
  | throw e => exact hthrow e
  | op o k => exact .inl rfl

theorem keepsClosed_loopStep {c : Choice} {pc : LoopPc} (he : s.loopStep setup c pc = some t) :
    s.KeepsClosed t := by
  cases pc with
  | acquire | waiting =>
    simp only [System.loopStep] at he
    split at he
    · cases he
    · split at he
      · rw [← Option.some.inj he]
        first | exact .inl closed_afterWait | exact .inl rfl
      · rw [← Option.some.inj he]
        first | exact .inl closed_afterWait | exact .inl rfl
  | begin b =>
    cases he
    exact begin_keepsClosed (fun _ _ => rfl) (fun _ => rfl) fun _ _ => rfl
  | dispatch =>
    cases he
    exact .inl closed_dispatch
  | frameDeadline frame =>
    simp only [System.loopStep] at he
    split at he
    · cases he
    · cases he
      exact .inl (closed_requireDeadline _)
  | checkFrame frame | countFrame frame =>
    simp only [System.loopStep] at he
    split at he <;> cases he <;> exact .inl rfl
  | writeFrame frame p | appendFrame frame p =>
    cases he
    exact keepsClosed_advanceWorker (fun _ => .inl rfl) fun _ => .inl rfl

theorem keepsClosed_closingStep {c : Choice} {pc : ClosingPc}
    (he : s.closingStep setup c pc = some t) : s.KeepsClosed t := by
  cases pc with
  | deadline1 | deadline2 =>
    change (if s.holder.isSome = true then none else _) = some t at he
    split at he
    · cases he
    · split at he
      · rw [← Option.some.inj he]
        exact .inl (closed_requireDeadline _)
      · rw [← Option.some.inj he]
        exact .inl rfl
  | deadline3 | deadline4 | deadline5 =>
    change (if s.holder.isSome = true then none else _) = some t at he
    split at he
    · cases he
    · cases he
      exact .inl (closed_requireDeadline _)
  | readDeadline | snapshot | publish =>
    change (if s.holder.isSome = true then none else _) = some t at he
    split at he <;> cases he
    exact .inl rfl
  | writeManifest manifest video sidecar =>
    rw [closingStep_writeManifest] at he
    split at he <;> cases he <;> exact .inl rfl
  | writer p | sidecar p | digestVideo deadline p | digestSidecar video p | manifest p
  | activate p =>
    cases he
    exact keepsClosed_advanceWorker (fun _ => .inl rfl) fun _ => .inl rfl

theorem keepsClosed_workerStep {c : Choice} {pc : WorkerPc}
    (he : s.workerStep setup c pc = some t) : s.KeepsClosed t := by
  cases pc with
  | loop pc => exact keepsClosed_loopStep he
  | closing pc => exact keepsClosed_closingStep he
  | fault =>
    simp only [System.workerStep] at he
    split at he <;> cases he
    exact .inl rfl
  | finished => cases he

theorem closed_submit {frame : CapturedFrame} :
    (s.submit frame).history.closed = s.history.closed := by
  unfold System.submit
  split
  · rfl
  · split <;> rfl

theorem closed_captureStep (call : CaptureCall) :
    (s.captureStep call).history.closed = s.history.closed := by
  unfold System.captureStep
  split
  · rfl
  · split <;> rfl

/-- The record ends with the process, or as a start enters. -/
theorem closed_ends {e : Event} (hk : s.core.Control) (hs : s.Storage setup)
    (h : s.lifecycle.Sealed) (he : s.step setup e = some t) {r : ClosedRecord}
    (hr : s.history.closed = some r) : t.history.closed = some r ∨
      (∃ request, e = .call (.start request)) ∨ e = .crash ∨
      ∃ c p, e = .callStep c ∧ s.holder = some (.destroying p) := by
  have hkept : s.KeepsClosed t → t.history.closed = some r := by
    intro hkeeps
    cases (step_next hk hs he).recordStep with
    | kept hc => exact hc.trans hr
    | cleared hc =>
      rcases hkeeps with hsame | hne
      · exact hsame.trans hr
      · exact absurd hc hne
    | closes closer hb =>
      cases (unclosed_of_inBegin hk h hb).symm.trans hr
  cases e with
  | crash => exact .inr (.inr (.inl rfl))
  | call api =>
    cases api with
    | start request => exact .inr (.inl ⟨request, rfl⟩)
    | stop request =>
      left
      apply hkept
      simp only [System.step, System.enter] at he
      split at he
      · cases he
        exact .inl rfl
      · split at he <;> cases he
        exact .inl rfl
    | shutdown | destroy =>
      left
      apply hkept
      simp only [System.step, System.enter] at he
      split at he <;> cases he
      exact .inl rfl
  | callStep c =>
    obtain ⟨call, hh, hstep⟩ := Option.bind_eq_some_iff.mp he
    by_cases hd : ∃ p, call = .destroying p
    · obtain ⟨p, rfl⟩ := hd
      exact .inr (.inr (.inr ⟨c, p, rfl, hh⟩))
    · exact .inl (hkept (keepsClosed_callStep hstep (not_exists.mp hd)))
  | workerStep c =>
    obtain ⟨w, hw, hstep⟩ := Option.bind_eq_some_iff.mp he
    exact .inl (hkept (keepsClosed_workerStep hstep))
  | submit frame =>
    left
    apply hkept
    simp only [System.step] at he
    split at he <;> cases he
    exact .inl closed_submit
  | submitContended frame | join =>
    left
    apply hkept
    simp only [System.step] at he
    split at he <;> cases he
    exact .inl rfl
  | captureStep =>
    obtain ⟨call, -, rfl⟩ := Option.map_eq_some_iff.mp he
    exact .inl (hkept (.inl (closed_captureStep call)))
  | tick ns | setUnix ns =>
    left
    apply hkept
    cases he
    exact .inl rfl

/-- The record of the closing, in every run whose stops are of the kind `P`. -/
structure KeepsRecord (P : RecordingStartRequest → Prop) (s : System) : Prop where
  starts : s.StartsUnclosed
  stops : s.StopsAre P
  shut : s.lifecycle.Sealed
  begun : s.lifecycle.state = .finalizing → s.lifecycle.recordingId ∈ s.lifecycle.begun
  recorded : s.lifecycle.Recorded P

theorem keepsRecord_reachable (hP : Tells P)
    (h : Reach (IsInitial setup) (System.step setup)
      (fun _ e _ => ∀ request, e = .call (.stop request) → P request) s) : KeepsRecord P s := by
  refine h.invariant (KeepsRecord P) ?_ ?_
  · rintro s ⟨machine, -, rfl⟩
    have hunclosed : (System.initial setup machine).lifecycle.closed = none := rfl
    have hopen : ∀ r, (System.initial setup machine).lifecycle.closed = some r → False := by
      intro r hr
      cases hr
    constructor
    · intro call request hc
      cases hc
    · intro call request hc
      cases hc
    · exact ⟨fun _ => hunclosed, fun _ _ _ => hunclosed⟩
    · intro hf
      cases hf
    · exact ⟨fun r hr => (hopen r hr).elim, fun r hr => (hopen r hr).elim,
        fun r hr => (hopen r hr).elim, fun r request hr => (hopen r hr).elim⟩
  · intro s e t hr h he hk
    have hcontrol := control_reachable hr
    have hs := storage_reachable hr
    have hn := step_next hcontrol hs he
    have hstarts := startsUnclosed_step hcontrol hs h.starts he
    exact ⟨hstarts, stopsAre_step h.stops he hk, sealed_next hcontrol h.shut hn hstarts,
      finalizing_next h.begun hn, recorded_next hs hP h.recorded hn h.starts h.stops
        (begun_of_inBegin hcontrol h.begun)⟩

end Steps

end NodusVision.Manager
