import NodusVision.Manager.Ledgers
import NodusVision.Recording.Errors

/-! What the lookup of a stop tells, while the worker of another recording goes on. -/
namespace NodusVision.Manager
open Text Storage Disk Program Recording RecordingStore Transition

/-- The directories of an id and its two requests. -/
def requestPaths (recordingId : ByteString) : Set ManagedPath :=
  {p | ∃ m, p = .artifact m recordingId ∨ p = .entry m recordingId (.file .startRequest) ∨
    p = .entry m recordingId (.file .stopRequest)}

/-- An artifact that can be read and has no stop request. -/
def Unevidenced (d : Disk) (recordingId : ByteString) : Prop :=
  ∃ m start, d (.artifact m recordingId) ≠ none ∧
    d (.entry m recordingId (.file .startRequest)) = some (.regular start) ∧
    start.length ≤ maxRequestFileBytes ∧
    d (.entry m recordingId (.file .stopRequest)) = none

/-- The lookup finds nothing where there is nothing, and stop evidence where there is an artifact. -/
def LookupTells (m : Machine) (recordingId : ByteString)
    (p : StoreProg (Option PersistedRecordingArtifact)) : Prop :=
  (∀ k, m.disk (.artifact k recordingId) = none) ∧
      p.Safe exec (sharing (requestPaths recordingId)ᶜ Unchanged) faultless (fun r _ => r = none)
        (fun _ _ => False) m ∨
    (∃ k, m.disk (.artifact k recordingId) ≠ none) ∧
      Runs (requestPaths recordingId)ᶜ Unchanged p
        (fun r _ => ∃ a evidence, r = some a ∧ a.stopRequest = some evidence) m

section Lookup
variable {m m' : Machine} {recordingId : ByteString}

theorem artifact_mem_requestPaths (k : ManagedDirectory) :
    .artifact k recordingId ∈ requestPaths recordingId := ⟨k, .inl rfl⟩

theorem start_mem_requestPaths (k : ManagedDirectory) :
    .entry k recordingId (.file .startRequest) ∈ requestPaths recordingId := ⟨k, .inr (.inl rfl)⟩

theorem stop_mem_requestPaths (k : ManagedDirectory) :
    .entry k recordingId (.file .stopRequest) ∈ requestPaths recordingId := ⟨k, .inr (.inr rfl)⟩

theorem stable_requestPath {p : ManagedPath} (hp : p ∈ requestPaths recordingId)
    (n : Option Node) : Stable (requestPaths recordingId)ᶜ fun d => d p = n := by
  have hout : p ∉ (requestPaths recordingId)ᶜ := fun hc => hc hp
  exact stable_at hout (· = n)

/-- Nobody else changes what the lookup reads, so it tells what is on the disk. -/
theorem lookupTells_find (hid : isRecordingIdValid recordingId = true) (hw : m.disk.WellFormed)
    (hknown : ¬Unevidenced m.disk recordingId) :
    LookupTells m recordingId (findPersistedArtifact recordingId) := by
  by_cases habsent : ∀ k, m.disk (.artifact k recordingId) = none
  · left
    have hstable : Stable (requestPaths recordingId)ᶜ
        fun d => d.WellFormed ∧ ∀ k, d (.artifact k recordingId) = none := by
      intro d d' hc hd
      refine ⟨(hc.1 hd.1).1, fun k => ?_⟩
      exact stable_requestPath (artifact_mem_requestPaths k) none d d' hc (hd.2 k)
    have hspec : Spec faultless (requestPaths recordingId)ᶜ Unchanged _
        (findPersistedArtifact recordingId) _ fun _ _ => False :=
      findPersistedArtifact_absent hid hstable Unchanged.refl (fun _ h => h.1) (fun _ h => h.2)
        fun _ _ _ hf => not_faulty_faultless hf
    exact ⟨habsent, (hspec m ⟨hw, habsent⟩).mono (fun _ _ h => h.1) fun _ _ h => h⟩
  · right
    obtain ⟨k, hk⟩ := not_forall.mp habsent
    refine ⟨⟨k, hk⟩, ?_⟩
    obtain ⟨finalized, rfl⟩ : ∃ finalized, k = place finalized := by
      cases k with
      | staging => exact ⟨false, rfl⟩
      | finalized => exact ⟨true, rfl⟩
    obtain ⟨start, hstart⟩ := hw.entry (place finalized) recordingId (.file .startRequest)
    obtain ⟨stop, hstop⟩ := hw.entry (place finalized) recordingId (.file .stopRequest)
    have hholds : Holds m.disk (place finalized) recordingId start stop :=
      ⟨(hw.artifact_dir _ _ hk).1, hstart, hstop⟩
    have hstable : Stable (requestPaths recordingId)ᶜ
        fun d => d.WellFormed ∧ Holds d (place finalized) recordingId start stop := by
      intro d d' hc hd
      refine ⟨(hc.1 hd.1).1, ?_, ?_, ?_⟩
      · exact stable_requestPath (artifact_mem_requestPaths _) _ d d' hc hd.2.directory
      · exact stable_requestPath (start_mem_requestPaths _) _ d d' hc hd.2.start
      · exact stable_requestPath (stop_mem_requestPaths _) _ d d' hc hd.2.stop
    have hspec : Spec anyChoice (requestPaths recordingId)ᶜ Unchanged _
        (findPersistedArtifact recordingId) _ fun _ _ => True :=
      findPersistedArtifact_present hid hstable Unchanged.refl (fun _ h => h.1) (fun _ h => h.2)
        fun _ _ _ _ => trivial
    refine (hspec m ⟨hw, hholds⟩).mono ?_ fun _ _ h => h
    rintro r m' ⟨⟨c, hc, hshort, -, rfl⟩, -⟩
    cases stop with
    | some evidence => exact ⟨_, evidence, rfl, rfl⟩
    | none =>
      rw [hc] at hstart
      exact absurd ⟨_, c, hk, hstart, hshort, hstop⟩ hknown

theorem LookupTells.rely {p : StoreProg (Option PersistedRecordingArtifact)}
    (h : LookupTells m recordingId p)
    (hd : Changes (requestPaths recordingId)ᶜ m.disk m'.disk) :
    LookupTells m' recordingId p := by
  have hsame : ∀ k, m'.disk (.artifact k recordingId) = m.disk (.artifact k recordingId) :=
    fun k => hd.2 _ fun hc => hc (artifact_mem_requestPaths k)
  rcases h with ⟨habsent, hsafe⟩ | ⟨⟨k, hk⟩, hsafe⟩
  · exact .inl ⟨fun k => (hsame k).trans (habsent k), hsafe.rely hd⟩
  · exact .inr ⟨⟨k, by rw [hsame k]; exact hk⟩, runs_shared hd hsafe⟩

theorem LookupTells.step {o : FsOp}
    {k : o.Res → StoreProg (Option PersistedRecordingArtifact)} {c : Choice}
    (h : LookupTells m recordingId (.op o k))
    (hc : (∀ k, m.disk (.artifact k recordingId) = none) → c.fails = false) :
    LookupTells (exec o c m).2 recordingId (k (exec o c m).1) := by
  rcases h with ⟨habsent, hsafe⟩ | ⟨hpresent, hsafe⟩
  · obtain ⟨hsame, hnext⟩ := hsafe.op_step c (hc habsent)
    have hsame : (exec o c m).2.disk = m.disk := hsame
    exact .inl ⟨hsame ▸ habsent, hnext⟩
  · obtain ⟨hsame, hnext⟩ := hsafe.op_step c trivial
    have hsame : (exec o c m).2.disk = m.disk := hsame
    exact .inr ⟨hsame ▸ hpresent, hnext⟩

end Lookup

/-- A step that no API call sees: the mutex holder stays, and nothing is answered. -/
structure Unseen (s t : System) : Prop where
  holder : t.holder = s.holder
  returns : t.history.returns = s.history.returns

/-- The call is a stop past its first decisions. -/
def Call.isStop : Call → Bool
  | .stopLookup _ _ | .stopBegin _ _ => true
  | _ => false

/-- A step of a call that is no stop: it is followed by no stop and answers none. -/
structure NoStopCall (s t : System) : Prop where
  holder : ∀ call, t.holder = some call → call.isStop = false
  returns : ∀ request result, t.history.returns ≠ .stop request result :: s.history.returns

section Frames
variable {setup : Setup} {s t : System} {c : Choice}

theorem begin_elim {R : System → Prop} {closer : Closer} {point : System → BeginPc → System}
    {finish : System → System} {rethrow : System → Exception → System} {b : BeginPc}
    (hpoint : ∀ u b', Unseen s u → R (point u b')) (hfinish : ∀ u, Unseen s u → R (finish u))
    (hrethrow : ∀ u e, Unseen s u → b = .fail e → R (rethrow u e)) :
    R (b.step setup s c closer point finish rethrow) := by
  cases b with
  | enter | closeAdmission => exact hpoint _ _ ⟨rfl, rfl⟩
  | evidence p => cases p <;> exact hpoint _ _ ⟨rfl, rfl⟩
  | checkDeadline =>
    simp only [BeginPc.step]
    split
    · exact hpoint _ _ ⟨rfl, rfl⟩
    · exact hfinish _ ⟨rfl, rfl⟩
  | fail e => exact hrethrow _ _ ⟨rfl, rfl⟩ rfl

theorem unseen_moveWorker (pc : WorkerPc) : Unseen s (s.moveWorker pc) := ⟨rfl, rfl⟩

theorem unseen_requireDeadline (next : WorkerPc) : Unseen s (s.requireDeadline next) := by
  unfold System.requireDeadline
  split <;> exact ⟨rfl, rfl⟩

theorem unseen_dispatch : Unseen s s.dispatch := by
  unfold System.dispatch
  split
  · exact ⟨rfl, rfl⟩
  · split <;> exact ⟨rfl, rfl⟩

theorem unseen_afterWait : Unseen s s.afterWait := by
  unfold System.afterWait
  split
  · exact ⟨rfl, rfl⟩
  · exact unseen_dispatch

theorem unseen_advanceWorker {α : Type} {point : StoreProg α → WorkerPc} {onReturn : α → System}
    {onThrow : Exception → System} {p : StoreProg α} (hret : ∀ a, Unseen s (onReturn a))
    (hthrow : ∀ e, Unseen s (onThrow e)) :
    Unseen s (s.advanceWorker c point onReturn onThrow p) := by
  cases p with
  | pure a => exact hret a
  | throw e => exact hthrow e
  | op o k => exact ⟨rfl, rfl⟩

theorem unseen_loopStep {pc : LoopPc} (he : s.loopStep setup c pc = some t) : Unseen s t := by
  cases pc with
  | acquire | waiting =>
    simp only [System.loopStep] at he
    split at he
    · cases he
    · split at he
      · rw [← Option.some.inj he]
        first | exact unseen_afterWait | exact unseen_moveWorker _
      · rw [← Option.some.inj he]
        first | exact unseen_afterWait | exact ⟨rfl, rfl⟩
  | begin b =>
    cases he
    apply begin_elim
    · exact fun u b' hu => ⟨hu.holder, hu.returns⟩
    · exact fun u hu => ⟨hu.holder, hu.returns⟩
    · exact fun u e hu _ => ⟨hu.holder, hu.returns⟩
  | dispatch =>
    cases he
    exact unseen_dispatch
  | frameDeadline frame =>
    simp only [System.loopStep] at he
    split at he
    · cases he
    · cases he
      exact unseen_requireDeadline _
  | checkFrame frame =>
    simp only [System.loopStep] at he
    split at he <;> cases he <;> exact ⟨rfl, rfl⟩
  | writeFrame frame p | appendFrame frame p =>
    cases he
    exact unseen_advanceWorker (fun _ => ⟨rfl, rfl⟩) fun _ => ⟨rfl, rfl⟩
  | countFrame frame =>
    simp only [System.loopStep] at he
    split at he
    · cases he
    · cases he
      exact ⟨rfl, rfl⟩

theorem unseen_closingStep {pc : ClosingPc} (he : s.closingStep setup c pc = some t) :
    Unseen s t := by
  cases pc with
  | deadline1 | deadline2 =>
    change (if s.holder.isSome = true then none else _) = some t at he
    split at he
    · cases he
    · split at he
      · rw [← Option.some.inj he]
        exact unseen_requireDeadline _
      · rw [← Option.some.inj he]
        exact unseen_moveWorker _
  | deadline3 | deadline4 | deadline5 =>
    change (if s.holder.isSome = true then none else _) = some t at he
    split at he
    · cases he
    · cases he
      exact unseen_requireDeadline _
  | readDeadline | snapshot | publish =>
    change (if s.holder.isSome = true then none else _) = some t at he
    split at he
    · cases he
    · cases he
      exact ⟨rfl, rfl⟩
  | writeManifest manifest video sidecar =>
    rw [closingStep_writeManifest] at he
    split at he <;> cases he <;> exact ⟨rfl, rfl⟩
  | writer p | sidecar p | digestVideo deadline p | digestSidecar video p | manifest p
  | activate p =>
    cases he
    exact unseen_advanceWorker (fun _ => ⟨rfl, rfl⟩) fun _ => ⟨rfl, rfl⟩

theorem unseen_workerStep {pc : WorkerPc} (he : s.workerStep setup c pc = some t) :
    Unseen s t := by
  cases pc with
  | loop pc => exact unseen_loopStep he
  | closing pc => exact unseen_closingStep he
  | fault =>
    simp only [System.workerStep] at he
    split at he <;> cases he
    exact ⟨rfl, rfl⟩
  | finished => cases he

theorem noStopCall_hold {call : Call} {u : System} (hh : u.holder = some call)
    (hs : call.isStop = false) (hr : u.history.returns = s.history.returns) : NoStopCall s u := by
  constructor
  · intro call' hc
    cases hh.symm.trans hc
    exact hs
  · intro request result h
    rw [hr] at h
    exact absurd h (List.cons_ne_self _ _).symm

theorem noStopCall_answer {u : System} {r : Return} (hh : u.holder = none)
    (hr : u.history.returns = r :: s.history.returns) (hstart : ∀ request result,
      r ≠ .stop request result) : NoStopCall s u := by
  constructor
  · intro call hc
    cases hh.symm.trans hc
  · intro request result h
    rw [hr] at h
    exact hstart request result (List.cons.inj h).1

theorem noStopCall_quiet {u : System} (hh : u.holder = none)
    (hr : u.history.returns = s.history.returns) : NoStopCall s u := by
  constructor
  · intro call hc
    cases hh.symm.trans hc
  · intro request result h
    rw [hr] at h
    exact absurd h (List.cons_ne_self _ _).symm

theorem noStopCall_advance {α : Type} {point : StoreProg α → Call} {onReturn : α → System}
    {onThrow : Exception → System} {p : StoreProg α}
    (hs : ∀ p, (point p).isStop = false) (hret : ∀ a, NoStopCall s (onReturn a)) (hthrow : ∀ e, NoStopCall s (onThrow e)) :
    NoStopCall s (s.advance c point onReturn onThrow p) := by
  cases p with
  | pure a => exact hret a
  | throw e => exact hthrow e
  | op o k => exact noStopCall_hold rfl (hs _) rfl

theorem noStopCall_startEntered {request : RecordingStartRequest} :
    NoStopCall s (s.startEntered request) := by
  unfold System.startEntered
  split
  · exact noStopCall_answer rfl rfl nofun
  · split
    · split <;> exact noStopCall_answer rfl rfl nofun
    · split
      · exact noStopCall_answer rfl rfl nofun
      · split <;> exact noStopCall_hold rfl rfl rfl

theorem noStopCall_startLookedUp {request : RecordingStartRequest} {canonical : ByteString}
    {r : Option PersistedRecordingArtifact} :
    NoStopCall s (s.startLookedUp setup request canonical r) := by
  cases r with
  | none => exact noStopCall_hold rfl rfl rfl
  | some artifact =>
    simp only [System.startLookedUp]
    split <;> exact noStopCall_answer rfl rfl (fun _ _ hr => by cases hr)

/-- The steps of every call that is not a stop -/
theorem noStopCall_callStep {call : Call} (he : s.callStep setup c call = some t)
    (hentered : ∀ request, call ≠ .stopEntered request) (hs : call.isStop = false) :
    NoStopCall s t := by
  cases call with
  | stopEntered request => exact absurd rfl (hentered request)
  | stopLookup | stopBegin => cases hs
  | startEntered request =>
    cases he
    exact noStopCall_startEntered
  | startJoining request canonical =>
    simp only [System.callStep] at he
    split at he <;> cases he
    exact noStopCall_hold rfl rfl rfl
  | startLookup request canonical p =>
    cases he
    exact noStopCall_advance (fun _ => rfl) (fun _ => noStopCall_startLookedUp)
      fun _ => noStopCall_answer rfl rfl (fun _ _ hr => by cases hr)
  | startPreparing | startWriter | startReleaseWriter | startSidecar | startReleaseSidecar =>
    cases he
    exact noStopCall_advance (fun _ => rfl) (fun _ => noStopCall_hold rfl rfl rfl)
      fun _ => noStopCall_hold rfl rfl rfl
  | startPublish | startRecording | startFailed =>
    cases he
    exact noStopCall_hold rfl rfl rfl
  | startSpawn request =>
    simp only [System.callStep] at he
    split at he <;> cases he <;> exact noStopCall_hold rfl rfl rfl
  | startAdmit | startRethrow =>
    cases he
    exact noStopCall_answer rfl rfl (fun _ _ hr => by cases hr)
  | shutdownEntered =>
    cases he
    unfold System.shutdownEntered
    split
    · exact noStopCall_hold rfl rfl rfl
    · split
      · exact noStopCall_quiet rfl rfl
      · exact noStopCall_answer rfl rfl (fun _ _ hr => by cases hr)
  | shutdownBegin b =>
    cases he
    apply begin_elim
    · exact fun u b' hu => noStopCall_hold rfl rfl hu.returns
    · exact fun u hu => noStopCall_quiet rfl hu.returns
    · exact fun u e hu _ => noStopCall_hold rfl rfl hu.returns
  | shutdownCatch =>
    cases he
    exact noStopCall_quiet rfl rfl
  | destroying p =>
    cases he
    exact noStopCall_advance (fun _ => rfl) (fun _ => noStopCall_quiet rfl rfl)
      fun _ => noStopCall_quiet rfl rfl

end Frames

/-- No exception on the way out of `beginFinalizationLocked` says "not found". -/
def BeginPc.Conflicts : BeginPc → Prop
  | .evidence p => Recording.Conflicts p
  | .fail e => IsConflict e
  | _ => True

/-- What a pending stop will tell. -/
def Call.Tells (s : System) : Call → Prop
  | .stopLookup request p => Conflicts p ∧ (request.recordingId ≠ s.impl.recordingId →
      LookupTells s.machine request.recordingId p)
  | .stopBegin _ b => b.Conflicts
  | _ => True

def System.Tells (s : System) : Prop := ∀ call, s.holder = some call → call.Tells s

/-- What a stop of another recording than the current one meets: stop evidence in an artifact of
its id, no failing call where there is no artifact, and no worker that moves the artifact. -/
structure StopsTraceably (s : System) (e : Event) (_ : System) : Prop where
  evidenced : ∀ request c, s.holder = some (.stopEntered request) → e = .callStep c →
    request.recordingId ≠ s.impl.recordingId → ¬Unevidenced s.machine.disk request.recordingId
  faultless : ∀ request p c, s.holder = some (.stopLookup request p) → e = .callStep c →
    request.recordingId ≠ s.impl.recordingId →
    (∀ k, s.machine.disk (.artifact k request.recordingId) = none) → c.fails = false
  unmoved : ∀ request p c q, s.holder = some (.stopLookup request p) → e = .workerStep c →
    request.recordingId ≠ s.impl.recordingId →
    s.worker ≠ some ⟨request.recordingId, .closing (.activate q)⟩

section Tells
variable {setup : Setup} {s t : System} {c : Choice} {request : RecordingStartRequest}

theorem writes_subset {w : Worker} {recordingId : ByteString}
    (h : ∀ q, w ≠ ⟨recordingId, .closing (.activate q)⟩) :
    w.pc.writes w.recordingId ⊆ (requestPaths recordingId)ᶜ := by
  obtain ⟨id, pc⟩ := w
  have houtput : outputPaths ⊆ (requestPaths recordingId)ᶜ := by
    rintro p ⟨i, rfl | rfl⟩ ⟨m, he | he | he⟩ <;> cases he
  cases pc with
  | loop | fault | finished => exact houtput
  | closing pc =>
    cases pc with
    | manifest p =>
      rintro p (rfl | rfl) ⟨m, he | he | he⟩ <;> cases he
    | activate q =>
      have hne : id ≠ recordingId := by
        rintro rfl
        exact h q rfl
      rintro p (hp | hp) ⟨m, rfl | rfl | rfl⟩ <;> simp_all [artifactTree]
    | _ => exact houtput

/-- The worker of another recording leaves alone what a lookup reads. -/
theorem lookup_changes {v' : Lifecycle} {p : StoreProg (Option PersistedRecordingArtifact)}
    (hh : s.holder = some (.stopLookup request p)) (hh' : v'.holder ≠ none)
    (hn : s.lifecycle.Next v') :
    v'.recordingId = s.impl.recordingId ∧
      ((∀ q, s.worker ≠ some ⟨request.recordingId, .closing (.activate q)⟩) →
        Changes (requestPaths request.recordingId)ᶜ s.machine.disk v'.disk) := by
  have hother : ∀ call, s.lifecycle.holder = some call → call ≠ .stopLookup request p → False := by
    intro call hc hne
    exact hne (Option.some.inj (hc.symm.trans hh))
  cases hn with
  | tick | reject | joined => exact ⟨rfl, fun _ => .refl _ _⟩
  | proceed d hcall hf hd =>
    cases hh.symm.trans hcall
    exact ⟨rfl, fun _ => hd.mono (Set.empty_subset _)⟩
  | @work w pc d hworker hm hd =>
    refine ⟨rfl, fun hw => hd.mono (writes_subset ?_)⟩
    rintro q rfl
    exact hw q hworker
  | answer | repeated | await | started | exit | startRestored | stopRestored | shutdownCatch
  | beginFinished => exact absurd rfl hh'
  | enter call closed hfree | workBegin hfree | workFinished hfree | workFailed hfree
  | finalized hfree | faulted hfree => cases hfree.symm.trans hh
  | startJoined hcall | prepare hcall | create hcall | publish hcall | spawn hcall | record hcall
  | startFailed hcall => exact (hother _ hcall nofun).elim
  | beginPoint hcall hc => exact (hother _ hcall (by rintro rfl; cases hc)).elim
  | beginFailed h' rs hcall hc => exact (hother _ hcall (by rintro rfl; cases hc)).elim

theorem System.Tells.kept (h : s.Tells) (hh : t.holder = s.holder)
    (hid : ∀ request p, s.holder = some (.stopLookup request p) →
      t.impl.recordingId = s.impl.recordingId)
    (hd : ∀ request p, s.holder = some (.stopLookup request p) →
      request.recordingId ≠ s.impl.recordingId →
      Changes (requestPaths request.recordingId)ᶜ s.machine.disk t.machine.disk) : t.Tells := by
  intro call hcall
  rw [hh] at hcall
  have hs := h call hcall
  cases call with
  | stopLookup request p =>
    refine ⟨hs.1, fun hne => ?_⟩
    rw [hid request p hcall] at hne
    exact (hs.2 hne).rely (hd request p hcall hne)
  | stopBegin request b => exact hs
  | _ => trivial

/-- A step that changes neither the disk nor the current recording -/
theorem System.Tells.aside (h : s.Tells) (hh : t.holder = s.holder)
    (hid : t.impl.recordingId = s.impl.recordingId) (hd : t.machine.disk = s.machine.disk) :
    t.Tells := by
  apply h.kept hh
  · exact fun _ _ _ => hid
  · intro request p _ _
    rw [hd]
    exact .refl _ _

theorem tells_of_free (hh : s.holder = none) : s.Tells := by
  intro call hcall
  cases hh.symm.trans hcall

theorem tells_of_plain (h : ∀ call, s.holder = some call → call.isStop = false) : s.Tells := by
  intro call hcall
  have hplain := h call hcall
  cases call with
  | stopLookup | stopBegin => cases hplain
  | _ => trivial

theorem tells_stopUnrecorded : (s.stopUnrecorded request).Tells := by
  unfold System.stopUnrecorded
  split
  · exact tells_of_free rfl
  · split
    · exact tells_of_free rfl
    · rintro _ ⟨⟩
      trivial

theorem tells_stopLookedUp {r : Option PersistedRecordingArtifact} :
    (s.stopLookedUp request r).Tells := by
  unfold System.stopLookedUp
  split
  · exact tells_stopUnrecorded
  · split
    · exact tells_stopUnrecorded
    · split
      · exact tells_of_free rfl
      · split
        · unfold System.stopReplayed
          split <;> exact tells_of_free rfl
        · split
          · exact tells_of_free rfl
          · exact tells_stopUnrecorded

/-- Where a step of `beginFinalizationLocked` leads -/
theorem begin_outcome {closer : Closer} {point : System → BeginPc → System}
    {finish : System → System} {rethrow : System → Exception → System} {b : BeginPc}
    (h : b.Conflicts) :
    (∃ u b', b.step setup s c closer point finish rethrow = point u b' ∧ Unseen s u ∧
        b'.Conflicts) ∨
      (∃ u, b.step setup s c closer point finish rethrow = finish u ∧ Unseen s u ∧
        u.history.closed = some ⟨s.impl.recordingId, closer⟩) ∨
      ∃ u e, b.step setup s c closer point finish rethrow = rethrow u e ∧ Unseen s u ∧
        IsConflict e := by
  cases b with
  | enter => exact .inl ⟨_, _, rfl, ⟨rfl, rfl⟩, trivial⟩
  | closeAdmission => exact .inl ⟨_, _, rfl, ⟨rfl, rfl⟩, conflicts_writeStopRequest _ _⟩
  | evidence p =>
    cases p with
    | pure a => exact .inl ⟨_, _, rfl, ⟨rfl, rfl⟩, trivial⟩
    | throw e => exact .inl ⟨_, _, rfl, ⟨rfl, rfl⟩, h⟩
    | op o k => exact .inl ⟨_, _, rfl, ⟨rfl, rfl⟩, h.2 _⟩
  | checkDeadline =>
    simp only [BeginPc.step]
    split
    · exact .inl ⟨_, _, rfl, ⟨rfl, rfl⟩, isConflict_runtimeError _⟩
    · exact .inr (.inl ⟨_, rfl, ⟨rfl, rfl⟩, rfl⟩)
  | fail e => exact .inr (.inr ⟨_, _, rfl, ⟨rfl, rfl⟩, h⟩)

theorem tells_stopEntered (hw : s.machine.disk.WellFormed) (hv : isStopValid request = true)
    (hknown : request.recordingId ≠ s.impl.recordingId →
      ¬Unevidenced s.machine.disk request.recordingId) : (s.stopEntered request).Tells := by
  have hid : isRecordingIdValid request.recordingId = true := (Bool.and_eq_true_iff.mp hv).2
  unfold System.stopEntered
  split
  · split
    · split
      · exact tells_of_free rfl
      · split <;> exact tells_of_free rfl
    · exact tells_of_free rfl
  · rintro _ ⟨⟩
    refine ⟨conflicts_findPersistedArtifact _, fun hne => ?_⟩
    exact lookupTells_find hid hw (hknown hne)

theorem tells_callStep {call : Call} (hs : s.Storage setup) (h : s.Tells)
    (hok : StopsTraceably s (.callStep c) t) (hh : s.holder = some call)
    (he : s.callStep setup c call = some t) : t.Tells := by
  have hcall := h call hh
  cases call with
  | stopEntered request =>
    cases he
    have hv : isStopValid request = true := hs.call _ hh
    exact tells_stopEntered hs.wellFormed hv fun hne => hok.evidenced _ c hh rfl hne
  | stopLookup request p =>
    cases he
    cases p with
    | pure r => exact tells_stopLookedUp
    | throw e => exact tells_of_free rfl
    | op o k =>
      rintro _ ⟨⟩
      refine ⟨hcall.1.2 _, fun hne => ?_⟩
      exact (hcall.2 hne).step fun habsent => hok.faultless _ _ c hh rfl hne habsent
  | stopBegin request b =>
    have hb : b.Conflicts := hcall
    cases he
    rcases begin_outcome hb with ⟨u, b', he, -, hb'⟩ | ⟨u, he, -⟩ | ⟨u, e, he, -⟩
    · rw [he]
      rintro _ ⟨⟩
      exact hb'
    · rw [he]
      exact tells_of_free rfl
    · rw [he]
      exact tells_of_free rfl
  | _ =>
    have hno := noStopCall_callStep he nofun rfl
    exact tells_of_plain hno.holder

theorem tells_step {e : Event} (hk : s.core.Control) (hs : s.Storage setup) (h : s.Tells)
    (hok : StopsTraceably s e t) (he : s.step setup e = some t) : t.Tells := by
  have hn := step_next hk hs he
  cases e with
  | tick | setUnix =>
    cases he
    exact h.aside rfl rfl rfl
  | call c =>
    cases c with
    | start request | shutdown | destroy =>
      simp only [System.step, System.enter] at he
      split at he <;> cases he
      rintro _ ⟨⟩
      trivial
    | stop request =>
      simp only [System.step, System.enter] at he
      split at he
      · cases he
        exact h.aside rfl rfl rfl
      · split at he <;> cases he
        rintro _ ⟨⟩
        trivial
  | callStep c =>
    obtain ⟨call, hh, he⟩ := Option.bind_eq_some_iff.mp he
    exact tells_callStep hs h hok hh he
  | workerStep c =>
    obtain ⟨w, hw, he⟩ := Option.bind_eq_some_iff.mp he
    have hseen := unseen_workerStep he
    have hheld : ∀ request p, s.holder = some (.stopLookup request p) →
        t.lifecycle.holder ≠ none := by
      intro request p hh
      change t.holder ≠ none
      rw [hseen.holder, hh]
      exact Option.some_ne_none _
    apply h.kept hseen.holder
    · intro request p hh
      exact (lookup_changes hh (hheld request p hh) hn).1
    · intro request p hh hne
      exact (lookup_changes hh (hheld request p hh) hn).2 fun q =>
        hok.unmoved request p c q hh rfl hne
  | join =>
    simp only [System.step] at he
    split at he <;> cases he
    exact h.aside rfl rfl rfl
  | submit frame =>
    simp only [System.step] at he
    split at he <;> cases he
    unfold System.submit
    split
    · exact h.aside rfl rfl rfl
    · split <;> exact h.aside rfl rfl rfl
  | submitContended frame =>
    simp only [System.step] at he
    split at he <;> cases he
    exact h.aside rfl rfl rfl
  | captureStep =>
    obtain ⟨call, -, rfl⟩ := Option.map_eq_some_iff.mp he
    unfold System.captureStep
    split
    · exact h.aside rfl rfl rfl
    · split <;> exact h.aside rfl rfl rfl
  | crash =>
    cases he
    exact tells_of_free rfl

theorem tells_reachable {ok : System → Event → System → Prop}
    (hok : ∀ s e t, ok s e t → StopsTraceably s e t)
    (h : Reach (IsInitial setup) (System.step setup) ok s) : s.Tells := by
  apply h.invariant
  · rintro s ⟨machine, -, rfl⟩
    exact tells_of_free rfl
  · intro s e t hr hi he hk
    exact tells_step (control_reachable hr) (storage_reachable hr) hi (hok s e t hk) he

end Tells

end NodusVision.Manager
