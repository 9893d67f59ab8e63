import NodusVision.Manager.Histories
import NodusVision.Manager.Lookups

/-! A recording is started once: its artifact outlives the process, and every later start finds
it. Until a start prepares its own artifact, its steps change nothing. -/
namespace NodusVision.Manager
open Text Storage Disk Program Recording RecordingStore Transition

/-- The answer of a start that created the recording. -/
def Return.starts (recordingId : ByteString) : Return → Bool
  | .start request (.ok .started) => decide (request.recordingId = recordingId)
  | _ => false

theorem Return.starts_of_isPlain {r : Return} (h : r.isPlain = true) (id : ByteString) :
    r.starts id = false := by
  cases r with
  | start request result =>
    cases result with
    | error e => rfl
    | ok a =>
      cases a with
      | started => cases h
      | replayed => rfl
  | stop request result => rfl
  | shutdown => rfl

theorem not_starts_of_closing {call : Call} {r : Closer × BeginPc}
    {request : RecordingStartRequest} (h : call.closing = some r) : ¬call.Starts request := by
  obtain ⟨hp, hb⟩ := not_start_of_closing h
  rintro (hst | hst)
  · cases hp.symm.trans hst
  · cases hb.symm.trans hst

namespace Lifecycle
variable {v v' : Lifecycle}

theorem Next.lawful (h : v.Next v') : v.disk.Lawful v'.disk := by
  cases h with
  | proceed d hh hf hd => exact hd.1
  | work d hw hm hd => exact hd.1
  | beginPoint hh hc hc' hf hb | beginFinished rs hh hc hf hb | beginFailed h' rs hh hc hb
  | workBegin hh hw hpc hid hin hb | workFinished hh hw hpc hid hin hb
  | workFailed hh hw hpc hid hin hb => exact hb.lawful
  | _ => exact .refl _

/-- A start that works on its artifact did so before, or has just found none. -/
theorem Next.starts (h : v.Next v') {call' : Call} {request : RecordingStartRequest}
    (hc' : v'.holder = some call') (hst : call'.Starts request) :
    (∃ call, v.holder = some call ∧ call.Starts request) ∨
      ∀ m, v.disk (.artifact m request.recordingId) = none := by
  cases h with
  | tick | reject | joined | work => exact .inl ⟨call', hc', hst⟩
  | enter call closed hh hs =>
    cases hc'
    exact absurd hst (hs request)
  | answer | repeated | await | startRestored | stopRestored | started | shutdownCatch
  | beginFinished | exit => cases hc'
  | proceed d hh hf hd =>
    cases hc'
    refine .inl ⟨_, hh, ?_⟩
    rcases hst with hst | hst
    · rcases hf.preparing with hp | hp
      · cases hp.symm.trans hst
      · exact .inl (hp ▸ hst)
    · rcases hf.building with hb | hb
      · cases hb.symm.trans hst
      · exact .inr (hb ▸ hst)
  | startJoined | startFailed =>
    cases hc'
    rcases hst with hst | hst <;> cases hst
  | prepare hh hw habsent =>
    cases hc'
    rcases hst with hst | hst
    · cases hst
      exact .inr habsent
    · cases hst
  | create hh =>
    cases hc'
    rcases hst with hst | hst
    · cases hst
    · cases hst
      exact .inl ⟨_, hh, .inl rfl⟩
  | publish hh | spawn hh | record hh =>
    cases hc'
    rcases hst with hst | hst
    · cases hst
    · cases hst
      exact .inl ⟨_, hh, .inr rfl⟩
  | beginPoint hh hc hcl =>
    cases hc'
    exact absurd hst (not_starts_of_closing hcl)
  | beginFailed h' rs hh hc hb hh' =>
    rcases hh' with rfl | rfl <;> cases hc'
    rcases hst with hst | hst <;> cases hst
  | workBegin hh hw hpc hid hin hb | workFinished hh hw hpc hid hin hb
  | workFailed hh hw hpc hid hin hb => cases (hb.beside.holder.trans hh).symm.trans hc'
  | finalized hh | faulted hh => cases hh.symm.trans hc'

/-- Answers are added; a start answers that it has created its recording where it has. -/
theorem Next.answers (h : v.Next v') :
    (∃ rs, v'.returns = rs ++ v.returns ∧ ∀ r ∈ rs, ∀ id, r.starts id = false) ∨
      ∃ call request, v.holder = some call ∧ call.Starts request ∧
        Staged v.disk request.recordingId ∧
        v' = v.answer (.start request (.ok .started)) := by
  have hnone : v'.returns = v.returns →
      ∃ rs, v'.returns = rs ++ v.returns ∧ ∀ r ∈ rs, ∀ id, r.starts id = false := by
    intro hr
    exact ⟨[], hr, fun r hr => by cases hr⟩
  have hone : ∀ r : Return, v'.returns = r :: v.returns → (∀ id, r.starts id = false) →
      ∃ rs, v'.returns = rs ++ v.returns ∧ ∀ r ∈ rs, ∀ id, r.starts id = false := by
    intro r hr hst
    refine ⟨[r], hr, fun r' hmem => ?_⟩
    rw [List.mem_singleton.mp hmem]
    exact hst
  cases h with
  | reject r hr => exact .inl (hone r rfl (Return.starts_of_isPlain hr))
  | answer r hh hr => exact .inl (hone r rfl (Return.starts_of_isPlain hr))
  | joined | repeated | startRestored | stopRestored => exact .inl (hone _ rfl fun _ => rfl)
  | started hh hid hreq hc hp => exact .inr ⟨_, _, hh, .inr rfl, hp.staging, rfl⟩
  | beginFinished rs hh hc hf hb hr =>
    refine .inl ⟨rs, congrArg (rs ++ ·) hb.beside.returns, fun r hmem id => ?_⟩
    obtain ⟨request, -, rfl⟩ := hr r hmem
    rfl
  | beginFailed h' rs hh hc hb hh' hr =>
    refine .inl ⟨rs, congrArg (rs ++ ·) hb.beside.returns, fun r hmem => ?_⟩
    exact Return.starts_of_isPlain (hr r hmem)
  | beginPoint hh hc hc' hf hb => exact .inl (hnone hb.beside.returns)
  | workBegin hh hw hpc hid hin hb | workFinished hh hw hpc hid hin hb
  | workFailed hh hw hpc hid hin hb => exact .inl (hnone hb.beside.returns)
  | _ => exact .inl (hnone rfl)

/-- A started recording has its artifact, and no other start of it is on its way. -/
structure StartedOnce (v : Lifecycle) : Prop where
  kept : ∀ id, (∃ r ∈ v.returns, r.starts id = true) → ∃ m, v.disk (.artifact m id) ≠ none
  fresh : ∀ call request, v.holder = some call → call.Starts request →
    ∀ r ∈ v.returns, r.starts request.recordingId = false
  once : ∀ id, v.returns.countP (Return.starts id) ≤ 1

theorem StartedOnce.next (h : v.StartedOnce) (hwf : v.disk.WellFormed) (hn : v.Next v') :
    v'.StartedOnce := by
  have hfresh : ∀ call' request, v'.holder = some call' → call'.Starts request →
      ∀ r ∈ v.returns, r.starts request.recordingId = false := by
    intro call' request hc' hst r hmem
    rcases hn.starts hc' hst with ⟨call, hc, hst⟩ | habsent
    · exact h.fresh call request hc hst r hmem
    · by_contra hstart
      obtain ⟨m, hm⟩ := h.kept _ ⟨r, hmem, eq_true_of_ne_false hstart⟩
      exact hm (habsent m)
  rcases hn.answers with ⟨rs, hr, hrs⟩ | ⟨call, request, hc, hst, hd, rfl⟩
  · constructor
    · rintro id ⟨r, hmem, hstart⟩
      rw [hr, List.mem_append] at hmem
      rcases hmem with hnew | hold
      · cases (hrs r hnew id).symm.trans hstart
      · exact exists_artifact_lawful hwf hn.lawful (h.kept id ⟨r, hold, hstart⟩)
    · intro call' request hc' hst r hmem
      rw [hr, List.mem_append] at hmem
      rcases hmem with hnew | hold
      · exact hrs r hnew _
      · exact hfresh call' request hc' hst r hold
    · intro id
      have hnone : rs.countP (Return.starts id) = 0 := by
        rw [List.countP_eq_zero]
        intro r hmem hstart
        cases (hrs r hmem id).symm.trans hstart
      rw [hr, List.countP_append, hnone, Nat.zero_add]
      exact h.once id
  · have hself : ∀ id, (Return.start request (.ok .started)).starts id = true ↔
        request.recordingId = id := fun id => decide_eq_true_iff
    constructor
    · rintro id ⟨r, hmem, hstart⟩
      rcases List.mem_cons.mp hmem with rfl | hold
      · have hdir : v.disk (.artifact .staging request.recordingId) = some .directory := hd
        rw [← (hself id).mp hstart]
        exact ⟨.staging, hdir ▸ Option.some_ne_none _⟩
      · exact h.kept id ⟨r, hold, hstart⟩
    · intro call' request' hc'
      cases hc'
    · intro id
      show (Return.start request (.ok .started) :: v.returns).countP (Return.starts id) ≤ 1
      rw [List.countP_cons]
      by_cases hid : request.recordingId = id
      · have hnone : v.returns.countP (Return.starts id) = 0 := by
          rw [List.countP_eq_zero, ← hid]
          intro r hmem hstart
          cases (h.fresh call request hc hst r hmem).symm.trans hstart
        rw [if_pos ((hself id).mpr hid), hnone]
      · rw [if_neg fun hs => hid ((hself id).mp hs)]
        exact h.once id

end Lifecycle

/-- An artifact that a step leaves as it is. -/
structure LeavesArtifact (d d' : Disk) (id : ByteString) : Prop where
  directory : ∀ m, d' (.artifact m id) = d (.artifact m id)
  entry : ∀ m n, d' (.entry m id n) = d (.entry m id n)

/-- An artifact that a step keeps; output may be added to its files. -/
structure KeepsArtifact (d d' : Disk) (id : ByteString) : Prop where
  directory : ∀ m, d' (.artifact m id) = d (.artifact m id)
  entry : ∀ m n, d' (.entry m id n) = d (.entry m id n) ∨ IsOutput id (.entry m id n) ∧
    ∃ contents more, d (.entry m id n) = some (.regular contents) ∧
      d' (.entry m id n) = some (.regular (contents ++ more))

/-- Questions, and output added to one file. -/
def AddsTo (p : ManagedPath) (o : FsOp) : Prop :=
  Reads o ∨ o = .encode p ∨ ∃ b, o = .streamFlush p b

section Additions
variable {d d' : Disk} {p : ManagedPath} {o : FsOp} {id recordingId : ByteString}

theorem KeepsArtifact.refl (d : Disk) (id : ByteString) : KeepsArtifact d d id :=
  ⟨fun _ => rfl, fun _ _ => .inl rfl⟩

theorem LeavesArtifact.refl (d : Disk) (id : ByteString) : LeavesArtifact d d id :=
  ⟨fun _ => rfl, fun _ _ => rfl⟩

theorem LeavesArtifact.of_touches {paths : Set ManagedPath} (h : Touches paths d d')
    (ha : ∀ m, .artifact m id ∉ paths) (he : ∀ m n, .entry m id n ∉ paths) :
    LeavesArtifact d d' id :=
  ⟨fun m => h _ (ha m), fun m n => h _ (he m n)⟩

theorem KeepsArtifact.append (hp : IsOutput recordingId p) (bytes : ByteString) :
    KeepsArtifact d (d.append p bytes) id := by
  unfold Disk.append
  split
  · rename_i contents hcontents
    constructor
    · intro m
      refine Function.update_of_ne ?_ _ _
      rcases hp with rfl | rfl
      · intro heq
        cases heq
      · intro heq
        cases heq
    · intro m n
      by_cases heq : ManagedPath.entry m id n = p
      · right
        have hid : recordingId = id := by
          rcases hp with rfl | rfl <;> cases heq <;> rfl
        rw [heq]
        exact ⟨hid ▸ hp, contents, bytes, hcontents, Function.update_self _ _ _⟩
      · exact .inl (Function.update_of_ne heq _ _)
  · exact .refl d id

theorem AddsTo.keeps (ho : AddsTo p o) (hp : IsOutput recordingId p) (c : Choice) (m : Machine)
    (id : ByteString) : KeepsArtifact m.disk (exec o c m).2.disk id := by
  rcases ho with ho | rfl | ⟨b, rfl⟩
  · rw [ho c m]
    exact .refl _ _
  · exact .append hp _
  · simp only [exec]
    split <;> exact .append hp _

private theorem encode_adds (p : ManagedPath) (what : String) :
    (require (.encode p) rfl (.runtimeError what)).Uses (AddsTo p) (fun _ => True)
      fun _ => True := require_uses rfl (.inr (.inl rfl)) trivial

/-- The destructor finishes the file that its writer has begun. -/
theorem video_destroy_adds (w : ColorVideoWriter) :
    w.destroy.Uses (AddsTo w.config.outputPath) (fun _ => True) fun _ => True := by
  have hflush : (ColorVideoWriter.libraryCalls ["Cannot flush H.264 encoder"]).Uses
      (AddsTo w.config.outputPath) (fun _ => True) fun _ => True :=
    (require_uses rfl (.inl fun _ _ => rfl) trivial).bind _ fun _ _ => trivial
  have hfinalize : w.finalize.Uses (AddsTo w.config.outputPath) (fun _ => True) fun _ => True := by
    refine .ite (fun _ => trivial) fun _ => ?_
    refine hflush.bind _ fun _ _ => (encode_adds _ _).bind _ fun _ _ => ?_
    exact (encode_adds _ _).bind _ fun _ _ => (encode_adds _ _).bind _ fun _ _ => trivial
  exact .ite (fun _ => .tryCatch (hfinalize.bind _ fun _ _ => trivial) fun _ _ => trivial)
    fun _ => trivial

theorem sidecar_destroy_adds (w : RecordingSidecarWriter) :
    w.destroy.Uses (AddsTo w.outputPath) (fun _ => True) fun _ => True :=
  .ite (fun _ => trivial) fun _ => ⟨.inr (.inr ⟨_, rfl⟩), fun _ => trivial⟩

/-- A program that adds output to the file of one recording. -/
def AddsOutput {α : Type} (p : StoreProg α) : Prop :=
  ∃ id path, IsOutput id path ∧ p.Uses (AddsTo path) (fun _ => True) fun _ => True

theorem AddsOutput.op {α : Type} {o : FsOp} {k : o.Res → StoreProg α} (h : AddsOutput (.op o k))
    (r : o.Res) : AddsOutput (k r) := by
  obtain ⟨id, path, hp, hu⟩ := h
  exact ⟨id, path, hp, hu.2 r⟩

theorem AddsOutput.keeps {α : Type} {o : FsOp} {k : o.Res → StoreProg α}
    (h : AddsOutput (.op o k)) (c : Choice) (m : Machine) (id : ByteString) :
    KeepsArtifact m.disk (exec o c m).2.disk id := by
  obtain ⟨recordingId, path, hp, hu⟩ := h
  exact hu.1.keeps hp c m id

theorem releaseWriter_adds {writer : Option ColorVideoWriter}
    (h : ∀ w, writer = some w → ∃ id, w.config.outputPath = videoPath id) :
    AddsOutput (releaseWriter writer) := by
  cases writer with
  | none => exact ⟨[], sidecarPath [], .inr rfl, trivial⟩
  | some w =>
    obtain ⟨id, hid⟩ := h w rfl
    exact ⟨id, _, .inl hid, video_destroy_adds w⟩

theorem releaseSidecar_adds {sidecar : Option RecordingSidecarWriter}
    (h : ∀ w, sidecar = some w → ∃ id, w.outputPath = sidecarPath id) :
    AddsOutput (releaseSidecar sidecar) := by
  cases sidecar with
  | none => exact ⟨[], sidecarPath [], .inr rfl, trivial⟩
  | some w =>
    obtain ⟨id, hid⟩ := h w rfl
    exact ⟨id, _, .inr hid, sidecar_destroy_adds w⟩

end Additions

/-- The start that the call makes. -/
def Call.request : Call → Option RecordingStartRequest
  | .startEntered request | .startJoining request _ | .startLookup request _ _
  | .startPreparing request _ _ | .startWriter request _ _ | .startReleaseWriter request _ _
  | .startSidecar request _ _ | .startReleaseSidecar request _ _ | .startPublish request _
  | .startSpawn request | .startRecording request | .startAdmit request
  | .startFailed request _ | .startRethrow request _ => some request
  | _ => none

/-- The start has not decided to create an artifact. -/
def Call.undecided : Call → Bool
  | .startEntered _ | .startJoining _ _ | .startLookup _ _ _ => true
  | _ => false

/-- The writer of an earlier recording is being destroyed. -/
def Call.releasing : Call → Bool
  | .startReleaseWriter _ _ _ | .startReleaseSidecar _ _ _ => true
  | _ => false

/-- A writer that is replaced only adds to its file. -/
def Call.Releases : Call → Prop
  | .startReleaseWriter _ _ p | .startReleaseSidecar _ _ p => AddsOutput p
  | _ => True

theorem Call.Starts.request {call : Call} {request : RecordingStartRequest}
    (h : call.Starts request) : call.request = some request ∧ call.undecided = false := by
  rcases h with h | h
  · cases call <;> cases h
    exact ⟨rfl, rfl⟩
  · cases call <;> cases h <;> exact ⟨rfl, rfl⟩

/-- What a step of a start does. -/
inductive StartStep (request : RecordingStartRequest) (call : Call) (s t : System) : Prop
  | waits (call' : Call) (hu : call.undecided = true) (hh : t.holder = some call')
      (hu' : call'.undecided = true) (hrel : call'.Releases) (hi : t.impl = s.impl)
      (hd : t.machine.disk = s.machine.disk)
  | refused (e : Exception) (hu : call.undecided = true) (hh : t.holder = none)
      (hi : t.impl = s.impl) (hm : t.machine = s.machine)
      (hr : t.history.returns = .start request (.error e) :: s.history.returns)
  | replayed (hu : call.undecided = true) (hh : t.holder = none)
      (hd : t.machine.disk = s.machine.disk)
      (hr : t.history.returns = .start request (.ok .replayed) :: s.history.returns)
  | prepares (call' : Call) (hu : call.undecided = true) (hh : t.holder = some call')
      (hp : call'.preparing = some request) (hrel : call'.Releases)
      (hd : t.machine.disk = s.machine.disk) (hr : t.history.returns = s.history.returns)
  | builds (hu : call.undecided = false)
      (hh : ∀ call', t.holder = some call' → call'.request = some request ∧
        call'.undecided = false ∧ call'.Releases)
      (hd : ∀ id, id ≠ request.recordingId → LeavesArtifact s.machine.disk t.machine.disk id ∨
        call.releasing = true ∧ KeepsArtifact s.machine.disk t.machine.disk id)

section Steps
variable {setup : Setup} {s t : System} {c : Choice} {request : RecordingStartRequest}

/-- The call as it has got the mutex. -/
def ApiCall.Enters : ApiCall → Call → Prop
  | .start request, call => call = .startEntered request
  | .stop request, call => call = .stopEntered request
  | .shutdown, call => call = .shutdownEntered
  | .destroy, call => ∃ p, call = .destroying p

/-- Only the steps of a call move it on. -/
theorem holder_step {e : Event} {call : Call} (he : s.step setup e = some t)
    (hne : ∀ c, e ≠ .callStep c) (hh : t.holder = some call) :
    s.holder = some call ∨ ∃ api : ApiCall, e = .call api ∧ api.Enters call := by
  cases e with
  | callStep c => exact absurd rfl (hne c)
  | tick | setUnix =>
    cases he
    exact .inl hh
  | call api =>
    cases api with
    | stop request =>
      simp only [System.step, System.enter] at he
      split at he
      · cases he
        exact .inl hh
      · split at he <;> cases he
        cases hh
        exact .inr ⟨_, rfl, rfl⟩
    | start | shutdown =>
      simp only [System.step, System.enter] at he
      split at he <;> cases he
      cases hh
      exact .inr ⟨_, rfl, rfl⟩
    | destroy =>
      simp only [System.step, System.enter] at he
      split at he <;> cases he
      cases hh
      exact .inr ⟨_, rfl, _, rfl⟩
  | workerStep c =>
    obtain ⟨w, hw, he⟩ := Option.bind_eq_some_iff.mp he
    exact .inl ((unseen_workerStep he).holder ▸ hh)
  | join =>
    simp only [System.step] at he
    split at he <;> cases he
    exact .inl hh
  | submit frame =>
    simp only [System.step] at he
    split at he <;> cases he
    unfold System.submit at hh
    split at hh
    · exact .inl hh
    · split at hh <;> exact .inl hh
  | submitContended frame =>
    simp only [System.step] at he
    split at he <;> cases he
    exact .inl hh
  | captureStep =>
    obtain ⟨call, -, rfl⟩ := Option.map_eq_some_iff.mp he
    unfold System.captureStep at hh
    split at hh
    · exact .inl hh
    · split at hh <;> exact .inl hh
  | crash =>
    cases he
    cases hh

/-- The other calls start nothing. -/
theorem request_callStep {call call' : Call} (hreq : call.request = none)
    (he : s.callStep setup c call = some t) (hh : t.holder = some call') :
    call'.request = none := by
  have hheld : ∀ {u : System} {call : Call}, call.request = none → u.holder = some call →
      ∀ call', u.holder = some call' → call'.request = none := by
    intro u call hr hu call' hc
    cases hu.symm.trans hc
    exact hr
  have hfree : ∀ {u : System}, u.holder = none → ∀ call', u.holder = some call' →
      call'.request = none := by
    intro u hu call' hc
    cases hu.symm.trans hc
  cases call with
  | stopEntered request =>
    cases he
    revert hh
    unfold System.stopEntered
    split
    · split
      · split
        · exact hfree rfl _
        · split <;> exact hfree rfl _
      · exact hfree rfl _
    · exact hheld rfl rfl _
  | stopLookup request p =>
    cases he
    have hunrecorded : ∀ call', (s.stopUnrecorded request).holder = some call' →
        call'.request = none := by
      unfold System.stopUnrecorded
      split
      · exact hfree rfl
      · split
        · exact hfree rfl
        · exact hheld rfl rfl
    cases p with
    | throw e => cases hh
    | op o k => exact hheld rfl rfl _ hh
    | pure r =>
      revert hh
      change (s.stopLookedUp request r).holder = some call' → _
      unfold System.stopLookedUp
      split
      · exact hunrecorded _
      · split
        · exact hunrecorded _
        · split
          · exact hfree rfl _
          · split
            · unfold System.stopReplayed
              split <;> exact hfree rfl _
            · split
              · exact hfree rfl _
              · exact hunrecorded _
  | stopBegin request b =>
    cases he
    revert hh
    apply begin_elim (R := fun t => t.holder = some call' → call'.request = none)
    · exact fun u b' _ => hheld rfl rfl _
    · exact fun u _ => hfree rfl _
    · exact fun u e _ _ => hfree rfl _
  | shutdownEntered =>
    cases he
    revert hh
    unfold System.shutdownEntered
    split
    · exact hheld rfl rfl _
    · split <;> exact hfree rfl _
  | shutdownBegin b =>
    cases he
    revert hh
    apply begin_elim (R := fun t => t.holder = some call' → call'.request = none)
    · exact fun u b' _ => hheld rfl rfl _
    · exact fun u _ => hfree rfl _
    · exact fun u e _ _ => hheld rfl rfl _
  | shutdownCatch =>
    cases he
    cases hh
  | destroying p =>
    cases he
    cases p with
    | pure a => cases hh
    | throw e => cases hh
    | op o k => exact hheld rfl rfl _ hh
  | _ => cases hreq

/-- A program of a start that has decided. -/
theorem builds_advance {α : Type} {point : StoreProg α → Call} {onReturn : α → System}
    {onThrow : Exception → System} {call : Call} {p : StoreProg α}
    (hu : call.undecided = false)
    (hpoint : ∀ o k c, p = .op o k →
      ((point (k (exec o c s.machine).1)).request = some request ∧
        (point (k (exec o c s.machine).1)).undecided = false ∧
        (point (k (exec o c s.machine).1)).Releases) ∧
      ∀ id, id ≠ request.recordingId →
        LeavesArtifact s.machine.disk (exec o c s.machine).2.disk id ∨
          call.releasing = true ∧ KeepsArtifact s.machine.disk (exec o c s.machine).2.disk id)
    (hret : ∀ a, StartStep request call s (onReturn a))
    (hthrow : ∀ e, StartStep request call s (onThrow e)) :
    StartStep request call s (s.advance c point onReturn onThrow p) := by
  cases p with
  | pure a => exact hret a
  | throw e => exact hthrow e
  | op o k =>
    obtain ⟨hnext, hkeep⟩ := hpoint o k c rfl
    refine .builds hu ?_ hkeep
    rintro _ ⟨⟩
    exact hnext

/-- A step of a start that has decided and leaves the disk alone. -/
theorem builds_quiet {u : System} {call call' : Call} (hu : call.undecided = false)
    (hh : u.holder = some call') (hreq : call'.request = some request)
    (hu' : call'.undecided = false) (hrel : call'.Releases)
    (hd : u.machine.disk = s.machine.disk) : StartStep request call s u := by
  refine .builds hu ?_ fun id _ => .inl (hd ▸ .refl _ id)
  intro call'' hc
  cases hh.symm.trans hc
  exact ⟨hreq, hu', hrel⟩

theorem builds_answer {u : System} {call : Call} (hu : call.undecided = false)
    (hh : u.holder = none) (hd : u.machine.disk = s.machine.disk) :
    StartStep request call s u := by
  refine .builds hu ?_ fun id _ => .inl (hd ▸ .refl _ id)
  intro call' hc
  cases hh.symm.trans hc

theorem leaves_output {p : ManagedPath} {recordingId id : ByteString} {o : FsOp} {m : Machine}
    (hp : IsOutput recordingId p) (ho : WritesTo p o) (hne : id ≠ recordingId) (c : Choice) :
    LeavesArtifact m.disk (exec o c m).2.disk id := by
  refine .of_touches (output_changes hp ho c m).2 ?_ ?_
  · intro k hk
    rcases hp with rfl | rfl <;> cases hk
  · intro k n hk
    rcases hp with rfl | rfl <;> cases hk <;> exact hne rfl

theorem startStep_callStep {call : Call} (hs : s.Storage setup) (hrel : call.Releases)
    (hh : s.holder = some call) (hreq : call.request = some request)
    (he : s.callStep setup c call = some t) : StartStep request call s t := by
  have hcall := hs.call _ hh
  cases call with
  | startEntered r =>
    cases hreq
    cases he
    unfold System.startEntered
    split
    · exact .refused _ rfl rfl rfl rfl rfl
    · split
      · split
        · exact .replayed rfl rfl rfl rfl
        · exact .refused _ rfl rfl rfl rfl rfl
      · split
        · exact .refused _ rfl rfl rfl rfl rfl
        · split
          · exact .waits _ rfl rfl rfl trivial rfl rfl
          · exact .waits _ rfl rfl rfl trivial rfl rfl
  | startJoining r canonical =>
    cases hreq
    change (if s.workerLive = true then none else _) = some t at he
    split at he <;> cases he
    exact .waits _ rfl rfl rfl trivial rfl rfl
  | startLookup r canonical p =>
    cases hreq
    cases he
    cases p with
    | throw e => exact .refused e rfl rfl rfl rfl rfl
    | op o k =>
      have hsame : (exec o c s.machine).2.disk = s.machine.disk := (hcall.2.op_step c trivial).1
      exact .waits _ rfl rfl rfl trivial rfl hsame
    | pure r =>
      cases r with
      | none => exact .prepares _ rfl rfl rfl trivial rfl rfl
      | some artifact =>
        simp only [System.advance, System.startLookedUp]
        split
        · exact .refused _ rfl rfl rfl rfl rfl
        · exact .replayed rfl rfl rfl rfl
  | startPreparing r canonical p =>
    cases hreq
    cases he
    refine builds_advance rfl ?_ (fun paths => builds_quiet rfl rfl rfl rfl trivial rfl) fun e =>
      builds_quiet rfl rfl rfl rfl trivial rfl
    rintro o k c rfl
    refine ⟨⟨rfl, rfl, trivial⟩, fun id hne => ?_⟩
    have hchanges := (hcall.2.op_step c trivial).1
    refine .inl (.of_touches hchanges.2 ?_ ?_)
    · intro m hm
      simp [startPaths, managedPaths, artifactTree, hne] at hm
    · intro m n hm
      simp [startPaths, managedPaths, artifactTree, hne] at hm
  | startWriter r canonical p =>
    cases hreq
    cases he
    refine builds_advance rfl ?_ (fun w => ?_) fun e => builds_quiet rfl rfl rfl rfl trivial rfl
    · rintro o k c rfl
      exact ⟨⟨rfl, rfl, trivial⟩, fun id hne => .inl (leaves_output (.inl rfl) hcall.2.2.1 hne c)⟩
    · exact builds_quiet rfl rfl rfl rfl (releaseWriter_adds hs.writer) rfl
  | startReleaseWriter r canonical p =>
    cases hreq
    cases he
    refine builds_advance rfl ?_ (fun _ => builds_quiet rfl rfl rfl rfl trivial rfl) fun e =>
      builds_quiet rfl rfl rfl rfl trivial rfl
    rintro o k c rfl
    have hadds : AddsOutput (.op o k) := hrel
    exact ⟨⟨rfl, rfl, hadds.op _⟩, fun id _ => .inr ⟨rfl, hadds.keeps c s.machine id⟩⟩
  | startSidecar r canonical p =>
    cases hreq
    cases he
    refine builds_advance rfl ?_ (fun w => ?_) fun e => builds_quiet rfl rfl rfl rfl trivial rfl
    · rintro o k c rfl
      exact ⟨⟨rfl, rfl, trivial⟩, fun id hne => .inl (leaves_output (.inr rfl) hcall.2.2.1 hne c)⟩
    · exact builds_quiet rfl rfl rfl rfl (releaseSidecar_adds hs.sidecar) rfl
  | startReleaseSidecar r canonical p =>
    cases hreq
    cases he
    refine builds_advance rfl ?_ (fun _ => builds_quiet rfl rfl rfl rfl trivial rfl) fun e =>
      builds_quiet rfl rfl rfl rfl trivial rfl
    rintro o k c rfl
    have hadds : AddsOutput (.op o k) := hrel
    exact ⟨⟨rfl, rfl, hadds.op _⟩, fun id _ => .inr ⟨rfl, hadds.keeps c s.machine id⟩⟩
  | startSpawn r =>
    cases hreq
    change (if c.fails = true then _ else _) = some t at he
    split at he <;> cases he <;> exact builds_quiet rfl rfl rfl rfl trivial rfl
  | startPublish | startRecording | startFailed =>
    cases hreq
    cases he
    exact builds_quiet rfl rfl rfl rfl trivial rfl
  | startAdmit | startRethrow =>
    cases hreq
    cases he
    exact builds_answer rfl rfl rfl
  | _ => cases hreq

theorem startedOnce_reachable {ok : System → Event → System → Prop}
    (h : Reach (IsInitial setup) (System.step setup) ok s) : s.lifecycle.StartedOnce := by
  refine lifecycle_reachable Lifecycle.StartedOnce (fun machine => ?_)
    (fun s e t _ hs hi _ hn => hi.next hs.wellFormed hn) h
  constructor
  · rintro id ⟨r, hr, -⟩
    cases hr
  · intro call request hc
    cases hc
  · intro id
    exact Nat.zero_le _

end Steps

end NodusVision.Manager
