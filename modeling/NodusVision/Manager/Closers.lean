import NodusVision.Manager.StartOnce

/-! Who closes a recording: `beginFinalizationLocked` runs on it at most once, and what its closer
wrote down stays until the next start. -/
namespace NodusVision.Manager
open Text Storage Disk Program Recording RecordingStore Transition

/-- The stop that the call makes. -/
def Call.stopping : Call → Option RecordingStartRequest
  | .stopEntered request | .stopLookup request _ | .stopBegin request _ => some request
  | _ => none

/-- The holder of the mutex, if it is a stop, makes a stop of this kind. -/
def System.StopsAre (P : RecordingStartRequest → Prop) (s : System) : Prop :=
  ∀ call request, s.holder = some call → call.stopping = some request → P request

section Stops
variable {setup : Setup} {s t : System} {c : Choice} {P : RecordingStartRequest → Prop}

/-- Only the stop itself is followed by a stop. -/
theorem stopping_callStep {call : Call} (he : s.callStep setup c call = some t) :
    ∀ call', t.holder = some call' → call'.stopping = none ∨ call'.stopping = call.stopping := by
  let Follows (u : System) : Prop :=
    ∀ call', u.holder = some call' → call'.stopping = none ∨ call'.stopping = call.stopping
  show Follows t
  have hfree : ∀ {u : System}, u.holder = none → Follows u := by
    intro u hu call' hc
    cases hu.symm.trans hc
  have hheld : ∀ {u : System} {k : Call}, u.holder = some k →
      k.stopping = none ∨ k.stopping = call.stopping → Follows u := by
    intro u k hu hk call' hc
    cases hu.symm.trans hc
    exact hk
  have hadvance : ∀ {α : Type} {point : StoreProg α → Call} {onReturn : α → System}
      {onThrow : Exception → System} {p : StoreProg α},
      (∀ q, (point q).stopping = none ∨ (point q).stopping = call.stopping) →
      (∀ a, p = .pure a → Follows (onReturn a)) → (∀ e, Follows (onThrow e)) →
      Follows (s.advance c point onReturn onThrow p) := by
    intro α point onReturn onThrow p hpoint hreturn hthrow
    cases p with
    | pure a => exact hreturn a rfl
    | throw e => exact hthrow e
    | op o k => exact hheld rfl (hpoint _)
  cases call with
  | startEntered request =>
    cases he
    unfold System.startEntered
    split
    · exact hfree rfl
    · split
      · split <;> exact hfree rfl
      · split
        · exact hfree rfl
        · split <;> exact hheld rfl (.inl rfl)
  | startJoining request canonical =>
    change (if s.workerLive = true then none else _) = some t at he
    split at he <;> cases he
    exact hheld rfl (.inl rfl)
  | startLookup request canonical p =>
    cases he
    refine hadvance (fun _ => .inl rfl) (fun r _ => ?_) fun _ => hfree rfl
    cases r with
    | none => exact hheld rfl (.inl rfl)
    | some artifact =>
      simp only [System.startLookedUp]
      split <;> exact hfree rfl
  | startPreparing | startWriter | startReleaseWriter | startSidecar | startReleaseSidecar =>
    cases he
    exact hadvance (fun _ => .inl rfl) (fun _ _ => hheld rfl (.inl rfl))
      fun _ => hheld rfl (.inl rfl)
  | startSpawn request =>
    change (if c.fails = true then _ else _) = some t at he
    split at he <;> cases he <;> exact hheld rfl (.inl rfl)
  | startPublish | startRecording | startFailed | shutdownCatch =>
    cases he
    first | exact hheld rfl (.inl rfl) | exact hfree rfl
  | startAdmit | startRethrow =>
    cases he
    exact hfree rfl
  | stopEntered request =>
    cases he
    unfold System.stopEntered
    split
    · split
      · split
        · exact hfree rfl
        · split <;> exact hfree rfl
      · exact hfree rfl
    · exact hheld rfl (.inr rfl)
  | stopLookup request p =>
    cases he
    have hunrecorded : Follows (s.stopUnrecorded request) := by
      unfold System.stopUnrecorded
      split
      · exact hfree rfl
      · split
        · exact hfree rfl
        · exact hheld rfl (.inr rfl)
    refine hadvance (fun _ => .inr rfl) (fun r _ => ?_) fun _ => hfree rfl
    unfold System.stopLookedUp
    split
    · exact hunrecorded
    · split
      · exact hunrecorded
      · split
        · exact hfree rfl
        · split
          · unfold System.stopReplayed
            split <;> exact hfree rfl
          · split
            · exact hfree rfl
            · exact hunrecorded
  | stopBegin request b =>
    cases he
    apply begin_elim (R := Follows)
    · exact fun u b' _ => hheld rfl (.inr rfl)
    · exact fun u _ => hfree rfl
    · exact fun u e _ _ => hfree rfl
  | shutdownEntered =>
    cases he
    unfold System.shutdownEntered
    split
    · exact hheld rfl (.inl rfl)
    · split <;> exact hfree rfl
  | shutdownBegin b =>
    cases he
    apply begin_elim (R := Follows)
    · exact fun u b' _ => hheld rfl (.inl rfl)
    · exact fun u _ => hfree rfl
    · exact fun u e _ _ => hheld rfl (.inl rfl)
  | destroying p =>
    cases he
    exact hadvance (fun _ => .inl rfl) (fun _ _ => hfree rfl) fun _ => hfree rfl

theorem stopsAre_step {e : Event} (h : s.StopsAre P) (he : s.step setup e = some t)
    (hk : ∀ request, e = .call (.stop request) → P request) : t.StopsAre P := by
  intro call request hc hr
  by_cases hcall : ∃ c, e = .callStep c
  · obtain ⟨c, rfl⟩ := hcall
    obtain ⟨held, hh, hstep⟩ := Option.bind_eq_some_iff.mp he
    rcases stopping_callStep hstep call hc with hnone | hsame
    · cases hnone.symm.trans hr
    · exact h held request hh (hsame.symm.trans hr)
  · rcases holder_step he (not_exists.mp hcall) hc with hold | ⟨api, rfl, henters⟩
    · exact h call request hold hr
    · cases api with
      | stop =>
        cases henters
        cases hr
        exact hk _ rfl
      | start | shutdown =>
        cases henters
        cases hr
      | destroy =>
        obtain ⟨p, rfl⟩ := henters
        cases hr

end Stops

namespace Lifecycle
variable {v v' u : Lifecycle}

/-- No recording that takes frames, or is about to, has been closed before. -/
structure BegunOnce (v : Lifecycle) : Prop where
  nodup : v.begun.Nodup
  stored : ∀ id ∈ v.begun, ∃ m, v.disk (.artifact m id) ≠ none
  starting : ∀ call request, v.holder = some call → call.Starts request →
    request.recordingId ∉ v.begun
  recording : v.state = .recording →
    v.recordingId ∉ v.begun ∧ ∃ m, v.disk (.artifact m v.recordingId) ≠ none

/-- A step that closes nothing and enters no recording. -/
theorem BegunOnce.same (h : v.BegunOnce) (hw : v.disk.WellFormed) (hl : v.disk.Lawful v'.disk)
    (hb : v'.begun = v.begun)
    (hh : ∀ call request, v'.holder = some call → call.Starts request →
      request.recordingId ∉ v.begun)
    (hs : v'.state = .recording → v.state = .recording ∧ v'.recordingId = v.recordingId) :
    v'.BegunOnce := by
  constructor
  · rw [hb]
    exact h.nodup
  · intro id hid
    rw [hb] at hid
    exact exists_artifact_lawful hw hl (h.stored id hid)
  · intro call request hc hstarts
    rw [hb]
    exact hh call request hc hstarts
  · intro hr
    obtain ⟨hrecording, hid⟩ := hs hr
    obtain ⟨hnew, hartifact⟩ := h.recording hrecording
    rw [hb, hid]
    exact ⟨hnew, exists_artifact_lawful hw hl hartifact⟩

/-- Nobody holds the mutex after the step. -/
theorem BegunOnce.freed (h : v.BegunOnce) (hw : v.disk.WellFormed) (hl : v.disk.Lawful v'.disk)
    (hb : v'.begun = v.begun) (hh : v'.holder = none)
    (hs : v'.state = .recording → v.state = .recording ∧ v'.recordingId = v.recordingId) :
    v'.BegunOnce := by
  apply h.same hw hl hb _ hs
  intro call request hc
  cases hh.symm.trans hc

/-- A step of `beginFinalizationLocked`, whoever runs it. -/
theorem BegunOnce.begins {closer : Closer} {b : BeginPc} {r : BeginResult} (h : v.BegunOnce)
    (hw : v.disk.WellFormed) (hopen : b = .enter → v.state = .recording)
    (hclosed : v.state = .recording → b = .enter) (hb : v.Begins closer b r u)
    {holder : Option Call} {worker : Option Worker} {returns : List Return}
    (hh : ∀ call request, holder = some call → call.Starts request → False) :
    BegunOnce { u with holder := holder, worker := worker, returns := returns } := by
  have hcalls : ∀ call request, holder = some call → call.Starts request →
      request.recordingId ∉ v.begun :=
    fun call request hc hstarts => (hh call request hc hstarts).elim
  cases hb with
  | enter =>
    obtain ⟨hnew, hartifact⟩ := h.recording (hopen rfl)
    constructor
    · exact List.nodup_cons.mpr ⟨hnew, h.nodup⟩
    · intro id hid
      rcases List.mem_cons.mp hid with rfl | hid
      · exact hartifact
      · exact h.stored id hid
    · intro call request hc hstarts
      exact (hh call request hc hstarts).elim
    · intro hr
      cases hr
  | write d p p' hd =>
    refine h.same hw hd.1 rfl hcalls ?_
    intro hr
    cases hclosed hr
  | fail e =>
    refine h.same hw (.refl _) rfl hcalls ?_
    intro hr
    cases hr
  | close | written | unwritten | late | finish =>
    refine h.same hw (.refl _) rfl hcalls ?_
    intro hr
    cases hclosed hr

end Lifecycle

section Steps
variable {setup : Setup} {s : System} {v' : Lifecycle}

open Lifecycle

/-- `beginFinalizationLocked` enters on a recording that takes frames, and on it only. -/
theorem flags_enter {b : BeginPc} (h : b.Flags s.core) :
    (b = .enter → s.lifecycle.state = .recording) ∧
      (s.lifecycle.state = .recording → b = .enter) := by
  cases b with
  | enter => exact ⟨fun _ => h.1, fun _ => rfl⟩
  | closeAdmission | evidence | checkDeadline | fail =>
    constructor
    · intro he
      cases he
    · intro hr
      cases h.1.symm.trans hr

theorem begunOnce_next (hk : s.core.Control) (hs : s.Storage setup) (h : s.lifecycle.BegunOnce)
    (hn : s.lifecycle.Next v') : v'.BegunOnce := by
  have hwf : s.lifecycle.disk.WellFormed := hs.wellFormed
  have hsame : s.lifecycle.state = .recording →
      s.lifecycle.state = .recording ∧ s.lifecycle.recordingId = s.lifecycle.recordingId :=
    fun hr => ⟨hr, rfl⟩
  cases hn with
  | tick | reject | joined => exact h.same hwf (.refl _) rfl h.starting hsame
  | work d hw hm hd => exact h.same hwf hd.1 rfl h.starting hsame
  | answer | repeated | await | started => exact h.freed hwf (.refl _) rfl rfl hsame
  | enter call closed hh hcall =>
    refine h.same hwf (.refl _) rfl ?_ hsame
    rintro _ request ⟨⟩ hstarts
    exact (hcall request hstarts).elim
  | @proceed call call' d hh hf hd =>
    refine h.same hwf hd.1 rfl ?_ hsame
    rintro _ request ⟨⟩ hstarts
    apply h.starting call request hh
    rcases hstarts with hp | hb
    · rcases hf.preparing with hn | hp'
      · cases hn.symm.trans hp
      · exact .inl (hp' ▸ hp)
    · rcases hf.building with hn | hb'
      · cases hn.symm.trans hb
      · exact .inr (hb' ▸ hb)
  | startJoined =>
    refine h.same hwf (.refl _) rfl ?_ hsame
    rintro _ request ⟨⟩ (hp | hp) <;> cases hp
  | shutdownCatch =>
    refine h.freed hwf (.refl _) rfl rfl ?_
    intro hr
    cases hr
  | @startRestored request canonical artifact =>
    refine h.freed hwf (.refl _) rfl rfl ?_
    intro hr
    have hr : (if artifact.finalized then RecordingState.finalized else .faulted) = .recording := hr
    split at hr <;> cases hr
  | stopRestored =>
    refine h.freed hwf (.refl _) rfl rfl ?_
    intro hr
    cases hr
  | @prepare request canonical hh hw habsent p =>
    refine h.same hwf (.refl _) rfl ?_ ?_
    · rintro _ other ⟨⟩ (hp | hp)
      · cases hp
        intro hbegun
        obtain ⟨m, hm⟩ := h.stored _ hbegun
        exact hm (habsent m)
      · cases hp
    · intro hr
      cases hr
  | @create request canonical paths hh hw hst hp p =>
    refine h.same hwf (.refl _) rfl ?_ hsame
    rintro _ other ⟨⟩ (hstarts | hstarts)
    · cases hstarts
    · cases hstarts
      exact h.starting _ request hh (.inl rfl)
  | @publish request canonical hh hw hst =>
    refine h.same hwf (.refl _) rfl ?_ fun hr => by cases hst.symm.trans hr
    rintro _ other ⟨⟩ (hstarts | hstarts)
    · cases hstarts
    · cases hstarts
      exact h.starting _ request hh (.inr rfl)
  | @spawn request hh hw hst =>
    refine h.same hwf (.refl _) rfl ?_ hsame
    rintro _ other ⟨⟩ (hstarts | hstarts)
    · cases hstarts
    · cases hstarts
      exact h.starting _ request hh (.inr rfl)
  | @record request hh hst hid =>
    have hnew := h.starting _ request hh (.inr rfl)
    have hpublished : Published request s.machine s.impl := hs.call _ hh
    have hstaged : s.lifecycle.disk (.artifact .staging request.recordingId) = some .directory :=
      hpublished.started.staging
    constructor
    · exact h.nodup
    · exact h.stored
    · rintro _ other ⟨⟩ (hstarts | hstarts)
      · cases hstarts
      · cases hstarts
        exact hnew
    · intro _
      change s.lifecycle.recordingId ∉ s.lifecycle.begun ∧
        ∃ m, s.lifecycle.disk (.artifact m s.lifecycle.recordingId) ≠ none
      rw [hid]
      exact ⟨hnew, .staging, hstaged ▸ Option.some_ne_none _⟩
  | @startFailed request e hh =>
    refine h.same hwf (.refl _) rfl ?_ ?_
    · rintro _ request ⟨⟩ (hp | hp) <;> cases hp
    · intro hr
      cases hr
  | @beginPoint call call' closer b b' u hh hc hc' hf hb =>
    have hflags := flags_enter (closing_control hk hh hc).2
    refine h.begins hwf hflags.1 hflags.2 hb ?_
    rintro _ request ⟨⟩ hstarts
    exact not_starts_of_closing hc' hstarts
  | @beginFinished call closer b u rs hh hc hf hb =>
    have hflags := flags_enter (closing_control hk hh hc).2
    refine h.begins hwf hflags.1 hflags.2 hb ?_
    intro call request hc'
    cases hc'
  | @beginFailed call closer b e u h' rs hh hc hb hh' =>
    have hflags := flags_enter (closing_control hk hh hc).2
    refine h.begins hwf hflags.1 hflags.2 hb ?_
    rintro call request rfl hstarts
    rcases hh' with hnone | hcatch
    · cases hnone
    · cases hcatch
      rcases hstarts with hp | hp <;> cases hp
  | workBegin hh hw hpc hid hin hb | workFinished hh hw hpc hid hin hb
  | workFailed hh hw hpc hid hin hb =>
    have hflags := flags_enter (worker_flags hk hh hw hpc)
    refine h.begins hwf hflags.1 hflags.2 hb ?_
    intro call request hc
    cases (hb.beside.holder.trans hh).symm.trans hc
  | finalized hh | faulted hh =>
    refine h.same hwf (.refl _) rfl ?_ ?_
    · intro call request hc
      cases hh.symm.trans hc
    · intro hr
      cases hr
  | exit =>
    refine h.freed hwf (.refl _) rfl rfl ?_
    intro hr
    cases hr

theorem begunOnce_reachable {ok : System → Event → System → Prop}
    (h : Reach (IsInitial setup) (System.step setup) ok s) : s.lifecycle.BegunOnce := by
  refine lifecycle_reachable BegunOnce (fun machine => ?_)
    (fun s e t hk hs hi _ hn => begunOnce_next hk hs hi hn) h
  constructor
  · exact List.nodup_nil
  · intro id hid
    cases hid
  · intro call request hc
    cases hc
  · intro hr
    cases hr

end Steps

end NodusVision.Manager
