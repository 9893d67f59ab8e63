import NodusVision.Manager.StartOnce

/-! A session has a valid id and a size that the video writer has accepted. -/
namespace NodusVision.Manager
open Text Storage Disk Program Recording RecordingStore Transition

/-- What the profile check of the video writer says of the configuration. -/
structure Setup.HasSize (setup : Setup) : Prop where
  width : 0 < setup.config.width
  height : 0 < setup.config.height
  fps : 0 < setup.config.fps

section Session
variable {setup : Setup} {s t : System} {v v' : Lifecycle}

/-- A session begins with a publication. -/
theorem session_next (hn : v.Next v') (hin : v'.inSession = true) :
    v.inSession = true ∧ v'.recordingId = v.recordingId ∨
      ∃ request canonical, v.holder = some (.startPublish request canonical) ∧
        Canonical request canonical ∧ v'.recordingId = request.recordingId := by
  cases hn with
  | publish hh hw hs hc => exact .inr ⟨_, _, hh, hc, rfl⟩
  | startRestored | stopRestored | exit => cases hin
  | beginPoint hh hc hc' hf hb | workBegin hh hw hpc hid hlive hb | workFinished hh hw hpc hid hlive hb
  | workFailed hh hw hpc hid hlive hb =>
    have hbeside := hb.beside
    exact .inl ⟨hbeside.inSession.symm.trans hin, hbeside.recordingId⟩
  | beginFinished rs hh hc hf hb | beginFailed h' rs hh hc hb =>
    have hbeside := hb.beside
    exact .inl ⟨hbeside.inSession.symm.trans hin, hbeside.recordingId⟩
  | _ => exact .inl ⟨hin, rfl⟩

theorem validId_reachable {ok : System → Event → System → Prop}
    (h : Reach (IsInitial setup) (System.step setup) ok s) (hin : s.history.inSession = true) :
    isRecordingIdValid s.impl.recordingId = true := by
  refine lifecycle_reachable (fun v => v.inSession = true → isRecordingIdValid v.recordingId = true)
    (fun machine hin => by cases hin) (fun s e t _ _ hi _ hn hin => ?_) h hin
  rcases session_next hn hin with ⟨hold, hid⟩ | ⟨request, canonical, -, hc, hid⟩
  · rw [hid]
    exact hi hold
  · rw [hid]
    exact hc.valid

/-- A start looks its artifact up. -/
def Lifecycle.LooksUp (v : Lifecycle) : Prop :=
  ∃ request canonical p, v.holder = some (.startLookup request canonical p)

/-- Calls that build nothing lead to calls that build nothing; a lookup may lead to a preparation. -/
theorem building_next (hn : v.Next v')
    (hv : ∀ call, v.holder = some call → call.building = none ∧ call.preparing = none) :
    ∀ call, v'.holder = some call →
      call.building = none ∧ (call.preparing = none ∨ v.LooksUp) := by
  intro call hc
  have hplain : call.building = none ∧ call.preparing = none →
      call.building = none ∧ (call.preparing = none ∨ v.LooksUp) := fun h => ⟨h.1, .inl h.2⟩
  have hkept : ∀ {u : Lifecycle}, u.holder = v.holder → u.holder = some call →
      call.building = none ∧ (call.preparing = none ∨ v.LooksUp) :=
    fun hu hc => hplain (hv call (hu.symm.trans hc))
  cases hn with
  | tick | reject | joined | work => exact hkept rfl hc
  | enter _ closed hh hs =>
    cases hc
    refine hplain ⟨?_, ?_⟩
    · cases hb : call.building with
      | none => rfl
      | some request => exact absurd (.inr hb) (hs request)
    · cases hp : call.preparing with
      | none => rfl
      | some request => exact absurd (.inl hp) (hs request)
  | answer | repeated | await | startRestored | stopRestored | started | shutdownCatch | exit =>
    cases hc
  | proceed d hh hf =>
    cases hc
    obtain ⟨hb, hp⟩ := hv _ hh
    refine hplain ⟨?_, ?_⟩
    · rcases hf.building with hnone | hsame
      · exact hnone
      · exact hsame.trans hb
    · rcases hf.preparing with hnone | hsame
      · exact hnone
      · exact hsame.trans hp
  | prepare hh =>
    cases hc
    exact ⟨rfl, .inr ⟨_, _, _, hh⟩⟩
  | startJoined | startFailed =>
    cases hc
    exact ⟨rfl, .inl rfl⟩
  | create hh => cases (hv _ hh).2
  | publish hh | spawn hh | record hh => cases (hv _ hh).1
  | beginPoint hh hc₁ hc₂ =>
    cases hc
    cases call with
    | stopBegin | shutdownBegin => exact ⟨rfl, .inl rfl⟩
    | _ => cases hc₂
  | beginFinished => cases hc
  | beginFailed h' rs hh hc₁ hb hh' =>
    rcases hh' with rfl | rfl
    · cases hc
    · cases hc
      exact ⟨rfl, .inl rfl⟩
  | workBegin hh hw hpc hid hin hb | workFinished hh hw hpc hid hin hb
  | workFailed hh hw hpc hid hin hb => exact hkept hb.beside.holder hc
  | finalized hh | faulted hh => cases hh.symm.trans hc

/-- A worker appears with its start. -/
theorem spawn_next {w : Worker} (hn : v.Next v') (hw : v.worker = none) (hw' : v'.worker = some w) :
    ∃ request, v.holder = some (.startSpawn request) ∧
      w = ⟨request.recordingId, .loop .acquire⟩ := by
  cases hn with
  | spawn hh =>
    cases hw'
    exact ⟨_, hh, rfl⟩
  | joined | startJoined | exit => cases hw'
  | work d hw₁ => cases hw.symm.trans hw₁
  | workBegin hh hw₁ | workFinished hh hw₁ | workFailed hh hw₁ | finalized hh hw₁
  | faulted hh hw₁ => cases hw.symm.trans hw₁
  | beginPoint hh hc hc' hf hb =>
    have hbeside := hb.beside
    cases hw.symm.trans (hbeside.worker.symm.trans hw')
  | beginFinished rs hh hc hf hb | beginFailed h' rs hh hc hb =>
    have hbeside := hb.beside
    cases hw.symm.trans (hbeside.worker.symm.trans hw')
  | _ => cases hw.symm.trans hw'

end Session

/-- Where a start has had its video writer accepted. -/
def Call.Sized (setup : Setup) : Call → Prop
  | .startWriter _ _ p => p.Uses (fun _ => True) (fun _ => setup.HasSize) fun _ => True
  | .startReleaseWriter _ _ _ | .startSidecar _ _ _ | .startReleaseSidecar _ _ _
  | .startPublish _ _ => setup.HasSize
  | _ => True

structure System.Sized (setup : Setup) (s : System) : Prop where
  call : ∀ call, s.holder = some call → call.Sized setup
  session : s.history.inSession = true → setup.HasSize

section Sizes
variable {setup : Setup} {s t : System} {c : Choice}

theorem Call.Sized.of_building {call : Call} (h : call.building = none) : call.Sized setup := by
  cases call with
  | startWriter | startReleaseWriter | startSidecar | startReleaseSidecar | startPublish => cases h
  | _ => trivial

theorem construct_sized (paths : RecordingArtifactPaths) :
    (ColorVideoWriter.construct (writerConfig setup paths)).Uses (fun _ => True)
      (fun _ => setup.HasSize) fun _ => True := by
  unfold ColorVideoWriter.construct throwIf
  split
  · trivial
  · rename_i hvalid
    have hsize : setup.HasSize := by
      simp only [ColorVideoWriter.isProfileValid, writerConfig, Bool.not_eq_false,
        Bool.and_eq_true] at hvalid
      obtain ⟨⟨⟨⟨⟨⟨⟨⟨-, hwidth⟩, hheight⟩, -⟩, -⟩, hfps⟩, -⟩, -⟩, -⟩ := hvalid
      exact ⟨of_decide_eq_true hwidth, of_decide_eq_true hheight, of_decide_eq_true hfps⟩
    exact (Prog.uses_any _).mono (fun _ _ => trivial) (fun _ _ => hsize) fun _ _ => trivial

theorem sized_callStep {call : Call} (h : call.Sized setup) (hstarts : call.building ≠ none ∨
    call.preparing ≠ none) (he : s.callStep setup c call = some t) :
    ∀ call', t.holder = some call' → call'.Sized setup := by
  have hadvance : ∀ {α : Type} {point : StoreProg α → Call} {onReturn : α → System}
      {onThrow : Exception → System} {p : StoreProg α},
      (∀ o k, p = .op o k → (point (k (exec o c s.machine).1)).Sized setup) →
      (∀ a, p = .pure a → ∀ call', (onReturn a).holder = some call' → call'.Sized setup) →
      (∀ e call', (onThrow e).holder = some call' → call'.Sized setup) →
      ∀ call', (s.advance c point onReturn onThrow p).holder = some call' → call'.Sized setup := by
    intro α point onReturn onThrow p hop hreturn hthrow call' hc
    cases p with
    | pure a => exact hreturn a rfl call' hc
    | throw e => exact hthrow e call' hc
    | op o k =>
      cases hc
      exact hop o k rfl
  have hfailed : ∀ (request : RecordingStartRequest) (e : Exception) (call' : Call),
      (s.hold (.startFailed request e)).holder = some call' → call'.Sized setup := by
    rintro request e _ ⟨⟩
    trivial
  cases call with
  | startPreparing request canonical p =>
    cases he
    refine hadvance (fun _ _ _ => trivial) ?_ (hfailed request)
    rintro paths rfl _ ⟨⟩
    exact construct_sized paths
  | startWriter request canonical p =>
    cases he
    have huses : p.Uses (fun _ => True) (fun _ => setup.HasSize) fun _ => True := h
    refine hadvance ?_ ?_ (hfailed request)
    · rintro o k rfl
      exact huses.2 _
    · rintro w rfl _ ⟨⟩
      exact huses
  | startReleaseWriter request canonical p | startSidecar request canonical p
  | startReleaseSidecar request canonical p =>
    cases he
    refine hadvance (fun _ _ _ => h) ?_ (hfailed request)
    rintro a rfl _ ⟨⟩
    exact h
  | startPublish request canonical | startRecording request =>
    cases he
    rintro _ ⟨⟩
    trivial
  | startSpawn request =>
    change (if c.fails = true then _ else _) = some t at he
    split at he <;> cases he
    · exact hfailed request _
    · rintro _ ⟨⟩
      trivial
  | startAdmit request =>
    cases he
    intro call' hc
    cases hc
  | _ => rcases hstarts with hb | hp <;> contradiction

theorem sized_step {e : Event} (hk : s.core.Control) (hs : s.Storage setup) (h : s.Sized setup)
    (he : s.step setup e = some t) : t.Sized setup := by
  have hn := step_next hk hs he
  constructor
  · intro call hc
    by_cases hcall : ∃ c, e = .callStep c
    · obtain ⟨c, rfl⟩ := hcall
      obtain ⟨held, hh, hstep⟩ := Option.bind_eq_some_iff.mp he
      by_cases hstarts : held.building ≠ none ∨ held.preparing ≠ none
      · exact sized_callStep (h.call held hh) hstarts hstep call hc
      · rw [not_or, not_not, not_not] at hstarts
        refine .of_building (building_next hn (fun held' hh' => ?_) call hc).1
        cases hh.symm.trans hh'
        exact hstarts
    · rcases holder_step he (not_exists.mp hcall) hc with hold | ⟨api, rfl, henters⟩
      · exact h.call call hold
      · cases api with
        | destroy =>
          obtain ⟨p, rfl⟩ := henters
          trivial
        | _ =>
          cases henters
          trivial
  · intro hin
    rcases session_next hn hin with ⟨hold, -⟩ | ⟨request, canonical, hh, -⟩
    · exact h.session hold
    · exact h.call _ hh

theorem sized_reachable {ok : System → Event → System → Prop}
    (h : Reach (IsInitial setup) (System.step setup) ok s) : s.Sized setup := by
  refine h.invariant _ ?_ fun s e t hs hi he _ =>
    sized_step (control_reachable hs) (storage_reachable hs) hi he
  rintro s ⟨machine, -, rfl⟩
  constructor
  · intro call hc
    cases hc
  · intro hin
    cases hin

end Sizes

end NodusVision.Manager
