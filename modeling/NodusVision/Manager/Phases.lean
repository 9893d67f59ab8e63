import NodusVision.Manager.Refinement

/-! The phase of every recording, and the place of its artifact. -/
namespace NodusVision.Manager
open Text Storage Disk Program Recording RecordingStore Transition

namespace Lifecycle
variable {v v' u : Lifecycle}

/-- The current recording has the phase of `m_state`, and every other one has ended. -/
structure Numbered (v : Lifecycle) : Prop where
  idle : v.state = .idle → ∀ n, v.phase n = none
  current : v.state ≠ .idle → v.phase v.current = some v.state
  fresh : ∀ n, v.sessions < n → v.phase n = none
  bounded : ∀ id n, v.owner id = some n → n ≤ v.sessions
  currentLe : v.current ≤ v.sessions
  injective : ∀ a b n, v.owner a = some n → v.owner b = some n → a = b
  past : ∀ n p, n ≠ v.current → v.phase n = some p → p = .finalized ∨ p = .faulted

/-- The recording that a start prepares owns its artifact from its creation on. -/
structure Owned (v : Lifecycle) : Prop where
  unowned : ∀ request canonical p, v.holder = some (.startPreparing request canonical p) →
    ∀ id, v.owner id ≠ some v.current
  building : ∀ call request, v.holder = some call → call.building = some request →
    v.owner request.recordingId = some v.current

/-- The call that holds the mutex leaves its start or stays in it. -/
theorem Owned.same (h : v.Owned) (hc : v'.current = v.current) (ho : v'.owner = v.owner)
    (hh : ∀ call', v'.holder = some call' → call'.preparing = none ∧ call'.building = none ∨
      ∃ call, v.holder = some call ∧ (call'.preparing = none ∨ call'.preparing = call.preparing) ∧
        (call'.building = none ∨ call'.building = call.building)) : v'.Owned := by
  refine ⟨fun request canonical p hp => ?_, fun c request hp hr => ?_⟩
  · rw [hc, ho]
    rcases hh _ hp with ⟨hn, -⟩ | ⟨call, hcall, hn | hs, -⟩
    · cases hn
    · cases hn
    · cases call <;> cases hs
      exact h.unowned _ _ _ hcall
  · rw [hc, ho]
    rcases hh _ hp with ⟨-, hn⟩ | ⟨call, hcall, -, hn | hb⟩
    · cases hn.symm.trans hr
    · cases hn.symm.trans hr
    · exact h.building call request hcall (hb ▸ hr)

theorem Owned.of_free (h : v'.holder = none) : v'.Owned :=
  ⟨fun _ _ _ hp => (by cases h.symm.trans hp), fun _ _ hp => (by cases h.symm.trans hp)⟩

theorem Numbered.same (h : v.Numbered) (hs : v'.state = v.state) (hp : v'.phase = v.phase)
    (hn : v'.sessions = v.sessions) (hc : v'.current = v.current) (ho : v'.owner = v.owner) :
    v'.Numbered := by
  refine ⟨?_, ?_, ?_, ?_, ?_, ?_, ?_⟩
  · rw [hs, hp]
    exact h.idle
  · rw [hs, hp, hc]
    exact h.current
  · rw [hn, hp]
    exact h.fresh
  · rw [ho, hn]
    exact h.bounded
  · rw [hc, hn]
    exact h.currentLe
  · rw [ho]
    exact h.injective
  · rw [hc, hp]
    exact h.past

/-- The current recording takes another state. -/
theorem Numbered.stored (h : v.Numbered) (hs : v'.state ≠ .idle)
    (hp : v'.phase = Function.update v.phase v.current (some v'.state))
    (hn : v'.sessions = v.sessions) (hc : v'.current = v.current) (ho : v'.owner = v.owner) :
    v'.Numbered := by
  refine ⟨fun hi => absurd hi hs, fun _ => ?_, fun n hlt => ?_, ?_, ?_, ?_, fun n p hne hph => ?_⟩
  · rw [hp, hc, Function.update_self]
  · rw [hn] at hlt
    have hcur := h.currentLe
    rw [hp, Function.update_of_ne (by omega)]
    exact h.fresh n hlt
  · rw [ho, hn]
    exact h.bounded
  · rw [hc, hn]
    exact h.currentLe
  · rw [ho]
    exact h.injective
  · rw [hc] at hne
    rw [hp, Function.update_of_ne hne] at hph
    exact h.past n p hne hph

/-- What `beginFinalizationLocked` leaves alone. -/
structure Beside (v u : Lifecycle) : Prop where
  recordingId : u.recordingId = v.recordingId
  start : u.start = v.start
  inSession : u.inSession = v.inSession
  sessions : u.sessions = v.sessions
  current : u.current = v.current
  owner : u.owner = v.owner
  returns : u.returns = v.returns
  holder : u.holder = v.holder
  worker : u.worker = v.worker
  steady : u.steady = v.steady

theorem Begins.beside {closer : Closer} {b : BeginPc} {r : BeginResult}
    (h : v.Begins closer b r u) : v.Beside u := by
  cases h <;> exact ⟨rfl, rfl, rfl, rfl, rfl, rfl, rfl, rfl, rfl, rfl⟩

/-- It stores FINALIZING or FAULTED, or no state. -/
theorem Begins.stores {closer : Closer} {b : BeginPc} {r : BeginResult}
    (h : v.Begins closer b r u) :
    u.state = v.state ∧ u.phase = v.phase ∨
      (u.state = .finalizing ∧ b = .enter ∨ u.state = .faulted ∧ ∃ e, b = .fail e) ∧
        u.phase = Function.update v.phase v.current (some u.state) := by
  cases h with
  | enter => exact .inr ⟨.inl ⟨rfl, rfl⟩, rfl⟩
  | fail e => exact .inr ⟨.inr ⟨rfl, e, rfl⟩, rfl⟩
  | _ => exact .inl ⟨rfl, rfl⟩

theorem Begins.numbered {closer : Closer} {b : BeginPc} {r : BeginResult}
    (h : v.Begins closer b r u) (hn : v.Numbered) : u.Numbered := by
  have hk := h.beside
  rcases h.stores with ⟨hs, hp⟩ | ⟨hs, hp⟩
  · exact hn.same hs hp hk.sessions hk.current hk.owner
  · refine hn.stored ?_ hp hk.sessions hk.current hk.owner
    rcases hs with ⟨hs, -⟩ | ⟨hs, -⟩ <;> simp [hs]

/-- The recording that a restore speaks of. -/
theorem Numbered.restored_le (h : v.Numbered) (id : ByteString) :
    v.owner id = none ∧ v.restored id = v.sessions + 1 ∨
      v.owner id = some (v.restored id) ∧ v.restored id ≤ v.sessions := by
  unfold restored
  cases ho : v.owner id with
  | none => exact .inl ⟨rfl, rfl⟩
  | some n => exact .inr ⟨rfl, h.bounded id n ho⟩

theorem Numbered.restore {id : ByteString} {state : RecordingState} {start : StartLedger}
    {stop : StopLedger} (h : v.Numbered) (hs : v.state.isActive = false)
    (hd : v.state ≠ .disabled) (hst : state ≠ .idle) :
    (v.restore id state start stop).Numbered := by
  have hle := h.restored_le id
  have hcur := h.currentLe
  refine ⟨fun hi => absurd hi hst, fun _ => Function.update_self _ _ _, fun n hlt => ?_,
    fun a n ha => ?_, le_max_right _ _, fun a b n ha hb => ?_, fun n p hne hph => ?_⟩
  · have hlt : max v.sessions (v.restored id) < n := hlt
    exact (Function.update_of_ne (by omega) _ _).trans (h.fresh n (by omega))
  · change Function.update v.owner id (some (v.restored id)) a = some n at ha
    change n ≤ max v.sessions (v.restored id)
    by_cases he : a = id
    · subst he
      rw [Function.update_self] at ha
      cases ha
      exact le_max_right _ _
    · rw [Function.update_of_ne he] at ha
      exact (h.bounded a n ha).trans (le_max_left _ _)
  · change Function.update v.owner id (some (v.restored id)) a = some n at ha
    change Function.update v.owner id (some (v.restored id)) b = some n at hb
    have hother : ∀ c, c ≠ id → v.owner c ≠ some (v.restored id) := by
      intro c hc he
      have hb := h.bounded c _ he
      rcases hle with ⟨-, hr⟩ | ⟨ho, -⟩
      · omega
      · exact hc (h.injective _ _ _ he ho)
    by_cases ha' : a = id <;> by_cases hb' : b = id
    · exact ha'.trans hb'.symm
    · subst ha'
      rw [Function.update_self] at ha
      rw [Function.update_of_ne hb'] at hb
      exact absurd (hb.trans ha.symm) (hother b hb')
    · subst hb'
      rw [Function.update_self] at hb
      rw [Function.update_of_ne ha'] at ha
      exact absurd (ha.trans hb.symm) (hother a ha')
    · rw [Function.update_of_ne ha'] at ha
      rw [Function.update_of_ne hb'] at hb
      exact h.injective a b n ha hb
  · have hne : n ≠ v.restored id := hne
    change Function.update v.phase (v.restored id) (some state) n = some p at hph
    rw [Function.update_of_ne hne] at hph
    by_cases hc : n = v.current
    · subst hc
      by_cases hi : v.state = .idle
      · rw [h.idle hi] at hph
        cases hph
      · rw [h.current hi] at hph
        cases hph
        cases hv : v.state <;> simp_all [RecordingState.isActive]
    · exact h.past n p hc hph

theorem Numbered.answer (h : v.Numbered) (r : Return) : (v.answer r).Numbered :=
  h.same rfl rfl rfl rfl rfl

/-- A start opens the next recording. -/
theorem Numbered.prepare (h : v.Numbered) (hst : v.state = .idle ∨ v.state = .finalized ∨
    v.state = .faulted) (hs : v'.state = .preparing) (hn : v'.sessions = v.sessions + 1)
    (hc : v'.current = v.sessions + 1)
    (hp : v'.phase = Function.update v.phase (v.sessions + 1) (some .preparing))
    (ho : v'.owner = v.owner) : v'.Numbered := by
  refine ⟨fun hi => ?_, fun _ => ?_, fun n hlt => ?_, fun id n hid => ?_, ?_, ?_,
    fun n p hne hph => ?_⟩
  · cases hs.symm.trans hi
  · rw [hp, hc, hs, Function.update_self]
  · rw [hn] at hlt
    rw [hp, Function.update_of_ne (by omega)]
    exact h.fresh n (by omega)
  · rw [ho] at hid
    rw [hn]
    exact (h.bounded id n hid).trans (Nat.le_succ _)
  · rw [hc, hn]
  · rw [ho]
    exact h.injective
  · rw [hc] at hne
    rw [hp, Function.update_of_ne hne] at hph
    by_cases he : n = v.current
    · subst he
      rcases hst with hi | hi | hi
      · rw [h.idle hi] at hph
        cases hph
      · rw [h.current (by simp [hi]), hi] at hph
        cases hph
        exact .inl rfl
      · rw [h.current (by simp [hi]), hi] at hph
        cases hph
        exact .inr rfl
    · exact h.past n p he hph

end Lifecycle

theorem inactive_of_quiet {k : Core} (h : k.Quiet) :
    k.state.isActive = false ∧ k.state ≠ .disabled := by
  rcases h.2.2 with hs | hs | hs <;> simp [hs, RecordingState.isActive]

/-- A settled recorder that neither records nor finalizes has no recording in progress. -/
theorem Core.Settled.inactive_of_stopped {k : Core} (h : k.Settled) (hr : k.state ≠ .recording)
    (hf : k.state ≠ .finalizing) : k.state.isActive = false ∧ k.state ≠ .disabled := by
  rcases h.cases with ⟨hs, -⟩ | ⟨ho, -⟩ | ⟨hc, -⟩ | ⟨hs | hs, -⟩
  · simp [hs, RecordingState.isActive]
  · exact absurd ho.1 hr
  · exact absurd hc.1 hf
  · simp [hs, RecordingState.isActive]
  · simp [hs, RecordingState.isActive]

section Steps
variable {setup : Setup} {s : System} {v' : Lifecycle}

theorem numbered_next (hk : s.core.Control) (h : s.lifecycle.Numbered)
    (hown : s.lifecycle.Owned)
    (hn : s.lifecycle.Next v') : v'.Numbered := by
  cases hn with
  | startRestored hh =>
    have hq : s.core.Quiet := hk.call hh
    refine (h.restore (inactive_of_quiet hq).1 (inactive_of_quiet hq).2 ?_).answer _
    split <;> simp
  | stopRestored hh hfin hs =>
    have hst : s.core.Settled := hk.call hh
    have hin := hst.inactive_of_stopped hs.1 hs.2
    refine (h.restore hin.1 hin.2 ?_).answer _
    simp
  | prepare hh hw =>
    have hq : s.core.Quiet := hk.call hh
    exact h.prepare hq.2.2 rfl rfl rfl rfl rfl
  | @create request canonical paths hh hw hs hp p =>
    have hfree := hown.unowned _ _ _ hh
    refine ⟨h.idle, h.current, h.fresh, fun id n hid => ?_, h.currentLe, fun a b n ha hb => ?_, h.past⟩
    · change Function.update s.history.owner _ _ id = some n at hid
      by_cases he : id = request.recordingId
      · rw [he, Function.update_self] at hid
        cases hid
        exact h.currentLe
      · rw [Function.update_of_ne he] at hid
        exact h.bounded id n hid
    · change Function.update s.history.owner _ _ a = some n at ha
      change Function.update s.history.owner _ _ b = some n at hb
      by_cases ha' : a = request.recordingId <;> by_cases hb' : b = request.recordingId
      · exact ha'.trans hb'.symm
      · rw [ha', Function.update_self] at ha
        rw [Function.update_of_ne hb'] at hb
        exact absurd (hb.trans ha.symm) (hfree b)
      · rw [hb', Function.update_self] at hb
        rw [Function.update_of_ne ha'] at ha
        exact absurd (ha.trans hb.symm) (hfree a)
      · rw [Function.update_of_ne ha'] at ha
        rw [Function.update_of_ne hb'] at hb
        exact h.injective a b n ha hb
  | record hh hs => exact h.stored nofun rfl rfl rfl rfl
  | startFailed hh hw hs => exact h.stored nofun rfl rfl rfl rfl
  | shutdownCatch hh hs => exact h.stored nofun rfl rfl rfl rfl
  | finalized hh hw hpc => exact h.stored nofun rfl rfl rfl rfl
  | faulted hh hw hpc => exact h.stored nofun rfl rfl rfl rfl
  | beginPoint hh hc hc' hf hb => exact (hb.numbered h).same rfl rfl rfl rfl rfl
  | beginFinished rs hh hc hf hb => exact (hb.numbered h).same rfl rfl rfl rfl rfl
  | beginFailed h' rs hh hc hb => exact (hb.numbered h).same rfl rfl rfl rfl rfl
  | workBegin hh hw hpc hid hin hb => exact (hb.numbered h).same rfl rfl rfl rfl rfl
  | workFinished hh hw hpc hid hin hb => exact (hb.numbered h).same rfl rfl rfl rfl rfl
  | workFailed hh hw hpc hid hin hb => exact (hb.numbered h).same rfl rfl rfl rfl rfl
  | exit => exact ⟨fun _ _ => rfl, fun hi => absurd rfl hi, fun _ _ => rfl, nofun, h.currentLe, nofun,
      nofun⟩
  | _ => exact h.same rfl rfl rfl rfl rfl

/-- A call that closes a recording is no start. -/
theorem not_start_of_closing {call : Call} {r : Closer × BeginPc} (h : call.closing = some r) :
    call.preparing = none ∧ call.building = none := by
  cases call with
  | stopBegin | shutdownBegin => exact ⟨rfl, rfl⟩
  | _ => cases h

theorem owned_next (h : s.lifecycle.Numbered) (ho : s.lifecycle.Owned)
    (hn : s.lifecycle.Next v') : v'.Owned := by
  have hkeep : ∀ {u : Lifecycle}, u.current = s.lifecycle.current → u.owner = s.lifecycle.owner →
      u.holder = s.lifecycle.holder → u.Owned := fun hc how hh =>
    ho.same hc how fun c hc' => .inr ⟨c, hh ▸ hc', .inr rfl, .inr rfl⟩
  cases hn with
  | tick | reject | joined | work => exact hkeep rfl rfl rfl
  | enter call closed hh hs hc hcl =>
    refine ho.same rfl rfl ?_
    rintro _ ⟨⟩
    refine .inl ⟨?_, ?_⟩
    · by_contra hne
      obtain ⟨r, hr⟩ := Option.ne_none_iff_exists'.mp hne
      exact hs r (.inl hr)
    · by_contra hne
      obtain ⟨r, hr⟩ := Option.ne_none_iff_exists'.mp hne
      exact hs r (.inr hr)
  | answer | repeated | await | startRestored | stopRestored | started | shutdownCatch | exit
  | beginFinished => exact .of_free rfl
  | proceed d hh hf =>
    refine ho.same rfl rfl ?_
    rintro _ ⟨⟩
    exact .inr ⟨_, hh, hf.preparing, hf.building⟩
  | startJoined | startFailed =>
    refine ho.same rfl rfl ?_
    rintro _ ⟨⟩
    exact .inl ⟨rfl, rfl⟩
  | prepare hh hw habsent p =>
    refine ⟨fun request canonical p hp id hid => ?_, ?_⟩
    · have hle := h.bounded id _ hid
      exact absurd hle (Nat.not_succ_le_self _)
    · rintro _ _ ⟨⟩ ⟨⟩
  | create hh hw hs hp p =>
    refine ⟨nofun, ?_⟩
    rintro _ _ ⟨⟩ ⟨⟩
    exact Function.update_self _ _ _
  | publish hh | spawn hh | record hh =>
    refine ho.same rfl rfl ?_
    rintro _ ⟨⟩
    exact .inr ⟨_, hh, .inr rfl, .inr rfl⟩
  | beginPoint hh hc hc' hf hb =>
    refine ho.same hb.beside.current hb.beside.owner ?_
    rintro _ ⟨⟩
    exact .inl (not_start_of_closing hc')
  | beginFailed h' rs hh hc hb hh' =>
    rcases hh' with rfl | rfl
    · exact .of_free rfl
    · exact ⟨nofun, nofun⟩
  | workBegin hh hw hpc hid hin hb | workFinished hh hw hpc hid hin hb
  | workFailed hh hw hpc hid hin hb => exact .of_free (hb.beside.holder.trans hh)
  | finalized hh | faulted hh => exact .of_free hh

theorem numbered_reachable {ok : System → Event → System → Prop}
    (h : Reach (IsInitial setup) (System.step setup) ok s) :
    s.lifecycle.Numbered ∧ s.lifecycle.Owned := by
  refine lifecycle_reachable (fun v => v.Numbered ∧ v.Owned) (fun machine => ?_)
    (fun s e t hk _ hi _ hn => ⟨numbered_next hk hi.1 hi.2 hn, owned_next hi.1 hi.2 hn⟩) h
  exact ⟨⟨fun _ _ => rfl, fun hi => absurd rfl hi, fun _ _ => rfl, nofun, le_rfl, nofun, nofun⟩,
    .of_free rfl⟩

end Steps

end NodusVision.Manager
