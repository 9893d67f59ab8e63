import NodusVision.Manager.Places

/-! What the phases of the recordings of one process do from step to step. -/
namespace NodusVision.Manager
open Text Storage Disk Program Recording RecordingStore Transition

/-- The changes of the state of one recording; a lookup finds an artifact of an earlier process. -/
inductive PhaseMove : Option RecordingState → Option RecordingState → Prop
  | same (p : Option RecordingState) : PhaseMove p p
  | found {p : RecordingState} (h : p = .finalized ∨ p = .faulted) : PhaseMove none (some p)
  | prepare : PhaseMove none (some .preparing)
  | record : PhaseMove (some .preparing) (some .recording)
  | close : PhaseMove (some .recording) (some .finalizing)
  | finalize : PhaseMove (some .finalizing) (some .finalized)
  | fail {p : RecordingState} (h : p = .preparing ∨ p = .recording ∨ p = .finalizing) :
      PhaseMove (some p) (some .faulted)

/-- FINALIZED and FAULTED are terminal. -/
theorem PhaseMove.terminal {p : RecordingState} {q : Option RecordingState}
    (h : PhaseMove (some p) q) (hp : p = .finalized ∨ p = .faulted) : q = some p := by
  cases h with
  | same => rfl
  | fail hf =>
    rcases hp with rfl | rfl
    · simp at hf
    · rfl
  | _ => simp at hp

namespace Lifecycle
variable {v v' u : Lifecycle}

/-- A recording that owns an artifact has it on the disk. -/
structure Named (v : Lifecycle) : Prop where
  kept : ∀ id n, v.owner id = some n → ∃ m, v.disk (.artifact m id) ≠ none
  phased : ∀ id n, v.owner id = some n → v.phase n ≠ none
  unnamed : ∀ call request, v.holder = some call → call.preparing = some request →
    v.owner request.recordingId = none

theorem exists_artifact_lawful {d d' : Disk} {id : ByteString} (hwf : d.WellFormed)
    (hl : d.Lawful d') (h : ∃ m, d (.artifact m id) ≠ none) : ∃ m, d' (.artifact m id) ≠ none := by
  have hp := (hl hwf).2
  obtain ⟨m, hm⟩ := h
  cases m with
  | finalized =>
    have hf := (hp.finalized id hm).1
    exact ⟨.finalized, hf ▸ hm⟩
  | staging =>
    obtain ⟨m', hm', -⟩ := hp.staging id hm
    exact ⟨m', hm'⟩

/-- Phases may change but none is forgotten, and no recording gets another artifact. -/
theorem Named.same (h : v.Named) (hwf : v.disk.WellFormed) (hl : v.disk.Lawful v'.disk)
    (ho : v'.owner = v.owner) (hp : ∀ n, v.phase n ≠ none → v'.phase n ≠ none)
    (hh : ∀ call' request, v'.holder = some call' → call'.preparing = some request →
      ∃ call, v.holder = some call ∧ call.preparing = some request) : v'.Named := by
  constructor
  · intro id n hid
    rw [ho] at hid
    exact exists_artifact_lawful hwf hl (h.kept id n hid)
  · intro id n hid
    rw [ho] at hid
    exact hp n (h.phased id n hid)
  · intro call' request hc' hr'
    obtain ⟨call, hc, hr⟩ := hh call' request hc' hr'
    rw [ho]
    exact h.unnamed call request hc hr

theorem Begins.lawful {closer : Closer} {b : BeginPc} {r : BeginResult}
    (h : v.Begins closer b r u) : v.disk.Lawful u.disk := by
  cases h with
  | write d p p' hd => exact hd.1
  | _ => exact .refl _

theorem update_ne_none {f : ℕ → Option RecordingState} {k n : ℕ} {p : RecordingState}
    (h : f n ≠ none) : Function.update f k (some p) n ≠ none := by
  by_cases hk : n = k
  · rw [hk, Function.update_self]
    exact Option.some_ne_none p
  · rw [Function.update_of_ne hk]
    exact h

theorem Begins.phased {closer : Closer} {b : BeginPc} {r : BeginResult} {n : ℕ}
    (h : v.Begins closer b r u) (hp : v.phase n ≠ none) : u.phase n ≠ none := by
  rcases h.stores with ⟨-, hsame⟩ | ⟨-, hstored⟩
  · rw [hsame]
    exact hp
  · rw [hstored]
    exact update_ne_none hp

/-- A recording comes to own an artifact that is on the disk. -/
theorem Named.owned {id : ByteString} {n : ℕ} (h : v.Named) (hd : v'.disk = v.disk)
    (ho : v'.owner = Function.update v.owner id (some n))
    (hp : ∀ k, v.phase k ≠ none → v'.phase k ≠ none) (hn : v'.phase n ≠ none)
    (hid : ∃ m, v.disk (.artifact m id) ≠ none)
    (hh : ∀ call, v'.holder = some call → call.preparing = none) : v'.Named := by
  constructor
  · intro i k hi
    rw [hd]
    rw [ho] at hi
    by_cases he : i = id
    · rw [he]
      exact hid
    · rw [Function.update_of_ne he] at hi
      exact h.kept i k hi
  · intro i k hi
    rw [ho] at hi
    by_cases he : i = id
    · rw [he, Function.update_self] at hi
      cases hi
      exact hn
    · rw [Function.update_of_ne he] at hi
      exact hp k (h.phased i k hi)
  · intro call request hc hr
    cases (hh call hc).symm.trans hr

/-- What a step within one process does to the recordings. -/
structure Moved (v v' : Lifecycle) : Prop where
  phase : ∀ n, PhaseMove (v.phase n) (v'.phase n)
  owner : ∀ id n, v.owner id = some n → v'.owner id = some n

theorem Moved.same (hp : v'.phase = v.phase) (ho : v'.owner = v.owner) : v.Moved v' := by
  constructor
  · intro n
    rw [hp]
    exact .same _
  · intro id n hid
    rw [ho]
    exact hid

theorem Moved.stored {n : ℕ} {p : RecordingState} (hm : PhaseMove (v.phase n) (some p))
    (hp : v'.phase = Function.update v.phase n (some p)) (ho : v'.owner = v.owner) :
    v.Moved v' := by
  constructor
  · intro k
    rw [hp]
    by_cases hk : k = n
    · rw [hk, Function.update_self]
      exact hm
    · rw [Function.update_of_ne hk]
      exact .same _
  · intro id k hid
    rw [ho]
    exact hid

/-- A lookup finds the artifact where the recording has left it. -/
theorem Moved.restored {id : ByteString} {state : RecordingState} {start : StartLedger}
    {stop : StopLedger} (hn : v.Numbered) (hpl : v.Placed)
    (hst : v.state = .idle ∨ v.state = .finalized ∨ v.state = .faulted)
    (hfound : state = .finalized ∧ Finalized v.disk id ∨
      state = .faulted ∧ ¬Finalized v.disk id) :
    v.Moved (v.restore id state start stop) := by
  have hmove : PhaseMove (v.phase (v.restored id)) (some state) := by
    cases hp : v.phase (v.restored id) with
    | none =>
      refine .found ?_
      rcases hfound with ⟨hs, -⟩ | ⟨hs, -⟩
      · exact .inl hs
      · exact .inr hs
    | some p =>
      have hown : v.owner id = some (v.restored id) := by
        rcases hn.restored_le id with ⟨-, hr⟩ | ⟨hown, -⟩
        · rw [hr, hn.fresh _ (Nat.lt_succ_self _)] at hp
          cases hp
        · exact hown
      have hended : p = .finalized ∨ p = .faulted := by
        by_cases hcur : v.restored id = v.current
        · rw [hcur] at hp
          have hne : v.state ≠ .idle := by
            intro hi
            rw [hn.idle hi] at hp
            cases hp
          rw [hn.current hne] at hp
          cases hp
          exact hst.resolve_left hne
        · exact hn.past _ p hcur hp
      have hsame : p = state := by
        rcases hended with rfl | rfl <;> rcases hfound with ⟨rfl, hf⟩ | ⟨rfl, hf⟩
        · rfl
        · exact absurd (hpl.finalized id _ hown hp) hf
        · exact absurd hf (hpl.unfinished id _ _ hown hp (by decide) (by decide))
        · rfl
      rw [hsame]
      exact .same _
  constructor
  · intro n
    change PhaseMove (v.phase n) (Function.update v.phase (v.restored id) (some state) n)
    by_cases hk : n = v.restored id
    · rw [hk, Function.update_self]
      exact hmove
    · rw [Function.update_of_ne hk]
      exact .same _
  · intro i n hi
    change Function.update v.owner id (some (v.restored id)) i = some n
    by_cases he : i = id
    · rw [he] at hi ⊢
      have hsame : v.restored id = n := by
        show (v.owner id).getD (v.sessions + 1) = n
        rw [hi]
        rfl
      rw [Function.update_self, hsame]
    · rw [Function.update_of_ne he]
      exact hi

end Lifecycle

section Steps
variable {setup : Setup} {s t : System} {v' : Lifecycle}

open Lifecycle

theorem named_next (hs : s.Storage setup) (hn : s.lifecycle.Numbered)
    (h : s.lifecycle.Named) (hnext : s.lifecycle.Next v') : v'.Named := by
  have hwf : s.lifecycle.disk.WellFormed := hs.wellFormed
  have hkeep : ∀ {u : Lifecycle}, u.disk = s.lifecycle.disk → u.owner = s.lifecycle.owner →
      (∀ n, s.lifecycle.phase n ≠ none → u.phase n ≠ none) →
      (∀ call, u.holder = some call → call.preparing = none) → u.Named := by
    intro u hd ho hp hh
    refine h.same hwf ?_ ho hp fun call request hc hr => ?_
    · rw [hd]
      exact .refl _
    · cases (hh call hc).symm.trans hr
  cases hnext with
  | tick | reject | joined =>
    exact h.same hwf (.refl _) rfl (fun _ hp => hp) fun call request hc hr => ⟨call, hc, hr⟩
  | work d hw hm hch =>
    exact h.same hwf hch.1 rfl (fun _ hp => hp) fun call request hc hr => ⟨call, hc, hr⟩
  | enter call closed hh hst =>
    refine hkeep rfl rfl (fun _ hp => hp) ?_
    rintro _ ⟨⟩
    by_contra hne
    obtain ⟨r, hr⟩ := Option.ne_none_iff_exists'.mp hne
    exact hst r (.inl hr)
  | answer | repeated | await | started =>
    exact hkeep rfl rfl (fun _ hp => hp) fun _ hc => by cases hc
  | proceed d hh hf hd =>
    refine h.same hwf hd.1 rfl (fun _ hp => hp) ?_
    rintro _ request ⟨⟩ hr
    rcases hf.preparing with hp | hp
    · cases hp.symm.trans hr
    · exact ⟨_, hh, hp.symm.trans hr⟩
  | startJoined =>
    refine hkeep rfl rfl (fun _ hp => hp) ?_
    rintro _ ⟨⟩
    rfl
  | @startRestored request canonical artifact hh hw hc heq hheld =>
    refine h.owned rfl rfl (fun _ hp => update_ne_none hp) ?_ ⟨place artifact.finalized, ?_⟩
      fun _ hc => by cases hc
    · change Function.update s.lifecycle.phase _ _ _ ≠ none
      rw [Function.update_self]
      exact Option.some_ne_none _
    · rw [hheld.directory]
      exact Option.some_ne_none _
  | stopRestored hh hfin hst hv heq hheld =>
    refine h.owned rfl rfl (fun _ hp => update_ne_none hp) ?_ ⟨.finalized, ?_⟩ fun _ hc => by cases hc
    · change Function.update s.lifecycle.phase _ _ _ ≠ none
      rw [Function.update_self]
      exact Option.some_ne_none _
    · rw [hheld.directory]
      exact Option.some_ne_none _
  | @prepare request canonical hh hw habsent p =>
    have hfree : s.lifecycle.owner request.recordingId = none := by
      by_contra hne
      obtain ⟨n, ho⟩ := Option.ne_none_iff_exists'.mp hne
      obtain ⟨m, hm⟩ := h.kept _ n ho
      exact hm (habsent m)
    constructor
    · exact h.kept
    · intro id n hid
      exact update_ne_none (h.phased id n hid)
    · rintro _ _ ⟨⟩ ⟨⟩
      exact hfree
  | @create request canonical paths hh hw hst hp p =>
    refine h.owned rfl rfl (fun _ hp => hp) ?_ ⟨.staging, ?_⟩ ?_
    · have hcur := hn.current (by rw [hst]; decide)
      rw [hcur]
      exact Option.some_ne_none _
    · rw [hp.staging]
      exact Option.some_ne_none _
    · rintro _ ⟨⟩
      rfl
  | publish | spawn =>
    refine hkeep rfl rfl (fun _ hp => hp) ?_
    rintro _ ⟨⟩
    rfl
  | record | startFailed =>
    refine hkeep rfl rfl (fun _ hp => update_ne_none hp) ?_
    rintro _ ⟨⟩
    rfl
  | shutdownCatch =>
    exact hkeep rfl rfl (fun _ hp => update_ne_none hp) fun _ hc => by cases hc
  | beginPoint hh hc hc' hf hb =>
    refine h.same hwf hb.lawful hb.beside.owner (fun _ hp => hb.phased hp) ?_
    rintro _ request ⟨⟩ hr
    cases (not_start_of_closing hc').1.symm.trans hr
  | beginFinished rs hh hc hf hb =>
    exact h.same hwf hb.lawful hb.beside.owner (fun _ hp => hb.phased hp) fun _ _ hc => by cases hc
  | beginFailed h' rs hh hc hb hh' =>
    refine h.same hwf hb.lawful hb.beside.owner (fun _ hp => hb.phased hp) ?_
    intro call request hc hr
    rcases hh' with rfl | rfl <;> cases hc
    cases hr
  | workBegin hh hw hpc hid hin hb | workFinished hh hw hpc hid hin hb
  | workFailed hh hw hpc hid hin hb =>
    refine h.same hwf hb.lawful hb.beside.owner (fun _ hp => hb.phased hp) fun call _ hc => ?_
    cases (hb.beside.holder.trans hh).symm.trans hc
  | finalized hh | faulted hh =>
    exact hkeep rfl rfl (fun _ hp => update_ne_none hp) fun call hc => by cases hh.symm.trans hc
  | exit =>
    constructor
    · intro id n hid
      cases hid
    · intro id n hid
      cases hid
    · intro call request hc
      cases hc

/-- The phases follow the order of a recording, and its artifact keeps its owner. -/
theorem moved_next (hk : s.core.Control) (hs : s.Storage setup) (hpr : s.lifecycle.Pressed)
    (hn : s.lifecycle.Numbered) (hna : s.lifecycle.Named) (h : s.lifecycle.Placed)
    (hidle : v'.state = .idle → s.lifecycle.state = .idle) (hnext : s.lifecycle.Next v') :
    s.lifecycle.Moved v' := by
  have hphase : ∀ p, s.lifecycle.state = p → p ≠ .idle →
      s.lifecycle.phase s.lifecycle.current = some p := by
    intro p hp hne
    rw [← hp]
    exact hn.current (hp ▸ hne)
  have hfresh := hn.fresh _ (Nat.lt_succ_self s.lifecycle.sessions)
  have hclose : ∀ {b : BeginPc} {closer : Closer} {r : BeginResult} {u : Lifecycle},
      b.Flags s.core → s.lifecycle.Begins closer b r u →
      ∀ v', v'.phase = u.phase → v'.owner = u.owner → s.lifecycle.Moved v' := by
    intro b closer r u hflags hb v' hp ho
    cases hb with
    | enter =>
      refine .stored ?_ hp ho
      have hcur := hphase .recording hflags.1 (by decide)
      rw [hcur]
      exact .close
    | fail =>
      refine .stored ?_ hp ho
      have hcur := hphase .finalizing hflags.1 (by decide)
      rw [hcur]
      exact .fail (.inr (.inr rfl))
    | _ => exact .same hp ho
  cases hnext with
  | tick | enter | reject | answer | repeated | proceed | await | joined | startJoined | publish
  | spawn | started | work => exact .same rfl rfl
  | @startRestored request canonical artifact hh hw hc heq hheld =>
    have hq : s.core.Quiet := hk.call hh
    have hmoved : s.lifecycle.Moved (s.lifecycle.restore request.recordingId
        (if artifact.finalized then .finalized else .faulted) ⟨request.requestId, canonical⟩
        {}) := by
      refine .restored hn h hq.2.2 ?_
      cases hf : artifact.finalized with
      | true =>
        rw [hf] at hheld
        exact .inl ⟨rfl, hheld.directory⟩
      | false =>
        rw [hf] at hheld
        have hdir : Staged s.machine.disk request.recordingId := hheld.directory
        refine .inr ⟨rfl, fun hf => ?_⟩
        cases (hdir.not_finalized hs.wellFormed).symm.trans hf
    exact ⟨hmoved.phase, hmoved.owner⟩
  | @stopRestored request artifact hh hfin hst hv heq hheld =>
    have hset : s.core.Settled := hk.call hh
    have hend := (hset.inactive (hset.inactive_of_stopped hst.1 hst.2).1).2
    have hmoved : s.lifecycle.Moved (s.lifecycle.restore request.recordingId .finalized {}
        ⟨request.requestId, canonicalStop request, .requested⟩) :=
      .restored hn h hend (.inl ⟨rfl, hheld.directory⟩)
    exact ⟨hmoved.phase, hmoved.owner⟩
  | prepare =>
    refine .stored ?_ rfl rfl
    rw [hfresh]
    exact .prepare
  | @create request canonical paths hh hw hst hp p =>
    have hfree := hna.unnamed _ request hh rfl
    constructor
    · intro n
      exact .same _
    · intro id n hid
      change Function.update s.lifecycle.owner _ _ id = some n
      rw [Function.update_of_ne]
      · exact hid
      · rintro rfl
        cases hfree.symm.trans hid
  | record hh hst =>
    refine .stored ?_ rfl rfl
    rw [hphase _ hst (by decide)]
    exact .record
  | startFailed hh hw hst =>
    refine .stored ?_ rfl rfl
    rw [hphase _ hst (by decide)]
    exact .fail (.inl rfl)
  | beginPoint hh hc hc' hf hb | beginFinished rs hh hc hf hb | beginFailed h' rs hh hc hb =>
    exact hclose (closing_control hk hh hc).2 hb _ rfl rfl
  | shutdownCatch hh hst =>
    refine .stored ?_ rfl rfl
    rw [hphase _ hst (by decide)]
    exact .same _
  | workBegin hh hw hpc hid hin hb | workFinished hh hw hpc hid hin hb
  | workFailed hh hw hpc hid hin hb =>
    exact hclose (begin_flags hk hh hw hpc) hb _ rfl rfl
  | finalized hh hw hpc =>
    have hst := finalizing_of_closing hk hpr hw hpc (fun hc => by cases hc)
    refine .stored ?_ rfl rfl
    rw [hphase _ hst (by decide)]
    exact .finalize
  | @faulted w hh hw hpc =>
    have hset : s.core.Settled := by
      refine hk.settled hh fun u hu => ?_
      cases hu.symm.trans hw
      rw [hpc]
      rfl
    refine .stored ?_ rfl rfl
    rcases hset.cases with ⟨-, hnone, -⟩ | ⟨ho, -⟩ | ⟨hc, -⟩ | ⟨hf | hf, -⟩
    · cases hnone.symm.trans hw
    · rw [hphase _ ho.1 (by decide)]
      exact .fail (.inr (.inl rfl))
    · rw [hphase _ hc.1 (by decide)]
      exact .fail (.inr (.inr rfl))
    · have hdead := h.rested hf w hw
      rw [hpc] at hdead
      cases hdead
    · rw [hphase _ hf (by decide)]
      exact .same _
  | exit =>
    have hi := hidle rfl
    constructor
    · intro n
      rw [hn.idle hi]
      exact .same _
    · intro id n hid
      exact absurd (hn.idle hi n) (hna.phased id n hid)

end Steps

end NodusVision.Manager
