import NodusVision.Manager.Reports

/-! The phase of a recording of this process, and the place of its artifact. -/
namespace NodusVision.Manager
open Text Storage Disk Program Recording RecordingStore Transition

namespace Lifecycle
variable {v v' u : Lifecycle}

/-- Where the artifact of a recording is, by its phase. -/
structure Placed (v : Lifecycle) : Prop where
  owned : ∀ w, v.worker = some w → w.pc.isLive = true → v.owner w.recordingId = some v.current
  rested : v.state = .finalized → ∀ w, v.worker = some w → w.pc.isLive = false
  finalized : ∀ id n, v.owner id = some n → v.phase n = some .finalized → Finalized v.disk id
  unfinished : ∀ id n p, v.owner id = some n → v.phase n = some p → p ≠ .finalizing →
    p ≠ .finalized → ¬Finalized v.disk id

/-- No phase changes and no artifact is finalized. -/
theorem Placed.same (h : v.Placed) (hd : KeepsFinal v.disk v'.disk) (hp : v'.phase = v.phase)
    (ho : v'.owner = v.owner) (hc : v'.current = v.current)
    (hst : v'.state = .finalized → v.state = .finalized)
    (hw : ∀ w, v'.worker = some w → w.pc.isLive = true →
      ∃ w', v.worker = some w' ∧ w'.pc.isLive = true ∧ w'.recordingId = w.recordingId) :
    v'.Placed := by
  constructor
  · intro w hw' hlive
    obtain ⟨w', hv, hlive', hid⟩ := hw w hw' hlive
    rw [ho, hc, ← hid]
    exact h.owned w' hv hlive'
  · intro hf w hw'
    by_contra hlive
    obtain ⟨w', hv, hlive', -⟩ := hw w hw' (eq_true_of_ne_false hlive)
    cases (h.rested (hst hf) w' hv).symm.trans hlive'
  · intro id n hid hn
    rw [ho] at hid
    rw [hp] at hn
    exact hd.finalized (h.finalized id n hid hn)
  · intro id n p hid hn hne hne'
    rw [ho] at hid
    rw [hp] at hn
    exact hd.not_finalized (h.unfinished id n p hid hn hne hne')

/-- The current recording takes another phase. -/
theorem Placed.stored {p : RecordingState} (h : v.Placed) (hd : KeepsFinal v.disk v'.disk)
    (hp : v'.phase = Function.update v.phase v.current (some p)) (ho : v'.owner = v.owner)
    (hc : v'.current = v.current)
    (hw : ∀ w, v'.worker = some w → w.pc.isLive = true →
      ∃ w', v.worker = some w' ∧ w'.pc.isLive = true ∧ w'.recordingId = w.recordingId)
    (hrest : v'.state = .finalized → ∀ w, v'.worker = some w → w.pc.isLive = false)
    (hfin : p = .finalized → ∀ id, v.owner id = some v.current → Finalized v.disk id)
    (hunf : p ≠ .finalizing → p ≠ .finalized → ∀ id, v.owner id = some v.current →
      ¬Finalized v.disk id) : v'.Placed := by
  constructor
  · intro w hw' hlive
    obtain ⟨w', hv, hlive', hid⟩ := hw w hw' hlive
    rw [ho, hc, ← hid]
    exact h.owned w' hv hlive'
  · exact hrest
  · intro id n hid hn
    rw [ho] at hid
    rw [hp] at hn
    by_cases hcur : n = v.current
    · rw [hcur] at hid hn
      rw [Function.update_self] at hn
      exact hd.finalized (hfin (Option.some.inj hn) id hid)
    · rw [Function.update_of_ne hcur] at hn
      exact hd.finalized (h.finalized id n hid hn)
  · intro id n q hid hn hne hne'
    rw [ho] at hid
    rw [hp] at hn
    by_cases hcur : n = v.current
    · rw [hcur] at hid hn
      rw [Function.update_self] at hn
      cases hn
      exact hd.not_finalized (hunf hne hne' id hid)
    · rw [Function.update_of_ne hcur] at hn
      exact hd.not_finalized (h.unfinished id n q hid hn hne hne')

/-- The artifact that a restore finds. -/
theorem Placed.restore {id : ByteString} {state : RecordingState} {start : StartLedger}
    {stop : StopLedger} (h : v.Placed) (hn : v.Numbered)
    (hdead : ∀ w, v.worker = some w → w.pc.isLive = false)
    (hfin : state = .finalized → Finalized v.disk id)
    (hunf : state ≠ .finalized → ¬Finalized v.disk id) :
    (v.restore id state start stop).Placed := by
  have hother : ∀ i n, i ≠ id → v.owner i = some n → n ≠ v.restored id := by
    rintro i n hi ho rfl
    rcases hn.restored_le id with ⟨-, hr⟩ | ⟨hown, -⟩
    · have hle := hn.bounded i _ ho
      omega
    · exact hi (hn.injective _ _ _ ho hown)
  constructor
  · intro w hw hlive
    cases (hdead w hw).symm.trans hlive
  · intro _ w hw
    exact hdead w hw
  · intro i n hid hph
    change Function.update v.owner id (some (v.restored id)) i = some n at hid
    change Function.update v.phase (v.restored id) (some state) n = some .finalized at hph
    by_cases hi : i = id
    · rw [hi, Function.update_self] at hid
      cases hid
      rw [Function.update_self] at hph
      rw [hi]
      exact hfin (Option.some.inj hph)
    · rw [Function.update_of_ne hi] at hid
      rw [Function.update_of_ne (hother i n hi hid)] at hph
      exact h.finalized i n hid hph
  · intro i n p hid hph hne hne'
    change Function.update v.owner id (some (v.restored id)) i = some n at hid
    change Function.update v.phase (v.restored id) (some state) n = some p at hph
    by_cases hi : i = id
    · rw [hi, Function.update_self] at hid
      cases hid
      rw [Function.update_self] at hph
      cases hph
      rw [hi]
      exact hunf hne'
    · rw [Function.update_of_ne hi] at hid
      rw [Function.update_of_ne (hother i n hi hid)] at hph
      exact h.unfinished i n p hid hph hne hne'

/-- The current recording has one artifact, that of its worker. -/
theorem not_finalized_of_owner {w : Worker} {id : ByteString} (h : v.Placed) (hn : v.Numbered)
    (hw : v.worker = some w) (hlive : w.pc.isLive = true)
    (hfree : ¬Finalized v.disk w.recordingId) (hid : v.owner id = some v.current) :
    ¬Finalized v.disk id := by
  have howned := h.owned w hw hlive
  rw [hn.injective id w.recordingId v.current hid howned]
  exact hfree

end Lifecycle

/-- Only the activation of the worker finalizes an artifact. -/
theorem WorkerPc.writes_keep {pc : WorkerPc} (h : ∀ p, pc ≠ .closing (.activate p))
    (recordingId id : ByteString) :
    ManagedPath.artifact .finalized id ∉ pc.writes recordingId := by
  cases pc with
  | closing k =>
    cases k with
    | manifest => exact written_keeps recordingId .manifest id
    | activate p => exact absurd rfl (h p)
    | _ => exact outputs_keep id
  | _ => exact outputs_keep id

section Steps
variable {setup : Setup} {s t : System} {v' : Lifecycle}

open Lifecycle

/-- Past its first deadline check the worker finalizes the current recording. -/
theorem finalizing_of_closing {w : Worker} {k : ClosingPc} (hk : s.core.Control)
    (h : s.lifecycle.Pressed) (hw : s.worker = some w) (hpc : w.pc = .closing k)
    (hfirst : k ≠ .deadline1) : s.impl.state = .finalizing := by
  have hnot : w.pc.inLoop = false := by
    rw [hpc]
    rfl
  have hlive : w.pc.isLive = true := by
    rw [hpc]
    rfl
  have hat : ¬s.core.WorkerAt WorkerPc.inLoop := by
    rintro ⟨u, hu, hin, -⟩
    cases hw.symm.trans hu
    cases hnot.symm.trans hin
  have hsettled : s.core.Settled → s.impl.state = .finalizing := by
    intro hset
    rcases hset.cases with ⟨-, hnone, -⟩ | ⟨-, hin⟩ | ⟨hc, -⟩ | ⟨hend, -⟩
    · cases hw.symm.trans hnone
    · exact absurd hin hat
    · exact hc.1
    · -- the worker of an ended recording never passes that check
      rcases h.doomed w hw hlive hend with hf | ⟨-, hin | hd⟩
      · cases hpc.symm.trans hf
      · cases hnot.symm.trans hin
      · exact absurd (WorkerPc.closing.inj (hpc.symm.trans hd)) hfirst
  cases hh : s.holder with
  | none =>
    refine hsettled (hk.settled hh fun u hu => ?_)
    cases hw.symm.trans hu
    rw [hpc]
    rfl
  | some call =>
    have hc := hk.call hh
    cases call with
    | startEntered | stopEntered | stopLookup | shutdownEntered => exact hsettled hc
    | startJoining => exact hsettled hc.1
    | startLookup | destroying | startRethrow | startFailed => cases hw.symm.trans hc.1
    | startPreparing | startWriter | startReleaseWriter | startSidecar | startReleaseSidecar
    | startPublish | startSpawn => cases hw.symm.trans hc.1.1
    | startRecording | startAdmit =>
      cases hw.symm.trans hc.1
      cases hpc
    | stopBegin | shutdownBegin | shutdownCatch => exact absurd hc.1 hat

/-- Before its closing the worker has renamed nothing. -/
theorem not_finalized_of_inLoop {w : Worker} (hs : s.Storage setup) (h : s.lifecycle.Attended)
    (hw : s.worker = some w) (hin : w.pc.inLoop = true) :
    ¬Finalized s.machine.disk w.recordingId := by
  by_cases hpc : w.pc = .fault
  · exact h.failing w hw hpc
  · apply staged_not_finalized hs
    refine staged_of_worker hs hw (isLive_of_inLoop hin) hpc ?_ ?_
    · intro p hp
      rw [hp] at hin
      cases hin
    · intro hp
      rw [hp] at hin
      cases hin

theorem placed_next (hk : s.core.Control) (hs : s.Storage setup) (hatt : s.lifecycle.Attended)
    (hpr : s.lifecycle.Pressed) (hn : s.lifecycle.Numbered) (hown : s.lifecycle.Owned)
    (h : s.lifecycle.Placed) (hok : ¬s.lifecycle.Displaces) (hnext : s.lifecycle.Next v') :
    v'.Placed := by
  have hstay : ∀ w, s.lifecycle.worker = some w → w.pc.isLive = true →
      ∃ w', s.lifecycle.worker = some w' ∧ w'.pc.isLive = true ∧ w'.recordingId = w.recordingId :=
    fun w hw hlive => ⟨w, hw, hlive, rfl⟩
  have hphase : ∀ p, s.lifecycle.state = p → p ≠ .idle →
      s.lifecycle.phase s.lifecycle.current = some p := by
    intro p hp hidle
    rw [← hp]
    exact hn.current (hp ▸ hidle)
  cases hnext with
  | tick | enter | reject | answer | repeated | await | started =>
    exact h.same (.refl _) rfl rfl rfl id hstay
  | proceed d hh hf hd =>
    exact h.same (.of_changes hd (Call.writes_keep _)) rfl rfl rfl id hstay
  | joined | startJoined => exact h.same (.refl _) rfl rfl rfl id fun w hw => by cases hw
  | @startRestored request canonical artifact hh hw hc heq hheld =>
    have hdead : ∀ w, s.lifecycle.worker = some w → w.pc.isLive = false :=
      fun w hw' => by cases hw.symm.trans hw'
    have hrestored : (s.lifecycle.restore request.recordingId
        (if artifact.finalized then .finalized else .faulted) ⟨request.requestId, canonical⟩
        {}).Placed := by
      refine h.restore hn hdead ?_ ?_
      · intro hfin
        cases hf : artifact.finalized with
        | true =>
          rw [hf] at hheld
          exact hheld.directory
        | false =>
          rw [hf] at hfin
          cases hfin
      · intro hfin
        cases hf : artifact.finalized with
        | true =>
          rw [hf] at hfin
          exact absurd rfl hfin
        | false =>
          rw [hf] at hheld
          have hdir : Staged s.machine.disk request.recordingId := hheld.directory
          intro hfinal
          cases (hdir.not_finalized hs.wellFormed).symm.trans hfinal
    exact hrestored.same (.refl _) rfl rfl rfl id fun w hw hlive => ⟨w, hw, hlive, rfl⟩
  | @stopRestored request artifact hh hfin hst hv heq hheld =>
    have hdead : ∀ w, s.lifecycle.worker = some w → w.pc.isLive = false := by
      intro w hw
      by_contra hlive
      exact hok ⟨_, _, w, hh, hfin, heq, hst.1, hst.2, hw, eq_true_of_ne_false hlive⟩
    have hrestored : (s.lifecycle.restore request.recordingId .finalized {}
        ⟨request.requestId, canonicalStop request, .requested⟩).Placed :=
      h.restore hn hdead (fun _ => hheld.directory) fun hne => absurd rfl hne
    exact hrestored.same (.refl _) rfl rfl rfl id fun w hw hlive => ⟨w, hw, hlive, rfl⟩
  | prepare hh hw habsent p =>
    have hother : ∀ id n, s.lifecycle.owner id = some n → n ≠ s.lifecycle.sessions + 1 := by
      intro id n hid
      have hle := hn.bounded id n hid
      omega
    constructor
    · intro w hw'
      cases hw.symm.trans hw'
    · intro hc
      cases hc
    · intro id n hid hph
      change Function.update s.lifecycle.phase _ _ n = some .finalized at hph
      rw [Function.update_of_ne (hother id n hid)] at hph
      exact h.finalized id n hid hph
    · intro id n q hid hph
      change Function.update s.lifecycle.phase _ _ n = some q at hph
      rw [Function.update_of_ne (hother id n hid)] at hph
      exact h.unfinished id n q hid hph
  | @create request canonical paths hh hw hst hp p =>
    have hcur := hphase _ hst (by decide)
    have hstaged : ¬Finalized s.machine.disk request.recordingId := by
      have hdir : Staged s.machine.disk request.recordingId := hp.staging
      intro hf
      cases (hdir.not_finalized hs.wellFormed).symm.trans hf
    constructor
    · intro w hw'
      cases hw.symm.trans hw'
    · intro hf
      cases hst.symm.trans hf
    · intro id n hid hph
      change Function.update s.lifecycle.owner _ _ id = some n at hid
      by_cases hi : id = request.recordingId
      · rw [hi, Function.update_self] at hid
        cases hid
        cases hcur.symm.trans hph
      · rw [Function.update_of_ne hi] at hid
        exact h.finalized id n hid hph
    · intro id n q hid hph hne hne'
      change Function.update s.lifecycle.owner _ _ id = some n at hid
      by_cases hi : id = request.recordingId
      · rw [hi]
        exact hstaged
      · rw [Function.update_of_ne hi] at hid
        exact h.unfinished id n q hid hph hne hne'
  | publish hh hw =>
    exact h.same (.refl _) rfl rfl rfl id hstay
  | @spawn request hh hw hst =>
    constructor
    · intro w hw' _
      cases hw'
      exact hown.building _ request hh rfl
    · intro hf
      cases hst.symm.trans hf
    · exact h.finalized
    · exact h.unfinished
  | record hh hst =>
    refine h.stored (.refl _) rfl rfl rfl hstay (fun hf => by cases hf)
      (fun hf => by cases hf) fun _ _ id hid => ?_
    exact h.unfinished id _ _ hid (hphase _ hst (by decide)) (by decide) (by decide)
  | startFailed hh hw hst =>
    refine h.stored (.refl _) rfl rfl rfl hstay (fun hf => by cases hf)
      (fun hf => by cases hf) fun _ _ id hid => ?_
    exact h.unfinished id _ _ hid (hphase _ hst (by decide)) (by decide) (by decide)
  | beginPoint hh hc hc' hf hb =>
    have hkeep := hb.keepsFinal
    cases hb with
    | enter =>
      exact h.stored hkeep rfl rfl rfl hstay (fun hf => by cases hf)
        (fun hf => by cases hf) fun hne => absurd rfl hne
    | _ => exact h.same hkeep rfl rfl rfl id hstay
  | beginFinished rs hh hc hf hb =>
    cases hb with
    | finish => exact h.same (.refl _) rfl rfl rfl id hstay
  | beginFailed h' rs hh hc hb =>
    obtain ⟨⟨w, hw, hin, -⟩, -⟩ := closing_control hk hh hc
    have hfree := not_finalized_of_inLoop hs hatt hw hin
    cases hb with
    | fail =>
      refine h.stored (.refl _) rfl rfl rfl hstay (fun hf => by cases hf)
        (fun hf => by cases hf) fun _ _ id hid => ?_
      exact not_finalized_of_owner h hn hw (isLive_of_inLoop hin) hfree hid
  | shutdownCatch hh hst =>
    refine h.stored (.refl _) rfl rfl rfl hstay (fun hf => by cases hf)
      (fun hf => by cases hf) fun _ _ id hid => ?_
    exact h.unfinished id _ _ hid (hphase _ hst (by decide)) (by decide) (by decide)
  | @work w pc d hw hm hch =>
    have hlive := hm.isLive
    have hmoved : ∀ w', some { w with pc := pc } = some w' → w'.pc.isLive = true →
        ∃ u, s.lifecycle.worker = some u ∧ u.pc.isLive = true ∧ u.recordingId = w'.recordingId := by
      rintro w' hw' -
      cases hw'
      exact ⟨w, hw, hlive, rfl⟩
    by_cases hact : ∃ p, w.pc = .closing (.activate p)
    · obtain ⟨p, hpc⟩ := hact
      have hst := finalizing_of_closing hk hpr hw hpc (fun hc => by cases hc)
      have howned := h.owned w hw hlive
      constructor
      · intro w' hw' _
        cases hw'
        exact howned
      · intro hf
        cases hst.symm.trans hf
      · intro id n hid hph
        exact (h.finalized id n hid hph).lawful hs.wellFormed hch.1
      · intro id n q hid hph hne hne'
        by_cases hi : id = w.recordingId
        · rw [hi] at hid
          cases howned.symm.trans hid
          cases (hphase _ hst (by decide)).symm.trans hph
          exact absurd rfl hne
        · have hsame : d (.artifact .finalized id) = s.machine.disk (.artifact .finalized id) := by
            apply hch.2
            rw [hpc]
            simp [WorkerPc.writes, artifactTree, hi]
          intro hf
          exact h.unfinished id n q hid hph hne hne' (hsame.symm.trans hf)
    · have hkeep : KeepsFinal s.lifecycle.disk d :=
        .of_changes hch (WorkerPc.writes_keep (fun p hp => hact ⟨p, hp⟩) w.recordingId)
      exact h.same hkeep rfl rfl rfl id hmoved
  | @workBegin w b b' u hh hw hpc hid hin hb =>
    have hkeep := hb.keepsFinal
    have hmoved : ∀ w', some { w with pc := .loop (.begin b') } = some w' → w'.pc.isLive = true →
        ∃ u, s.lifecycle.worker = some u ∧ u.pc.isLive = true ∧ u.recordingId = w'.recordingId := by
      rintro w' hw' -
      cases hw'
      exact ⟨w, hw, by rw [hpc]; rfl, rfl⟩
    cases hb with
    | enter =>
      exact h.stored hkeep rfl rfl rfl hmoved (fun hf => by cases hf)
        (fun hf => by cases hf) fun hne => absurd rfl hne
    | _ => exact h.same hkeep rfl rfl rfl id hmoved
  | @workFinished w b u hh hw hpc hid hin hb =>
    have hmoved : ∀ w', some { w with pc := .loop .dispatch } = some w' → w'.pc.isLive = true →
        ∃ u, s.lifecycle.worker = some u ∧ u.pc.isLive = true ∧ u.recordingId = w'.recordingId := by
      rintro w' hw' -
      cases hw'
      exact ⟨w, hw, by rw [hpc]; rfl, rfl⟩
    cases hb with
    | finish => exact h.same (.refl _) rfl rfl rfl id hmoved
  | @workFailed w b e u hh hw hpc hid hin hb =>
    have hlive : w.pc.isLive = true := by
      rw [hpc]
      rfl
    have hfree : ¬Finalized s.machine.disk w.recordingId := by
      apply staged_not_finalized hs
      apply staged_of_worker hs hw hlive <;> rw [hpc] <;> simp
    have hmoved : ∀ w', some { w with pc := .fault } = some w' → w'.pc.isLive = true →
        ∃ u, s.lifecycle.worker = some u ∧ u.pc.isLive = true ∧ u.recordingId = w'.recordingId := by
      rintro w' hw' -
      cases hw'
      exact ⟨w, hw, hlive, rfl⟩
    cases hb with
    | fail =>
      refine h.stored (.refl _) rfl rfl rfl hmoved (fun hf => by cases hf)
        (fun hf => by cases hf) fun _ _ id hid => ?_
      exact not_finalized_of_owner h hn hw hlive hfree hid
  | @finalized w hh hw hpc hfin =>
    have hlive : w.pc.isLive = true := by
      rw [hpc]
      rfl
    have hdead : ∀ w', some { w with pc := WorkerPc.finished } = some w' → w'.pc.isLive = false := by
      rintro w' ⟨⟩
      rfl
    refine h.stored (p := .finalized) (.refl _) rfl rfl rfl ?_ (fun _ => hdead) ?_ ?_
    · intro w' hw' hlive'
      cases (hdead w' hw').symm.trans hlive'
    · intro _ id hid
      have howned := h.owned w hw hlive
      rw [hn.injective id w.recordingId _ hid howned]
      exact hfin
    · intro _ hne
      exact absurd rfl hne
  | @faulted w hh hw hpc =>
    have hlive : w.pc.isLive = true := by
      rw [hpc]
      rfl
    refine h.stored (p := .faulted) (.refl _) rfl rfl rfl ?_ (fun hf => by cases hf)
      (fun hf => by cases hf) fun _ _ id hid => ?_
    · rintro w' ⟨⟩ hlive'
      cases hlive'
    · exact not_finalized_of_owner h hn hw hlive (hatt.failing w hw hpc) hid
  | exit =>
    constructor
    · intro w hw
      cases hw
    · intro hf
      cases hf
    · intro id n hid
      cases hid
    · intro id n p hid
      cases hid

end Steps

end NodusVision.Manager
