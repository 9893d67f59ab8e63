import NodusVision.Manager.Deadline

/-! The stop that the ledger names is on the disk, and a finalized recording is there too. -/
namespace NodusVision.Manager
open Text Storage Disk Program Recording RecordingStore Transition

/-- The stop evidence of a recording, wherever its artifact is. -/
def StopStored (d : Disk) (recordingId evidence : ByteString) : Prop :=
  ∃ m, d (.entry m recordingId (.file .stopRequest)) = some (.regular evidence)

theorem StopStored.lawful {d d' : Disk} {recordingId evidence : ByteString}
    (h : StopStored d recordingId evidence) (hw : d.WellFormed) (hl : d.Lawful d') :
    StopStored d' recordingId evidence := by
  obtain ⟨m, hm⟩ := h
  have hne : d (.entry m recordingId (.file .stopRequest)) ≠ none := by
    rw [hm]
    exact Option.some_ne_none _
  have hdir : d (.artifact m recordingId) ≠ none := by
    rw [(hw.entry_regular m recordingId _ hne).2]
    exact Option.some_ne_none _
  cases m with
  | finalized => exact ⟨.finalized, (((hl hw).2.finalized recordingId hdir).2 _).trans hm⟩
  | staging =>
    obtain ⟨m', -, hkeep⟩ := (hl hw).2.staging recordingId hdir
    exact ⟨m', (hkeep .stopRequest (.inr rfl) hne).trans hm⟩

/-- The evidence of a finalized recording is in its finalized artifact. -/
theorem StopStored.finalized {d : Disk} {recordingId evidence : ByteString}
    (h : StopStored d recordingId evidence) (hw : d.WellFormed) (hf : Finalized d recordingId) :
    d (.entry .finalized recordingId (.file .stopRequest)) = some (.regular evidence) := by
  obtain ⟨m, hm⟩ := h
  cases m with
  | finalized => exact hm
  | staging =>
    have hdir := (hw.entry_regular .staging recordingId _ (by rw [hm]; exact Option.some_ne_none _)).2
    cases (hf.not_staged hw).symm.trans hdir

namespace Lifecycle
variable {v v' u : Lifecycle}

/-- What the ledger of the current recording says is so. -/
structure Truthful (v : Lifecycle) : Prop where
  stopped : v.stop.requestId ≠ [] → v.stopRequested = true ∧ v.state ≠ .idle ∧
    StopStored v.disk v.recordingId v.stop.canonical
  finalized : v.state = .finalized → Finalized v.disk v.recordingId
  displaced : ∀ w, v.worker = some w → w.pc.isLive = true → v.inSession = false →
    Finalized v.disk v.recordingId

/-- A step that leaves the recording in its state and its ledger alone. -/
theorem Truthful.same (h : v.Truthful) (hw : v.disk.WellFormed) (hl : v.disk.Lawful v'.disk)
    (hid : v'.recordingId = v.recordingId) (hstop : v'.stop = v.stop)
    (hr : v.stopRequested = true → v'.stopRequested = true)
    (hidle : v'.state = .idle → v.state = .idle)
    (hfin : v'.state = .finalized → Finalized v.disk v.recordingId)
    (hdis : ∀ w, v'.worker = some w → w.pc.isLive = true → v'.inSession = false →
      Finalized v.disk v.recordingId) : v'.Truthful := by
  constructor
  · intro hne
    rw [hstop] at hne
    obtain ⟨hreq, hstate, hstored⟩ := h.stopped hne
    rw [hid, hstop]
    exact ⟨hr hreq, fun hi => hstate (hidle hi), hstored.lawful hw hl⟩
  · intro hs
    rw [hid]
    exact (hfin hs).lawful hw hl
  · intro w hw' hlive hin
    rw [hid]
    exact (hdis w hw' hlive hin).lawful hw hl

/-- Only the thread's position and the disk change. -/
theorem Truthful.kept (h : v.Truthful) (hw : v.disk.WellFormed) (hl : v.disk.Lawful v'.disk)
    (hid : v'.recordingId = v.recordingId) (hstop : v'.stop = v.stop)
    (hr : v.stopRequested = true → v'.stopRequested = true) (hst : v'.state = v.state)
    (hin : v'.inSession = v.inSession)
    (hwk : ∀ w, v'.worker = some w → w.pc.isLive = true →
      ∃ w', v.worker = some w' ∧ w'.pc.isLive = true) : v'.Truthful := by
  apply h.same hw hl hid hstop hr
  · intro hi
    exact hst ▸ hi
  · intro hf
    exact h.finalized (hst ▸ hf)
  · intro w hw' hlive hin'
    obtain ⟨w', hv, hlive'⟩ := hwk w hw' hlive
    exact h.displaced w' hv hlive' (hin ▸ hin')

/-- The ledger is cleared, and no recording is finalized. -/
theorem Truthful.cleared (hstop : v.stop.requestId = []) (hst : v.state ≠ .finalized)
    (hdis : ∀ w, v.worker = some w → w.pc.isLive = true → v.inSession ≠ false) : v.Truthful :=
  ⟨fun hne => absurd hstop hne, fun hf => absurd hf hst,
    fun w hw hlive hin => absurd hin (hdis w hw hlive)⟩

theorem Truthful.begins {closer : Closer} {b : BeginPc} {r : BeginResult} (h : v.Truthful)
    (hw : v.disk.WellFormed) (hflags : b ≠ .enter → b ≠ .closeAdmission →
      v.state = .finalizing ∧ v.stopRequested = true)
    (hb : v.Begins closer b r u) : u.Truthful := by
  cases hb with
  | enter =>
    exact h.same hw (.refl _) rfl rfl id nofun nofun fun w hw' hlive hin =>
      h.displaced w hw' hlive hin
  | close timeout p =>
    exact h.kept hw (.refl _) rfl rfl (fun _ => rfl) rfl rfl fun w hw' hl => ⟨w, hw', hl⟩
  | write d p p' hd =>
    exact h.kept hw hd.1 rfl rfl id rfl rfl fun w hw' hl => ⟨w, hw', hl⟩
  | written | unwritten | late => exact h
  | finish hlate hs =>
    obtain ⟨hstate, hreq⟩ := hflags nofun nofun
    refine ⟨?_, h.finalized, h.displaced⟩
    intro hne
    refine ⟨hreq, ?_, .staging, ?_⟩
    · rw [hstate]
      exact nofun
    · -- an internal closer leaves no request id
      cases closer with
      | requested request => exact hs
      | maxDuration | applicationShutdown => exact absurd rfl hne
  | fail e =>
    exact h.same hw (.refl _) rfl rfl id nofun nofun fun w hw' hlive hin =>
      h.displaced w hw' hlive hin

theorem Truthful.moved {w : Worker} (h : v.Truthful) (hw : v.worker = some w)
    (hlive : w.pc.isLive = true) (pc : WorkerPc) : (v.moveWorker w pc).Truthful := by
  refine ⟨h.stopped, h.finalized, ?_⟩
  intro w' _ _ hin
  exact h.displaced w hw hlive hin

/-- Who holds the mutex does not matter, nor what was answered. -/
theorem Truthful.beside (h : v.Truthful) {holder : Option Call} {returns : List Return} :
    Truthful { v with holder := holder, returns := returns } :=
  ⟨h.stopped, h.finalized, h.displaced⟩

end Lifecycle

section Steps
variable {setup : Setup} {s : System} {v' : Lifecycle}

open Lifecycle

/-- Past the first two points of `beginFinalizationLocked` the recording is being finalized. -/
theorem closed_of_flags {b : BeginPc} (h : b.Flags s.core) (he : b ≠ .enter)
    (hc : b ≠ .closeAdmission) : s.impl.state = .finalizing ∧ s.impl.stopRequested = true := by
  have hclosed : s.core.Closed := by
    cases b with
    | enter => exact absurd rfl he
    | closeAdmission => exact absurd rfl hc
    | _ => exact h
  exact ⟨hclosed.1, hclosed.2.2⟩

theorem worker_flags {w : Worker} {b : BeginPc} (hk : s.core.Control) (hh : s.holder = none)
    (hw : s.worker = some w) (hpc : w.pc = .loop (.begin b)) : b.Flags s.core := by
  obtain ⟨id, pc⟩ := w
  cases hpc
  exact (hk.worker hh hw rfl).2

/-- The worker of a recording that is not displaced is the one that finalizes it. -/
theorem finalized_of_publish {w : Worker} (hk : s.core.Control) (h : s.lifecycle.Truthful)
    (hw : s.worker = some w) (hpc : w.pc = .closing .publish)
    (hfin : Finalized s.machine.disk w.recordingId) :
    Finalized s.machine.disk s.impl.recordingId := by
  have hlive : w.pc.isLive = true := by
    rw [hpc]
    rfl
  cases hin : s.history.inSession with
  | false => exact h.displaced w hw hlive hin
  | true =>
    have hid : s.impl.recordingId = w.recordingId := (session_of_live hk hw hlive hin).1
    rw [hid]
    exact hfin

theorem truthful_next (hk : s.core.Control) (hs : s.Storage setup) (h : s.lifecycle.Truthful)
    (hn : s.lifecycle.Next v') : v'.Truthful := by
  have hwf : s.lifecycle.disk.WellFormed := hs.wellFormed
  have hsame : ∀ w, s.lifecycle.worker = some w → w.pc.isLive = true →
      ∃ w', s.lifecycle.worker = some w' ∧ w'.pc.isLive = true := fun w hw hl => ⟨w, hw, hl⟩
  cases hn with
  | tick | enter | reject | answer | repeated | await | started =>
    exact h.kept hwf (.refl _) rfl rfl id rfl rfl hsame
  | create => exact h.kept hwf (.refl _) rfl rfl id rfl rfl hsame
  | proceed d hh hf hd => exact h.kept hwf hd.1 rfl rfl id rfl rfl hsame
  | joined | startJoined =>
    exact h.kept hwf (.refl _) rfl rfl id rfl rfl fun w hw => by cases hw
  | @startRestored request canonical artifact hh hw hc heq hheld =>
    refine ⟨fun hne => absurd rfl hne, ?_, fun w hw' => by cases hw.symm.trans hw'⟩
    intro hst
    cases hf : artifact.finalized with
    | true =>
      rw [hf] at hheld
      exact hheld.directory
    | false =>
      have hst : (if artifact.finalized then RecordingState.finalized else .faulted) =
        .finalized := hst
      rw [hf] at hst
      cases hst
  | @stopRestored request artifact hh hfin hst hv heq hheld =>
    refine ⟨fun _ => ⟨rfl, nofun, .finalized, ?_⟩, fun _ => hheld.directory,
      fun _ _ _ _ => hheld.directory⟩
    exact hheld.stop.trans (congrArg (Option.map Node.regular) heq)
  | prepare hh hw habsent p =>
    refine h.same hwf (.refl _) rfl rfl id nofun nofun ?_
    intro w hw'
    cases hw.symm.trans hw'
  | publish hh hw hst =>
    refine .cleared rfl ?_ fun w hw' => by cases hw.symm.trans hw'
    intro hf
    cases hst.symm.trans hf
  | spawn hh hw hst hr hid hin =>
    refine h.same hwf (.refl _) rfl rfl id id h.finalized ?_
    intro w _ _ hno
    cases hin.symm.trans hno
  | record hh hst hid =>
    refine h.same hwf (.refl _) rfl rfl id nofun nofun ?_
    exact h.displaced
  | startFailed hh hw hst =>
    refine h.same hwf (.refl _) rfl rfl id nofun nofun ?_
    intro w hw'
    cases hw.symm.trans hw'
  | beginPoint hh hc hc' hf hb =>
    have hflags := (closing_control hk hh hc).2
    exact (h.begins hwf (closed_of_flags hflags) hb).beside
  | beginFinished rs hh hc hf hb =>
    have hflags := (closing_control hk hh hc).2
    exact (h.begins hwf (closed_of_flags hflags) hb).beside
  | beginFailed h' rs hh hc hb =>
    have hflags := (closing_control hk hh hc).2
    exact (h.begins hwf (closed_of_flags hflags) hb).beside
  | shutdownCatch hh hst hr =>
    exact h.same hwf (.refl _) rfl rfl (fun _ => rfl) nofun nofun h.displaced
  | work d hw hm hd =>
    refine h.kept hwf hd.1 rfl rfl id rfl rfl ?_
    intro w _ _
    exact ⟨_, hw, hm.isLive⟩
  | workBegin hh hw hpc hid hin hb | workFinished hh hw hpc hid hin hb
  | workFailed hh hw hpc hid hin hb =>
    have hflags := worker_flags hk hh hw hpc
    refine (h.begins hwf (closed_of_flags hflags) hb).moved (hb.beside.worker.trans hw) ?_ _
    rw [hpc]
    rfl
  | @finalized w hh hw hpc hfin =>
    have hcur := finalized_of_publish hk h hw hpc hfin
    exact h.same hwf (.refl _) rfl rfl id nofun (fun _ => hcur) fun _ _ _ _ => hcur
  | faulted hh hw hpc =>
    refine h.same hwf (.refl _) rfl rfl (fun _ => rfl) nofun nofun ?_
    rintro w ⟨⟩ hlive
    cases hlive
  | exit => exact .cleared rfl nofun fun w hw => by cases hw

theorem truthful_reachable {ok : System → Event → System → Prop}
    (h : Reach (IsInitial setup) (System.step setup) ok s) : s.lifecycle.Truthful := by
  refine lifecycle_reachable Truthful (fun machine => ?_)
    (fun s e t hk hs hi _ hn => truthful_next hk hs hi hn) h
  exact .cleared rfl nofun fun w hw => by cases hw

end Steps

end NodusVision.Manager
