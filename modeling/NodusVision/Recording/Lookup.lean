import NodusVision.Recording.Store
import NodusVision.Storage.Rules

/-! What the persisted lookup returns, while other threads may write to the root. -/
namespace NodusVision.Recording
open Text Storage Disk Program RecordingStore

/-- The environment may make a call fail. -/
def Faulty (admits : Choice → Prop) : Prop := ∃ c, admits c ∧ c.fails = true

def anyChoice : Choice → Prop := fun _ => True

/-- No call fails. -/
def faultless : Choice → Prop := fun c => c.fails = false

theorem not_faulty_faultless : ¬Faulty faultless := by
  rintro ⟨c, hc, hf⟩
  rw [hc] at hf
  cases hf

namespace RecordingStore
variable {α : Type} {admits : Choice → Prop} {others : Set ManagedPath}
  {does : Disk → Disk → Prop} {P : Disk → Prop} {E : Exception → Disk → Prop}

theorem throwIf_spec {c : Prop} [Decidable c] {e : Exception} (hP : Stable others P)
    (hE : c → ∀ d, P d → E e d) :
    Spec admits others does P (throwIf c e) (fun _ d => ¬c ∧ P d) E := by
  refine Spec.ite (fun hc => ?_) fun hc => ?_
  · exact Spec.throw hP (hE hc)
  · exact Spec.pure hP fun _ hd => ⟨hc, hd⟩

theorem check_spec {c : Prop} [Decidable c] {e : Exception} (hP : Stable others P)
    (hE : c → ∀ d, P d → E e d) : Spec admits others does P (throwIf c e) (fun _ => P) E :=
  (throwIf_spec hP hE).post (fun _ _ h => h.2) fun _ _ h => h

theorem call_spec {β : Type} {o : FsOp} {f : o.Res → StoreProg β} {Q : β → Disk → Prop}
    (hP : Stable others P) (R : o.Res → Disk → Prop)
    (hstep : ∀ m c, P m.disk → admits c →
      does m.disk (exec o c m).2.disk ∧ R (exec o c m).1 (exec o c m).2.disk)
    (hk : ∀ r, Spec admits others does (R r) (f r) Q E) :
    Spec admits others does P ((call o).bind f) Q E :=
  Spec.op hP R hstep hk

/-- An operation that leaves the disk as it is, followed by the rest of the program. -/
theorem query_spec {β : Type} {o : FsOp} {f : o.Res → StoreProg β} {Q : β → Disk → Prop}
    (hP : Stable others P) (hdoes : ∀ d, does d d) (R : o.Res → Disk → Prop)
    (hq : ∀ m c, P m.disk → admits c → (exec o c m).2 = m ∧ R (exec o c m).1 m.disk)
    (hk : ∀ r, Spec admits others does (R r) (f r) Q E) :
    Spec admits others does P ((call o).bind f) Q E :=
  Spec.query hP hdoes R hq hk

/-- A throwing query whose answer is a function of the disk. -/
private theorem observe_spec {o : FsOp} {k : o.Res → StoreProg α} {f : Disk → α}
    {R : α → Disk → Prop} (hP : Stable others P) (hdoes : ∀ d, does d d)
    (hR : ∀ d, P d → R (f d) d) (hs : ∀ a, Stable others (R a))
    (hfault : Faulty admits → ∀ d, P d → E .filesystemError d)
    (hexec : ∀ m c, (exec o c m).2 = m ∧ k (exec o c m).1 = orThrow (c.answer (f m.disk))) :
    Spec admits others does P (.op o k) R E := by
  intro m hm t ht c hc
  have hPt := hP _ _ ht hm
  obtain ⟨hstate, hanswer⟩ := hexec t c
  rw [hstate, hanswer]
  refine ⟨hdoes _, ?_⟩
  cases hf : c.fails with
  | true =>
    simp only [Choice.answer, hf, if_true, orThrow]
    exact fun u hu => hfault ⟨c, hc, hf⟩ _ (hP _ _ hu hPt)
  | false =>
    simp only [Choice.answer, hf, Bool.false_eq_true, if_false, orThrow]
    exact fun u hu => hs _ _ _ hu (hR _ hPt)

section Queries
variable {p : ManagedPath} (hP : Stable others P) (hdoes : ∀ d, does d d)
  (hfault : Faulty admits → ∀ d, P d → E .filesystemError d)
include hP hdoes hfault

theorem pathExists_spec {R : Bool → Disk → Prop} (hR : ∀ d, P d → R (d.pathExists p) d)
    (hs : ∀ b, Stable others (R b)) : Spec admits others does P (pathExists p) R E :=
  observe_spec (o := .pathExists p) (f := fun d => d.pathExists p) hP hdoes hR hs hfault
    fun _ _ => ⟨rfl, rfl⟩

theorem symlinkStatus_spec {R : FileKind → Disk → Prop} (hR : ∀ d, P d → R (d.kind p) d)
    (hs : ∀ b, Stable others (R b)) : Spec admits others does P (symlinkStatus p) R E :=
  observe_spec (o := .symlinkStatus p) (f := fun d => d.kind p) hP hdoes hR hs hfault
    fun _ _ => ⟨rfl, rfl⟩

theorem isDirectory_spec {R : Bool → Disk → Prop} (hR : ∀ d, P d → R (d.isDirectory p) d)
    (hs : ∀ b, Stable others (R b)) : Spec admits others does P (isDirectory p) R E :=
  observe_spec (o := .isDirectory p) (f := fun d => d.isDirectory p) hP hdoes hR hs hfault
    fun _ _ => ⟨rfl, rfl⟩

theorem rejectSymlink_spec (hp : ∀ d, P d → d.kind p ≠ .symlink) :
    Spec admits others does P (rejectSymlink p) (fun _ => P) E := by
  refine Spec.bind (fun status d => status ≠ .symlink ∧ P d)
    (symlinkStatus_spec hP hdoes hfault (fun d hd => ⟨hp d hd, hd⟩)
      fun b => (stable_const _ _).and hP) fun status => ?_
  refine Spec.assume fun hne => ?_
  exact check_spec hP fun he => absurd he hne

theorem rejectSymlinkIfPresent_spec (hp : ∀ d, P d → d.kind p ≠ .symlink) :
    Spec admits others does P (rejectSymlinkIfPresent p) (fun _ => P) E := by
  refine Spec.bind (fun _ => P) (pathExists_spec hP hdoes hfault (fun _ hd => hd) fun _ => hP)
    fun present => ?_
  refine Spec.ite (fun _ => ?_) fun _ => ?_
  · exact rejectSymlink_spec hP hdoes hfault hp
  · exact Spec.pure hP fun _ hd => hd

end Queries

/-- Why a bounded read of a file with the contents `n` throws. -/
def ReadFails (admits : Choice → Prop) (n : Option ByteString) (e : Exception) : Prop :=
  Faulty admits ∨ n = none ∨ ∃ c, n = some c ∧ maxRequestFileBytes < c.length ∧ e = evidenceUnbounded

/-- The last part of the bounded read, once the size is known. -/
private theorem readSized_spec {p : ManagedPath} {c : ByteString} (hP : Stable others P)
    (hdoes : ∀ d, does d d) (hn : ∀ d, P d → d p = some (.regular c))
    (hE : ∀ e d, P d → ReadFails admits (some c) e → E e d) :
    Spec admits others does P (readBoundedRegularFile p)
      (fun r d => (r = c ∧ c.length ≤ maxRequestFileBytes) ∧ P d) E := by
  refine Spec.bind (fun status d => status = .regular ∧ P d)
    (symlinkStatus_spec hP hdoes (fun hf d hd => hE _ d hd (.inl hf))
      (fun d hd => ⟨by simp [Disk.kind, hn d hd], hd⟩) fun _ => (stable_const _ _).and hP)
    fun status => Spec.assume fun hstatus => ?_
  refine Spec.bind _ (check_spec hP fun he => absurd hstatus he) fun _ => ?_
  refine query_spec hP hdoes
    (fun (size : Option ℕ) d => (size = none → Faulty admits) ∧ (∀ k, size = some k → k = c.length) ∧
      P d) (fun m ch hm hc => ⟨rfl, ?_, ?_, hm⟩) fun (size : Option ℕ) => ?_
  · intro he
    cases hf : ch.fails with
    | true => exact ⟨ch, hc, hf⟩
    | false => simp [exec, hf, Disk.contents, hn _ hm] at he
  · intro k hk
    cases hf : ch.fails with
    | true => simp [exec, hf] at hk
    | false => simpa [exec, hf, Disk.contents, hn _ hm] using hk.symm
  refine Spec.assume fun hsize => ?_
  refine Spec.assume fun hlength => ?_
  cases size with
  | none => exact Spec.throw hP fun d hd => hE _ d hd (.inl (hsize rfl))
  | some size =>
    have hk := hlength size rfl
    subst hk
    refine Spec.bind (fun _ d => c.length ≤ maxRequestFileBytes ∧ P d) ((throwIf_spec hP
      fun hlong d hd => hE _ d hd (.inr (.inr ⟨c, rfl, hlong, rfl⟩))).post
      (fun _ d (h : ¬maxRequestFileBytes < c.length ∧ P d) => ⟨Nat.le_of_not_lt h.1, h.2⟩)
      fun _ _ h => h) fun _ => ?_
    refine Spec.assume fun hmax => ?_
    refine query_spec hP hdoes
      (fun (input : Option ByteString) d => (input = none → Faulty admits) ∧
        (∀ k, input = some k → k = c) ∧ P d)
      (fun m ch hm hc => ⟨rfl, ?_, ?_, hm⟩) fun (input : Option ByteString) => ?_
    · intro he
      cases hf : ch.fails with
      | true => exact ⟨ch, hc, hf⟩
      | false => simp [exec, hf, Disk.contents, hn _ hm] at he
    · intro k hk
      cases hf : ch.fails with
      | true => simp [exec, hf] at hk
      | false => simpa [exec, hf, Disk.contents, hn _ hm] using hk.symm
    refine Spec.assume fun hinput => ?_
    refine Spec.assume fun hcontents => ?_
    cases input with
    | none => exact Spec.throw hP fun d hd => hE _ d hd (.inl (hinput rfl))
    | some input =>
      have hk := hcontents input rfl
      subst hk
      refine query_spec hP hdoes (fun (good : Bool) d => (good = false → Faulty admits) ∧ P d)
        (fun m ch hm hc => ⟨rfl, fun he => ⟨ch, hc, by simpa [exec] using he⟩, hm⟩)
        fun (good : Bool) => Spec.assume fun hgood => ?_
      refine Spec.bind _ (check_spec hP fun hbad d hd => hE _ d hd (.inl ?_)) fun _ => ?_
      · rcases hbad with hbad | hbad
        · exact hgood hbad
        · exact absurd hbad (Nat.lt_irrefl _)
      · exact Spec.pure hP fun d hd => ⟨⟨List.take_length, hmax⟩, hd⟩

theorem readBoundedRegularFile_spec {p : ManagedPath} {n : Option ByteString}
    (hP : Stable others P) (hdoes : ∀ d, does d d) (hn : ∀ d, P d → d p = n.map .regular)
    (hE : ∀ e d, P d → ReadFails admits n e → E e d) :
    Spec admits others does P (readBoundedRegularFile p)
      (fun r d => (n = some r ∧ r.length ≤ maxRequestFileBytes) ∧ P d) E := by
  cases n with
  | some c =>
    refine (readSized_spec hP hdoes hn hE).post (fun r d h => ?_) fun _ _ h => h
    obtain ⟨⟨rfl, hmax⟩, hd⟩ := h
    exact ⟨⟨rfl, hmax⟩, hd⟩
  | none =>
    refine Spec.bind (fun status d => status = .absent ∧ P d)
      (symlinkStatus_spec hP hdoes (fun hf d hd => hE _ d hd (.inl hf))
        (fun d hd => ⟨by simp [Disk.kind, hn d hd], hd⟩) fun _ => (stable_const _ _).and hP)
      fun status => Spec.assume fun hstatus => ?_
    refine Spec.bind (fun _ _ => False) ((throwIf_spec hP
      fun _ d hd => hE _ d hd (.inr (.inl rfl))).post ?_ fun _ _ h => h)
      fun _ => Spec.of_false fun _ h => h
    rintro _ _ ⟨hne, -⟩
    exact hne (by simp [hstatus])

theorem readStopRequest_spec (directory : ManagedPath) {n : Option ByteString}
    (hP : Stable others P) (hdoes : ∀ d, does d d)
    (hn : ∀ d, P d → d (directory.child (.file .stopRequest)) = n.map .regular)
    (hE : ∀ e d, P d → n = none ∧ Faulty admits ∨ n ≠ none ∧ ReadFails admits n e → E e d) :
    Spec admits others does P (readStopRequest directory)
      (fun r d => (r = n ∧ ∀ c, n = some c → c.length ≤ maxRequestFileBytes) ∧ P d) E := by
  have hfault : Faulty admits → ∀ d, P d → E .filesystemError d := by
    intro hf d hd
    cases n with
    | none => exact hE _ d hd (.inl ⟨rfl, hf⟩)
    | some c => exact hE _ d hd (.inr ⟨by simp, .inl hf⟩)
  refine Spec.bind (fun present d => present = n.isSome ∧ P d)
    (pathExists_spec hP hdoes hfault (fun d hd => ⟨?_, hd⟩) fun _ => (stable_const _ _).and hP)
    fun present => Spec.assume fun hpresent => ?_
  · cases n <;> simp [Disk.pathExists, hn d hd]
  · cases n with
    | none =>
      rw [if_neg (by simp [hpresent])]
      exact Spec.pure hP fun d hd => ⟨⟨rfl, by simp⟩, hd⟩
    | some c =>
      rw [if_pos (by simp [hpresent])]
      refine Spec.bind _ (readBoundedRegularFile_spec hP hdoes hn
        fun e d hd h => hE e d hd (.inr ⟨by simp, h⟩)) fun r => Spec.assume fun hr => ?_
      obtain ⟨hr, hmax⟩ := hr
      cases hr
      exact Spec.pure hP fun d hd => ⟨⟨rfl, fun c hc => by cases hc; exact hmax⟩, hd⟩

/-- What the artifact directory of an id holds. -/
structure Holds (d : Disk) (m : ManagedDirectory) (recordingId : ByteString)
    (startRequest stopRequest : Option ByteString) : Prop where
  directory : d (.artifact m recordingId) = some .directory
  start : d (.entry m recordingId (.file .startRequest)) = startRequest.map .regular
  stop : d (.entry m recordingId (.file .stopRequest)) = stopRequest.map .regular

theorem Holds.persists {d d' : Disk} {recordingId : ByteString}
    {startRequest stopRequest : Option ByteString}
    (h : Holds d .finalized recordingId startRequest stopRequest) (hp : d.Persists d') :
    Holds d' .finalized recordingId startRequest stopRequest := by
  obtain ⟨hdir, hentry⟩ := hp.finalized recordingId (by simp [h.directory])
  exact ⟨hdir.trans h.directory, (hentry _).trans h.start, (hentry _).trans h.stop⟩

def place (finalized : Bool) : ManagedDirectory := if finalized then .finalized else .staging

/-- Why reading an artifact with these requests throws. -/
def ArtifactFails (admits : Choice → Prop) (startRequest stopRequest : Option ByteString)
    (e : Exception) : Prop :=
  Faulty admits ∨ startRequest = none ∨
    ∃ c, (startRequest = some c ∨ stopRequest = some c) ∧ maxRequestFileBytes < c.length ∧
      e = evidenceUnbounded

theorem readArtifact_spec {recordingId : ByteString} {finalized : Bool}
    {startRequest stopRequest : Option ByteString} (hP : Stable others P) (hdoes : ∀ d, does d d)
    (hn : ∀ d, P d → Holds d (place finalized) recordingId startRequest stopRequest)
    (hE : ∀ e d, P d → ArtifactFails admits startRequest stopRequest e → E e d) :
    Spec admits others does P (readArtifact recordingId finalized)
      (fun r d => (∃ c, startRequest = some c ∧ c.length ≤ maxRequestFileBytes ∧
        (∀ c', stopRequest = some c' → c'.length ≤ maxRequestFileBytes) ∧
        r = some ⟨artifactPaths recordingId, finalized, c, stopRequest⟩) ∧ P d) E := by
  have hdir : (if finalized then (artifactPaths recordingId).finalizedDirectory
      else (artifactPaths recordingId).stagingDirectory) =
        .artifact (place finalized) recordingId := by
    cases finalized <;> rfl
  have hfault : Faulty admits → ∀ d, P d → E .filesystemError d :=
    fun hf d hd => hE _ d hd (.inl hf)
  unfold readArtifact
  simp only [hdir, ManagedPath.child_artifact]
  refine Spec.bind _ (rejectSymlink_spec hP hdoes hfault
    fun d hd => by simp [Disk.kind, (hn d hd).directory]) fun _ => ?_
  refine Spec.bind (fun present d => present = true ∧ P d) (isDirectory_spec hP hdoes hfault
    (fun d hd => ⟨by simp [Disk.isDirectory, (hn d hd).directory], hd⟩)
    fun _ => (stable_const _ _).and hP) fun present => Spec.assume fun hpresent => ?_
  refine Spec.bind _ (check_spec hP fun he => absurd (hpresent.symm.trans he) (by simp))
    fun _ => ?_
  refine Spec.bind _ (readBoundedRegularFile_spec hP hdoes (fun d hd => (hn d hd).start)
    fun e d hd h => hE e d hd ?_) fun c => Spec.assume fun hc => ?_
  · rcases h with h | h | ⟨c, hc, hlong, he⟩
    · exact .inl h
    · exact .inr (.inl h)
    · exact .inr (.inr ⟨c, .inl hc, hlong, he⟩)
  obtain ⟨rfl, hmax⟩ := hc
  refine Spec.bind _ (readStopRequest_spec (.artifact (place finalized) recordingId)
    hP hdoes (fun d hd => (hn d hd).stop)
    fun e d hd h => hE e d hd ?_) fun r => Spec.assume fun hr => ?_
  · rcases h with ⟨-, h⟩ | ⟨hne, h | h | ⟨c, hc, hlong, he⟩⟩
    · exact .inl h
    · exact .inl h
    · exact absurd h hne
    · exact .inr (.inr ⟨c, .inr hc, hlong, he⟩)
  obtain ⟨rfl, hstop⟩ := hr
  exact Spec.pure hP fun d hd => ⟨⟨c, rfl, hmax, hstop, rfl⟩, hd⟩

/-- The lookup, from what its two existence tests tell and what reading the artifact gives. -/
theorem findPersistedArtifact_spec {recordingId : ByteString}
    {Q : Option PersistedRecordingArtifact → Disk → Prop} {S F : Bool → Disk → Prop}
    (hid : isRecordingIdValid recordingId = true)
    (hP : Stable others P) (hdoes : ∀ d, does d d) (hw : ∀ d, P d → d.WellFormed)
    (hfault : Faulty admits → ∀ d, P d → E .filesystemError d)
    (hS : ∀ d, P d → S (d.pathExists (.artifact .staging recordingId)) d)
    (hSs : ∀ b, Stable others (S b))
    (hF : ∀ d, P d → F (d.pathExists (.artifact .finalized recordingId)) d)
    (hFs : ∀ b, Stable others (F b))
    (hboth : ∀ e d, P d → S true d → F true d → E e d)
    (hnone : ∀ d, P d → S false d → F false d → Q none d)
    (hread : ∀ b, Spec admits others does (fun d => P d ∧ S (!b) d ∧ F b d)
      (readArtifact recordingId b) Q E) :
    Spec admits others does P (findPersistedArtifact recordingId) Q E := by
  unfold findPersistedArtifact
  refine Spec.bind _ (check_spec hP fun he => absurd (hid.symm.trans he) (by simp)) fun _ => ?_
  refine Spec.bind _ (rejectSymlinkIfPresent_spec hP hdoes hfault fun d hd => ?_) fun _ => ?_
  · exact (hw d hd).kind_root
  refine Spec.bind _ (rejectSymlinkIfPresent_spec hP hdoes hfault fun d hd => ?_) fun _ => ?_
  · exact (hw d hd).kind_managed _
  refine Spec.bind _ (rejectSymlinkIfPresent_spec hP hdoes hfault fun d hd => ?_) fun _ => ?_
  · exact (hw d hd).kind_managed _
  refine Spec.bind (fun stagingExists d => P d ∧ S stagingExists d) (pathExists_spec hP hdoes
    hfault (fun d hd => ⟨hd, hS d hd⟩) fun b => hP.and (hSs b)) fun stagingExists => ?_
  refine Spec.bind (fun finalizedExists d => P d ∧ S stagingExists d ∧ F finalizedExists d)
    (pathExists_spec (hP.and (hSs _)) hdoes (fun hf d hd => hfault hf d hd.1)
      (fun d hd => ⟨hd.1, hd.2, hF d hd.1⟩) fun b => hP.and ((hSs _).and (hFs b)))
    fun finalizedExists => ?_
  have hst := hP.and ((hSs stagingExists).and (hFs finalizedExists))
  refine Spec.bind _ ((throwIf_spec hst fun hc d hd => ?_)) fun _ => ?_
  · obtain ⟨rfl, rfl⟩ := hc
    exact hboth _ d hd.1 hd.2.1 hd.2.2
  refine Spec.assume fun hone => ?_
  refine Spec.ite (fun hc => ?_) fun hc => ?_
  · obtain ⟨rfl, rfl⟩ := hc
    exact Spec.pure hst fun d hd => hnone d hd.1 hd.2.1 hd.2.2
  · have hst : stagingExists = !finalizedExists := by
      cases stagingExists <;> cases finalizedExists <;> simp_all
    rw [hst]
    exact hread finalizedExists

theorem throwIf_uses {ops : FsOp → Prop} {throws : Exception → Prop} {c : Prop} [Decidable c]
    {e : Exception} (he : throws e) : (throwIf c e).Uses ops (fun _ => ¬c) throws :=
  .ite (fun _ => he) fun hc => hc

theorem orThrow_uses {ops : FsOp → Prop} {throws : Exception → Prop} {a : Option α}
    (he : throws .filesystemError) : (orThrow a).Uses ops (fun _ => True) throws := by
  cases a with
  | none => exact he
  | some a => trivial

theorem call_uses {β : Type} {ops : FsOp → Prop} {returns : β → Prop}
    {throws : Exception → Prop} {o : FsOp} {f : o.Res → StoreProg β} (ho : ops o)
    (hf : ∀ r, (f r).Uses ops returns throws) : ((call o).bind f).Uses ops returns throws :=
  ⟨ho, hf⟩

theorem readBoundedRegularFile_uses (p : ManagedPath) :
    (readBoundedRegularFile p).Uses Reads (fun _ => True) fun _ => True := by
  refine Prog.Uses.bind (fun _ => True) ⟨fun _ _ => rfl, fun _ => orThrow_uses trivial⟩
    fun status _ => Prog.Uses.bind _ (throwIf_uses trivial) fun _ _ =>
      call_uses (fun _ _ => rfl) fun (size : Option ℕ) => ?_
  cases size with
  | none => trivial
  | some size =>
    refine Prog.Uses.bind _ (throwIf_uses trivial) fun _ _ =>
      call_uses (fun _ _ => rfl) fun (input : Option ByteString) => ?_
    cases input with
    | none => trivial
    | some input =>
      refine call_uses (fun _ _ => rfl) fun (good : Bool) =>
        Prog.Uses.bind _ (throwIf_uses trivial) fun _ _ => ?_
      trivial

/-- Reading an artifact changes nothing and names the directory it was told to read. -/
theorem readArtifact_uses (recordingId : ByteString) (finalized : Bool) :
    (readArtifact recordingId finalized).Uses Reads
      (fun r => ∃ start stop, r = some ⟨artifactPaths recordingId, finalized, start, stop⟩)
      fun _ => True := by
  refine Prog.Uses.bind (fun _ => True) ⟨fun _ _ => rfl, fun kind =>
    (orThrow_uses trivial).bind _ fun _ _ => (throwIf_uses trivial).mono (fun _ h => h)
      (fun _ _ => trivial) fun _ h => h⟩ fun _ _ => ?_
  refine Prog.Uses.bind (fun _ => True) ⟨fun _ _ => rfl, fun _ => orThrow_uses trivial⟩
    fun present _ => Prog.Uses.bind _ (throwIf_uses trivial) fun _ _ => ?_
  refine (readBoundedRegularFile_uses _).bind _ fun start _ => ?_
  refine Prog.Uses.bind (fun _ => True) ?_ fun stop _ => ⟨start, stop, rfl⟩
  refine Prog.Uses.bind (fun _ => True) ⟨fun _ _ => rfl, fun _ => orThrow_uses trivial⟩
    fun present _ => .ite (fun _ => ?_) fun _ => trivial
  exact (readBoundedRegularFile_uses _).bind _ fun _ _ => trivial

section Exact
variable {recordingId : ByteString} {finalized : Bool} {startRequest stopRequest : Option ByteString}

/-- The lookup of an artifact that stays where it is, with its requests. -/
theorem findPersistedArtifact_present (hid : isRecordingIdValid recordingId = true)
    (hP : Stable others P) (hdoes : ∀ d, does d d) (hw : ∀ d, P d → d.WellFormed)
    (hn : ∀ d, P d → Holds d (place finalized) recordingId startRequest stopRequest)
    (hE : ∀ e d, P d → ArtifactFails admits startRequest stopRequest e → E e d) :
    Spec admits others does P (findPersistedArtifact recordingId)
      (fun r d => (∃ c, startRequest = some c ∧ c.length ≤ maxRequestFileBytes ∧
        (∀ c', stopRequest = some c' → c'.length ≤ maxRequestFileBytes) ∧
        r = some ⟨artifactPaths recordingId, finalized, c, stopRequest⟩) ∧ P d) E := by
  have hhere : ∀ d, P d → d.pathExists (.artifact (place finalized) recordingId) = true :=
    fun d hd => ((hw d hd).pathExists_artifact _ _).mpr (by simp [(hn d hd).directory])
  have hthere : ∀ d, P d → d.pathExists (.artifact (place !finalized) recordingId) = false := by
    intro d hd
    rw [← Bool.not_eq_true, (hw d hd).pathExists_artifact, not_not]
    have hone := (hw d hd).one_place recordingId
    have hdir := (hn d hd).directory
    cases finalized with
    | false => exact hone.resolve_left (by simp_all [place])
    | true => exact hone.resolve_right (by simp_all [place])
  have hflags : ∀ d, P d → d.pathExists (.artifact .staging recordingId) = !finalized ∧
      d.pathExists (.artifact .finalized recordingId) = finalized := by
    intro d hd
    cases finalized with
    | false => exact ⟨hhere d hd, hthere d hd⟩
    | true => exact ⟨hthere d hd, hhere d hd⟩
  refine findPersistedArtifact_spec (S := fun b _ => b = !finalized) (F := fun b _ => b = finalized)
    hid hP hdoes hw (fun hf d hd => hE _ d hd (.inl hf)) (fun d hd => (hflags d hd).1)
    (fun _ => stable_const _ _) (fun d hd => (hflags d hd).2) (fun _ => stable_const _ _) ?_ ?_ ?_
  · rintro e d hd h rfl
    cases h
  · rintro d hd h rfl
    cases h
  · intro b
    refine Spec.pre (P := fun d => b = finalized ∧ P d) (fun d hd => ⟨hd.2.2, hd.1⟩)
      (Spec.assume fun hb => ?_)
    subst hb
    exact readArtifact_spec hP hdoes hn hE

/-- The lookup of an identity that stays absent. -/
theorem findPersistedArtifact_absent (hid : isRecordingIdValid recordingId = true)
    (hP : Stable others P) (hdoes : ∀ d, does d d) (hw : ∀ d, P d → d.WellFormed)
    (hn : ∀ d, P d → ∀ m, d (.artifact m recordingId) = none)
    (hE : ∀ e d, P d → Faulty admits → E e d) :
    Spec admits others does P (findPersistedArtifact recordingId) (fun r d => r = none ∧ P d) E := by
  have hflag : ∀ d, P d → ∀ m, d.pathExists (.artifact m recordingId) = false := by
    intro d hd m
    rw [← Bool.not_eq_true, (hw d hd).pathExists_artifact, not_not]
    exact hn d hd m
  refine findPersistedArtifact_spec (S := fun b _ => b = false) (F := fun b _ => b = false)
    hid hP hdoes hw (fun hf d hd => hE _ d hd hf) (fun d hd => hflag d hd _)
    (fun _ => stable_const _ _) (fun d hd => hflag d hd _) (fun _ => stable_const _ _) ?_ ?_ ?_
  · rintro e d hd h
    cases h
  · rintro d hd - -
    exact ⟨rfl, hd⟩
  · intro b
    refine Spec.of_false fun d hd => ?_
    have hb : b = false := hd.2.2
    subst hb
    cases hd.2.1

/-- What a lookup under the interference of any thread says of a finalized artifact. -/
theorem findPersistedArtifact_shared (hid : isRecordingIdValid recordingId = true)
    (hdoes : ∀ d, does d d) :
    Spec anyChoice Set.univ does Disk.WellFormed (findPersistedArtifact recordingId)
      (fun r d => (∀ a, r = some a → a.paths = artifactPaths recordingId ∧ (a.finalized = true →
        Holds d .finalized recordingId (some a.startRequest) a.stopRequest)) ∧ d.WellFormed)
      fun _ _ => True := by
  have hw : Stable Set.univ WellFormed := stable_wellFormed _
  have hfin : Stable Set.univ fun d => d.WellFormed ∧ d (.artifact .finalized recordingId) ≠ none := by
    intro d d' hc hd
    exact ⟨(hc.1 hd.1).1, ((hc.1 hd.1).2.finalized _ hd.2).1 ▸ hd.2⟩
  refine findPersistedArtifact_spec (S := fun _ _ => True)
    (F := fun b d => b = true → d.WellFormed ∧ d (.artifact .finalized recordingId) ≠ none)
    hid hw hdoes (fun _ h => h) (fun _ _ _ => trivial) (fun _ _ => trivial)
    (fun _ => stable_const _ _) (fun d hd h => ⟨hd, (hd.pathExists_artifact _ _).mp h⟩)
    (fun _ d d' hc h hb => hfin d d' hc (h hb)) (fun _ _ _ _ _ => trivial)
    (fun d hd _ _ => ⟨fun a ha => (Option.some_ne_none a ha.symm).elim, hd⟩) fun b => ?_
  cases b with
  | false =>
    refine ((Spec.of_reads (readArtifact_uses recordingId false) hw hdoes).pre
      fun d hd => hd.1).post (fun r d hr => ?_) fun _ _ _ => trivial
    obtain ⟨⟨start, stop, rfl⟩, hd⟩ := hr
    exact ⟨fun a ha => by cases ha; exact ⟨rfl, fun h => by cases h⟩, hd⟩
  | true =>
    -- The requests of a finalized artifact stay as they are from here on.
    refine Spec.pre (P := fun d => ∃ n : Option ByteString × Option ByteString,
      d.WellFormed ∧ Holds d .finalized recordingId n.1 n.2) (fun d hd => ?_)
      (Spec.of_exists fun n => ?_)
    · obtain ⟨start, hstart⟩ := hd.1.entry .finalized recordingId (.file .startRequest)
      obtain ⟨stop, hstop⟩ := hd.1.entry .finalized recordingId (.file .stopRequest)
      exact ⟨(start, stop), hd.1,
        ⟨(hd.1.artifact_dir _ _ (hd.2.2 rfl).2).1, hstart, hstop⟩⟩
    · refine (readArtifact_spec ?_ hdoes (fun d hd => hd.2) (fun _ _ _ _ => trivial)).post
        (fun r d hr => ?_) fun _ _ h => h
      · intro d d' hc hd
        exact ⟨(hc.1 hd.1).1, hd.2.persists (hc.1 hd.1).2⟩
      · obtain ⟨⟨c, hc, -, -, rfl⟩, hd, hh⟩ := hr
        refine ⟨fun a ha => ?_, hd⟩
        cases ha
        exact ⟨rfl, fun _ => hc ▸ hh⟩

end Exact

end RecordingStore
end NodusVision.Recording
