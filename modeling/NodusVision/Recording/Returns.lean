import NodusVision.Recording.Ledger

/-! What a call on an id leaves behind when it returns, whatever happens besides. -/
namespace NodusVision.Recording
open Text Storage Disk Program RecordingStore

/-- Interference that leaves the stored requests of the id alone. -/
def untouching (recordingId : ByteString) : Interference Machine where
  rely m m' := Untouched recordingId m.disk m'.disk
  guar _ _ := True
  rely_refl m := .refl m.disk
  rely_trans := Untouched.trans

/-- A triple about a call that returns, with assertions on the disk. -/
def Returns {α : Type} (recordingId : ByteString) (P : Disk → Prop) (p : StoreProg α)
    (Q : α → Disk → Prop) : Prop :=
  Triple exec (untouching recordingId) anyChoice (fun m => P m.disk) p (fun a m => Q a m.disk)
    fun _ _ => True

/-- An assertion that holds while the stored requests are untouched. -/
def Kept (recordingId : ByteString) (P : Disk → Prop) : Prop :=
  ∀ d d', Untouched recordingId d d' → P d → P d'

/-- A returning call leaves its postcondition, whatever happens besides. -/
theorem Returns.completes {α : Type} {recordingId : ByteString} {P : Disk → Prop}
    {p : StoreProg α} {Q : α → Disk → Prop} {a : α} {m m' : Machine}
    (h : Returns recordingId P p Q) (hP : P m.disk)
    (hruns : Completes exec (besides recordingId) anyChoice p m (.ok a) m') : Q a m'.disk := by
  have hsafe : p.Safe exec (besides recordingId) anyChoice (fun a m => Q a m.disk)
      (fun _ _ => True) m :=
    Prog.Safe.weaken (fun _ _ hr => Untouched.of_besides hr) (fun _ _ _ => trivial) (h m hP)
  exact hruns.safe hsafe

section Kept
variable {recordingId : ByteString} {P Q : Disk → Prop} {p : ManagedPath}

theorem Kept.and (hP : Kept recordingId P) (hQ : Kept recordingId Q) :
    Kept recordingId fun d => P d ∧ Q d := fun d d' hu h => ⟨hP d d' hu h.1, hQ d d' hu h.2⟩

theorem kept_const (c : Prop) : Kept recordingId fun _ => c := fun _ _ _ h => h

theorem kept_ledger (hp : IsLedgerPath recordingId p) (R : Option Node → Prop) :
    Kept recordingId fun d => R (d p) := by
  intro d d' hu h
  rw [hu.ledger p hp]
  exact h

/-- What is known of a managed directory that is there. -/
theorem kept_managed (hp : p = .root ∨ ∃ m, p = .managed m) {n : Node} :
    Kept recordingId fun d => d p = some n := by
  intro d d' hu h
  rcases hu.managed p hp with he | ⟨hn, -⟩
  · exact he.trans h
  · cases hn.symm.trans h

end Kept

namespace Returns
variable {α β : Type} {recordingId : ByteString} {P P' : Disk → Prop} {p : StoreProg α}
  {Q Q' : α → Disk → Prop}

theorem pure {a : α} (hP : Kept recordingId P) (h : ∀ d, P d → Q a d) :
    Returns recordingId P (.pure a) Q :=
  Triple.pure (fun _ _ hr hm => hP _ _ hr hm) fun _ hm => h _ hm

theorem throw (e : Exception) : Returns recordingId P (.throw e : StoreProg α) Q :=
  fun _ _ _ _ => trivial

theorem bind {f : α → StoreProg β} {R : β → Disk → Prop} (Q : α → Disk → Prop)
    (hp : Returns recordingId P p Q) (hf : ∀ a, Returns recordingId (Q a) (f a) R) :
    Returns recordingId P (p.bind f) R := Triple.bind _ hp hf

theorem pre (h : ∀ d, P' d → P d) (hp : Returns recordingId P p Q) : Returns recordingId P' p Q :=
  Triple.pre (fun _ hm => h _ hm) hp

theorem post (h : ∀ a d, Q a d → Q' a d) (hp : Returns recordingId P p Q) :
    Returns recordingId P p Q' := Triple.post (fun a m hq => h a m.disk hq) (fun _ _ he => he) hp

theorem assume {c : Prop} (h : c → Returns recordingId P p Q) :
    Returns recordingId (fun d => c ∧ P d) p Q := Triple.assume h

theorem op {o : FsOp} {k : o.Res → StoreProg α} (hP : Kept recordingId P) (R : o.Res → Disk → Prop)
    (hstep : ∀ m c, P m.disk → R (exec o c m).1 (exec o c m).2.disk)
    (hk : ∀ r, Returns recordingId (R r) (k r) Q) : Returns recordingId P (.op o k) Q :=
  Triple.op (fun _ _ hr hm => hP _ _ hr hm) (fun r m => R r m.disk)
    (fun m c hm _ => ⟨trivial, hstep m c hm⟩) hk

theorem call {o : FsOp} {f : o.Res → StoreProg β} {S : β → Disk → Prop} (hP : Kept recordingId P)
    (R : o.Res → Disk → Prop) (hstep : ∀ m c, P m.disk → R (exec o c m).1 (exec o c m).2.disk)
    (hk : ∀ r, Returns recordingId (R r) (f r) S) : Returns recordingId P ((call o).bind f) S :=
  op hP R hstep hk

theorem ite {c : Prop} [Decidable c] {q : StoreProg α} (hp : c → Returns recordingId P p Q)
    (hq : ¬c → Returns recordingId P q Q) : Returns recordingId P (if c then p else q) Q :=
  Triple.ite hp hq

theorem throwIf {c : Prop} [Decidable c] {e : Exception} (hP : Kept recordingId P) :
    Returns recordingId P (throwIf c e) fun _ d => ¬c ∧ P d := by
  refine ite (fun _ => throw e) fun hc => ?_
  exact Returns.pure hP fun _ hd => ⟨hc, hd⟩

/-- A call whose failure is an exception. -/
theorem require {o : FsOp} (h : o.Res = Bool) {e : Exception} {R : Disk → Prop}
    (hP : Kept recordingId P) (hR : Kept recordingId R)
    (hstep : ∀ m c, P m.disk → cast h (exec o c m).1 = true → R (exec o c m).2.disk) :
    Returns recordingId P (require o h e) fun _ => R := by
  refine op hP (fun r d => cast h r = true → R d) (fun m c hm ht => hstep m c hm ht) fun r => ?_
  cases hr : cast h r with
  | true =>
    refine ite (fun hf => by cases hf) fun _ => ?_
    exact Returns.pure (fun d d' hu hd _ => hR d d' hu (hd rfl)) fun d hd => hd rfl
  | false =>
    refine ite (fun _ => throw e) fun hf => ?_
    exact absurd rfl hf

/-- A throwing query whose answer is a function of the disk. -/
theorem query {o : FsOp} {k : o.Res → StoreProg α} {f : Disk → α} {R : α → Disk → Prop}
    (hP : Kept recordingId P) (hR : ∀ d, P d → R (f d) d) (hs : ∀ a, Kept recordingId (R a))
    (hexec : ∀ m c, (exec o c m).2 = m ∧ k (exec o c m).1 = orThrow (c.answer (f m.disk))) :
    Returns recordingId P (.op o k) R := by
  intro m hm t ht c _
  have hPt := hP _ _ ht hm
  obtain ⟨hstate, hanswer⟩ := hexec t c
  refine ⟨trivial, ?_⟩
  rw [hstate, hanswer]
  cases hf : c.fails with
  | true =>
    simp only [Choice.answer, hf, if_true, orThrow]
    exact fun _ _ => trivial
  | false =>
    simp only [Choice.answer, hf, Bool.false_eq_true, if_false, orThrow]
    exact fun u hu => hs _ _ _ hu (hR _ hPt)

variable {path : ManagedPath}

theorem pathExists {R : Bool → Disk → Prop} (hP : Kept recordingId P)
    (hR : ∀ d, P d → R (d.pathExists path) d) (hs : ∀ b, Kept recordingId (R b)) :
    Returns recordingId P (pathExists path) R :=
  query (o := .pathExists path) (f := fun d => d.pathExists path) hP hR hs fun _ _ => ⟨rfl, rfl⟩

theorem symlinkStatus {R : FileKind → Disk → Prop} (hP : Kept recordingId P)
    (hR : ∀ d, P d → R (d.kind path) d) (hs : ∀ b, Kept recordingId (R b)) :
    Returns recordingId P (symlinkStatus path) R :=
  query (o := .symlinkStatus path) (f := fun d => d.kind path) hP hR hs fun _ _ => ⟨rfl, rfl⟩

theorem isDirectory {R : Bool → Disk → Prop} (hP : Kept recordingId P)
    (hR : ∀ d, P d → R (d.isDirectory path) d) (hs : ∀ b, Kept recordingId (R b)) :
    Returns recordingId P (isDirectory path) R :=
  query (o := .isDirectory path) (f := fun d => d.isDirectory path) hP hR hs fun _ _ => ⟨rfl, rfl⟩

/-- A program that only asks. -/
theorem reads (h : Only Reads p) (hP : Kept recordingId P) :
    Returns recordingId P p fun _ => P := by
  induction p with
  | pure a => exact Returns.pure hP fun _ hd => hd
  | throw e => exact throw e
  | op o k ih =>
    refine op hP (fun _ => P) (fun m c hm => ?_) fun r => ih r (h.2 r)
    rw [h.1 c m]
    exact hm

end Returns

/-- The directories that the store prepares. -/
structure Ready (d : Disk) : Prop where
  root : d .root = some .directory
  managed : ∀ m, d (.managed m) = some .directory

/-- The artifact of an id is in one place, with these requests. -/
structure Registered (recordingId : ByteString) (finalized : Bool)
    (startRequest stopRequest : Option ByteString) (d : Disk) : Prop where
  ready : Ready d
  holds : Holds d (place finalized) recordingId startRequest stopRequest
  elsewhere : d.pathExists (.artifact (place !finalized) recordingId) = false

section Registered
variable {recordingId : ByteString} {finalized : Bool} {startRequest stopRequest : Option ByteString}

theorem pathExists_congr {d d' : Disk} {p : ManagedPath} (h : d' p = d p) :
    d'.pathExists p = d.pathExists p := by
  simp only [Disk.pathExists, h]

theorem kept_ready : Kept recordingId Ready := by
  intro d d' hu h
  refine ⟨?_, fun m => ?_⟩
  · exact kept_managed (.inl rfl) d d' hu h.root
  · exact kept_managed (.inr ⟨m, rfl⟩) d d' hu (h.managed m)

theorem kept_pathExists {m : ManagedDirectory} {b : Bool} :
    Kept recordingId fun d => d.pathExists (.artifact m recordingId) = b := by
  intro d d' hu h
  rwa [pathExists_congr (hu.ledger _ (artifact_isLedgerPath m))]

theorem kept_registered : Kept recordingId (Registered recordingId finalized startRequest stopRequest) := by
  intro d d' hu h
  have hdirectory := hu.ledger _ (artifact_isLedgerPath (place finalized))
  have hstart := hu.ledger _ (request_isLedgerPath (place finalized) (.inl rfl))
  have hstop := hu.ledger _ (request_isLedgerPath (place finalized) (.inr rfl))
  refine ⟨kept_ready d d' hu h.ready, ⟨?_, ?_, ?_⟩, kept_pathExists d d' hu h.elsewhere⟩
  · rw [hdirectory, h.holds.directory]
  · rw [hstart, h.holds.start]
  · rw [hstop, h.holds.stop]

end Registered

section Writing
variable {recordingId contents : ByteString} {R : Disk → Prop} {f : ArtifactFile}

/-- Preparing the root leaves the managed directories in place. -/
theorem initializeStore_returns (hR : Kept recordingId R) :
    Returns recordingId R initializeStore fun _ d => R d ∧ Ready d := by
  have hother : 0 :: recordingId ≠ recordingId := by simp
  have hcheck : ∀ {p : ManagedPath} {S : Disk → Prop} (e : Exception),
      p = .root ∨ (∃ m, p = .managed m) → Kept recordingId S →
      Returns recordingId S ((isDirectory p).bind fun directory =>
        (RecordingStore.throwIf (directory = false) e).bind fun _ => rejectSymlink p)
        fun _ d => S d ∧ d p = some .directory := by
    intro p S e hp hS
    have hdirectory : Kept recordingId fun d => d.isDirectory p = true := by
      intro d d' hu h
      rcases hu.managed p hp with he | ⟨hn, -⟩
      · simpa only [Disk.isDirectory, he] using h
      · simp [Disk.isDirectory, hn] at h
    have hkept := hS.and hdirectory
    refine Returns.bind (fun directory d => directory = true → S d ∧ d.isDirectory p = true)
      (Returns.isDirectory hS (fun d hd h => ⟨hd, h⟩)
        fun b d d' hu h hb => hkept d d' hu (h hb)) fun directory => ?_
    refine Returns.bind (fun _ d => S d ∧ d.isDirectory p = true) ((Returns.throwIf
      fun d d' hu h hb => hkept d d' hu (h hb)).post fun _ d h => ?_) fun _ => ?_
    · exact h.2 (by simpa using h.1)
    have hnode : Kept recordingId fun d => S d ∧ d p = some .directory := hS.and (kept_managed hp)
    refine Returns.bind (fun status d => status ≠ .symlink → S d ∧ d p = some .directory)
      (Returns.symlinkStatus hkept (fun d hd hk => ⟨hd.1, ?_⟩)
        fun b d d' hu h hb => hnode d d' hu (h hb)) fun status => ?_
    · obtain ⟨-, hd⟩ := hd
      cases hn : d p with
      | none => simp [Disk.isDirectory, hn] at hd
      | some n =>
        cases n with
        | directory => rfl
        | regular c => simp [Disk.isDirectory, hn] at hd
        | symlink b => simp [Disk.kind, hn] at hk
    · exact (Returns.throwIf fun d d' hu h hb => hnode d d' hu (h hb)).post fun _ d h => h.2 h.1
  have hchild : ∀ {S : Disk → Prop} (m : ManagedDirectory), Kept recordingId S →
      Returns recordingId S (initializeChild m) fun _ d => S d ∧ d (.managed m) = some .directory := by
    intro S m hS
    refine Returns.call hS (fun _ => S) (fun mach c hm => ?_) fun (creation : DirectoryCreation) =>
      Returns.bind _ (Returns.throwIf hS) fun _ => (hcheck _ (.inr ⟨m, rfl⟩) hS).pre fun _ h => h.2
    exact hS _ _ (Untouched.exec_confined hother (o := .createDirectory (.managed m))
      (.inl ⟨m, rfl⟩) c mach) hm
  have hroot := hcheck rootUnprepared (.inl rfl) hR
  have hkeptRoot := hR.and (kept_managed (.inl rfl) (n := .directory))
  have hkeptStaging := hkeptRoot.and (kept_managed (.inr ⟨.staging, rfl⟩) (n := .directory))
  refine Returns.bind _ (Returns.require rfl hR hR fun m c hm _ => ?_) fun _ => ?_
  · exact hR _ _ (Untouched.exec_confined hother (o := .createDirectories .root) rfl c m) hm
  have hall := Returns.bind _ hroot fun _ => Returns.bind _ (hchild .staging hkeptRoot) fun _ =>
    hchild .finalized hkeptStaging
  simp only [Prog.bind_assoc] at hall
  refine hall.post fun _ d h => ⟨h.1.1.1, ⟨h.1.1.2, fun m => ?_⟩⟩
  cases m with
  | staging => exact h.1.2
  | finalized => exact h.2

/-- A request file written atomically holds the contents. -/
theorem writeAtomically_returns (hf : IsRequestFile f) (hR : Kept recordingId R)
    (hset : ∀ d p n, p ∈ writtenPaths recordingId f → R d → R (d.set p n))
    (hstaging : ∀ d, R d → d (.artifact .staging recordingId) = some .directory) :
    Returns recordingId R (writeAtomically (.artifact .staging recordingId) f contents)
      fun _ d => R d ∧ d (.entry .staging recordingId (.file f)) = some (.regular contents) := by
  have htemporary : IsLedgerPath recordingId (.entry .staging recordingId (.temporary f)) :=
    .inr ⟨_, f, hf, .inr rfl⟩
  have hfile : IsLedgerPath recordingId (.entry .staging recordingId (.file f)) :=
    request_isLedgerPath .staging hf
  have hwriting : ∀ written : ByteString, Kept recordingId fun d =>
      R d ∧ d (.entry .staging recordingId (.temporary f)) = some (.regular written) :=
    fun written => hR.and (kept_ledger htemporary (· = some (.regular written)))
  have hdone : Kept recordingId fun d =>
      R d ∧ d (.entry .staging recordingId (.file f)) = some (.regular contents) :=
    hR.and (kept_ledger hfile (· = some (.regular contents)))
  have hremaining : ∀ n (written rest : ByteString), written ++ rest = contents →
      rest.length ≤ n → Returns recordingId
        (fun d => R d ∧ d (.entry .staging recordingId (.temporary f)) = some (.regular written))
        (writeRemaining (.entry .staging recordingId (.temporary f)) n rest)
        fun _ d => R d ∧ d (.entry .staging recordingId (.temporary f)) = some (.regular contents) := by
    intro n
    induction n with
    | zero =>
      intro written rest hall hlength
      have hnil : rest = [] := List.length_eq_zero_iff.mp (by omega)
      subst hnil
      rw [List.append_nil] at hall
      subst hall
      exact Returns.pure (hwriting _) fun _ hd => hd
    | succ n ih =>
      intro written rest hall hlength
      cases rest with
      | nil =>
        rw [List.append_nil] at hall
        subst hall
        exact Returns.pure (hwriting _) fun _ hd => hd
      | cons b rest =>
        refine Returns.op (hwriting _) (fun (answer : Option ℕ) d => ∀ k, answer = some k →
          0 < k ∧ R d ∧ d (.entry .staging recordingId (.temporary f)) =
            some (.regular (written ++ (b :: rest).take k))) (fun m c hm k hk => ?_)
          fun answer => ?_
        · cases hfails : c.fails with
          | true => simp [exec, hfails] at hk
          | false =>
            simp only [exec, hfails, Bool.false_eq_true, if_false, Option.some.injEq] at hk
            subst hk
            simp only [exec, hfails, Bool.false_eq_true, if_false, Machine.withDisk, append, hm.2]
            refine ⟨?_, hset _ _ _ (temporary_mem _ _) hm.1, set_self _ _ _⟩
            unfold Choice.transferred
            split
            · exact (‹_ ∧ _›).1
            · simp
        · cases answer with
          | none =>
            exact Returns.pre (P := fun _ => True) (fun _ _ => trivial) (Returns.op (kept_const True)
              (fun _ _ => True) (fun _ _ _ => trivial) fun _ => Returns.throw _)
          | some k =>
            refine Returns.pre (fun d hd => hd k rfl) (Returns.assume fun hk => ih _ _ ?_ ?_)
            · rw [List.append_assoc, List.take_append_drop, hall]
            · simp only [List.length_drop, List.length_cons] at hlength ⊢
              omega
  unfold writeAtomically
  simp only [ManagedPath.child_artifact]
  refine Returns.bind _ (Returns.require rfl hR (hwriting []) fun m c hm hopened => ?_) fun _ => ?_
  · simp only [exec] at hopened ⊢
    split at hopened
    · cases hopened
    · rename_i hc
      rw [if_neg hc]
      exact ⟨hset _ _ _ (temporary_mem _ _) hm, set_self _ _ _⟩
  refine Returns.bind _ (hremaining _ [] contents rfl le_rfl) fun _ => ?_
  let written : Disk → Prop := fun d =>
    R d ∧ d (.entry .staging recordingId (.temporary f)) = some (.regular contents)
  refine Returns.call (hwriting _) (fun _ => written) (fun m c hm => hm) fun (syncResult : Bool) => ?_
  refine Returns.call (hwriting _) (fun _ => written) (fun m c hm => hm) fun (closed : Bool) => ?_
  refine Returns.bind _ (Returns.throwIf (hwriting _)) fun _ => ?_
  refine Returns.bind _ ((Returns.require rfl (hwriting contents) hdone
    fun m c hm hrenamed => ?_).pre fun _ h => h.2) fun _ =>
      Returns.reads (syncDirectory_uses _) hdone
  have hparent : m.disk.parentPresent (.entry .staging recordingId (.file f)) = true := by
    simp [parentPresent, Disk.isDirectory, ManagedPath.parentPath, hstaging _ hm.1]
  cases hfails : c.fails with
  | true => simp [exec, hfails] at hrenamed
  | false =>
    simp only [exec, hfails, Disk.rename, hm.2, hparent, Bool.false_eq_true, if_false, if_true,
      Machine.withDisk]
    exact ⟨hset _ _ _ (file_mem _ _) (hset _ _ _ (temporary_mem _ _) hm.1), set_self _ _ _⟩

end Writing

end NodusVision.Recording
