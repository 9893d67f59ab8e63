import NodusVision.Program.Triple
import NodusVision.Storage.Layout

/-! Rules for programs that share the recording root with another thread. -/
namespace NodusVision.Storage
open Text Program

namespace Disk

/-- Lawful changes within a set of paths. -/
def Changes (paths : Set ManagedPath) (d d' : Disk) : Prop := d.Lawful d' ∧ Touches paths d d'

variable {paths more : Set ManagedPath} {d e f : Disk}

theorem Changes.refl (paths : Set ManagedPath) (d : Disk) : Changes paths d d :=
  ⟨.refl d, .refl paths d⟩

theorem Changes.trans (h : Changes paths d e) (k : Changes paths e f) : Changes paths d f :=
  ⟨h.1.trans k.1, h.2.trans k.2⟩

theorem Changes.mono (hsub : paths ⊆ more) (h : Changes paths d e) : Changes more d e :=
  ⟨h.1, fun p hp => h.2 p fun hmem => hp (hsub hmem)⟩

/-- An assertion that changes of the paths keep. -/
def Stable (paths : Set ManagedPath) (P : Disk → Prop) : Prop :=
  ∀ d d', Changes paths d d' → P d → P d'

theorem stable_empty (P : Disk → Prop) : Stable ∅ P := fun _ _ h hP => touches_empty h.2 ▸ hP

theorem Stable.mono {P : Disk → Prop} (hsub : paths ⊆ more) (h : Stable more P) :
    Stable paths P := fun d d' hc => h d d' (hc.mono hsub)

theorem Stable.and {P Q : Disk → Prop} (hP : Stable paths P) (hQ : Stable paths Q) :
    Stable paths fun d => P d ∧ Q d := fun d d' hc h => ⟨hP d d' hc h.1, hQ d d' hc h.2⟩

theorem stable_const (paths : Set ManagedPath) (c : Prop) : Stable paths fun _ => c :=
  fun _ _ _ h => h

theorem stable_wellFormed (paths : Set ManagedPath) : Stable paths WellFormed :=
  fun _ _ hc h => (hc.1 h).1

/-- What is known of one path outside the set. -/
theorem stable_at {p : ManagedPath} (hp : p ∉ paths) (P : Option Node → Prop) :
    Stable paths fun d => P (d p) := by
  intro d d' hc h
  simpa only [hc.2 p hp] using h

end Disk

open Disk

/-- An operation that only answers. -/
def Reads (o : FsOp) : Prop := ∀ c m, (exec o c m).2 = m

/-- File system calls take no time of their own. -/
theorem exec_steady (o : FsOp) (c : Choice) (m : Machine) : (exec o c m).2.steady = m.steady := by
  cases o <;> simp only [exec] <;> repeat' split
  all_goals rfl

theorem exec_unix (o : FsOp) (c : Choice) (m : Machine) : (exec o c m).2.unix = m.unix := by
  cases o <;> simp only [exec] <;> repeat' split
  all_goals rfl

/-- Other threads change the paths of `others`; the program itself does `does`. -/
def sharing (others : Set ManagedPath) (does : Disk → Disk → Prop) : Interference Machine where
  rely m m' := Changes others m.disk m'.disk
  guar m m' := does m.disk m'.disk
  rely_refl m := .refl others m.disk
  rely_trans := Changes.trans

/-- A triple with assertions on the disk. -/
def Spec {α : Type} (admits : Choice → Prop) (others : Set ManagedPath)
    (does : Disk → Disk → Prop) (P : Disk → Prop) (p : StoreProg α) (Q : α → Disk → Prop)
    (E : Exception → Disk → Prop) : Prop :=
  Triple exec (sharing others does) admits (fun m => P m.disk) p (fun a m => Q a m.disk)
    fun e m => E e m.disk

namespace Spec
variable {α β : Type} {admits : Choice → Prop} {others : Set ManagedPath}
  {does : Disk → Disk → Prop} {P P' : Disk → Prop} {p : StoreProg α} {Q Q' : α → Disk → Prop}
  {E E' : Exception → Disk → Prop}

theorem pure {a : α} (hP : Stable others P) (h : ∀ d, P d → Q a d) :
    Spec admits others does P (.pure a) Q E :=
  Triple.pure (fun _ _ hr hm => hP _ _ hr hm) fun _ hm => h _ hm

theorem throw {e : Exception} (hP : Stable others P) (h : ∀ d, P d → E e d) :
    Spec admits others does P (.throw e : StoreProg α) Q E :=
  Triple.throw (fun _ _ hr hm => hP _ _ hr hm) fun _ hm => h _ hm

theorem op {o : FsOp} {k : o.Res → StoreProg α} (hP : Stable others P)
    (R : o.Res → Disk → Prop)
    (hstep : ∀ m c, P m.disk → admits c →
      does m.disk (exec o c m).2.disk ∧ R (exec o c m).1 (exec o c m).2.disk)
    (hk : ∀ r, Spec admits others does (R r) (k r) Q E) :
    Spec admits others does P (.op o k) Q E :=
  Triple.op (fun _ _ hr hm => hP _ _ hr hm) (fun r m => R r m.disk) hstep hk

/-- An operation that leaves the disk as it is, with what its answer says of the disk. -/
theorem query {o : FsOp} {k : o.Res → StoreProg α} (hP : Stable others P)
    (hdoes : ∀ d, does d d) (R : o.Res → Disk → Prop)
    (hq : ∀ m c, P m.disk → admits c →
      (exec o c m).2 = m ∧ R (exec o c m).1 m.disk)
    (hk : ∀ r, Spec admits others does (R r) (k r) Q E) :
    Spec admits others does P (.op o k) Q E := by
  refine op hP R (fun m c hm hc => ?_) hk
  obtain ⟨he, hR⟩ := hq m c hm hc
  rw [he]
  exact ⟨hdoes _, hR⟩

theorem bind {f : α → StoreProg β} {R : β → Disk → Prop} (Q : α → Disk → Prop)
    (hp : Spec admits others does P p Q E) (hf : ∀ a, Spec admits others does (Q a) (f a) R E) :
    Spec admits others does P (p.bind f) R E := Triple.bind _ hp hf

theorem tryCatch {handler : Exception → StoreProg α} (F : Exception → Disk → Prop)
    (hp : Spec admits others does P p Q F)
    (hh : ∀ e, Spec admits others does (F e) (handler e) Q E) :
    Spec admits others does P (p.tryCatch handler) Q E := Triple.tryCatch _ hp hh

theorem pre (h : ∀ d, P' d → P d) (hp : Spec admits others does P p Q E) :
    Spec admits others does P' p Q E := Triple.pre (fun _ hm => h _ hm) hp

theorem post (hQ : ∀ a d, Q a d → Q' a d) (hE : ∀ e d, E e d → E' e d)
    (hp : Spec admits others does P p Q E) : Spec admits others does P p Q' E' :=
  Triple.post (fun a m h => hQ a m.disk h) (fun e m h => hE e m.disk h) hp

theorem assume {c : Prop} (h : c → Spec admits others does P p Q E) :
    Spec admits others does (fun d => c ∧ P d) p Q E := Triple.assume h

theorem ite {c : Prop} [Decidable c] {q : StoreProg α}
    (hp : c → Spec admits others does P p Q E) (hq : ¬c → Spec admits others does P q Q E) :
    Spec admits others does P (if c then p else q) Q E := Triple.ite hp hq

theorem of_exists {ι : Type} {P : ι → Disk → Prop}
    (h : ∀ i, Spec admits others does (P i) p Q E) :
    Spec admits others does (fun d => ∃ i, P i d) p Q E := fun m ⟨i, hm⟩ => h i m hm

/-- A program whose operations all keep an assertion. -/
theorem of_uses {ops : FsOp → Prop} {returns : α → Prop} {throws : Exception → Prop}
    (h : p.Uses ops returns throws) (hP : Stable others P)
    (hops : ∀ o c m, ops o → P m.disk →
      does m.disk (exec o c m).2.disk ∧ P (exec o c m).2.disk) :
    Spec admits others does P p (fun a d => returns a ∧ P d) fun e d => throws e ∧ P d := by
  induction p with
  | pure a => exact pure hP fun _ hd => ⟨h, hd⟩
  | throw e => exact throw hP fun _ hd => ⟨h, hd⟩
  | op o k ih => exact op hP (fun _ => P) (fun m c hm _ => hops o c m h.1 hm) fun r => ih r (h.2 r)

/-- A program that only asks. -/
theorem of_reads {returns : α → Prop} {throws : Exception → Prop}
    (h : p.Uses Reads returns throws) (hP : Stable others P) (hdoes : ∀ d, does d d) :
    Spec admits others does P p (fun a d => returns a ∧ P d) fun e d => throws e ∧ P d := by
  refine of_uses h hP fun o c m ho hm => ?_
  rw [ho c m]
  exact ⟨hdoes _, hm⟩

theorem of_false (h : ∀ d, ¬P d) : Spec admits others does P p Q E := fun m hm => (h m.disk hm).elim

end Spec

end NodusVision.Storage
