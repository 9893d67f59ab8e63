import Mathlib.Data.Nat.Notation
import NodusVision.Program.Triple

/-! A thread whose function is a loop of passes. An exception that leaves a pass leaves the
thread. -/
namespace NodusVision.Program
variable {Op : Type} {Res : Op → Type} {ε α β L σ χ : Type}

/-- A computed result, or the exception it is. -/
def Prog.ofExcept : Except ε α → Prog Res ε α
  | .ok a => .pure a
  | .error e => .throw e

/-- A pass ends with the locals of the next one, or it leaves the loop. -/
inductive Thread (Res : Op → Type) (ε L : Type) where
  | running (p : Prog Res ε (Option L))
  | returned
  | terminated (e : ε)

namespace Thread

/-- The next step of the thread. -/
def step (exec : (o : Op) → χ → σ → Res o × σ) (body : L → Prog Res ε (Option L)) (c : χ) :
    Thread Res ε L → σ → Thread Res ε L × σ
  | .running (.op o k), s => (.running (k (exec o c s).1), (exec o c s).2)
  | .running (.pure (some locals)), s => (.running (body locals), s)
  | .running (.pure none), s => (.returned, s)
  | .running (.throw e), s => (.terminated e, s)
  | .returned, s => (.returned, s)
  | .terminated e, s => (.terminated e, s)

/-- The operation the next step performs. -/
def next : Thread Res ε L → Option Op
  | .running (.op o _) => some o
  | _ => none

def isTerminated : Thread Res ε L → Bool
  | .terminated _ => true
  | _ => false

/-- What is left of the current pass. -/
def pass : Thread Res ε L → Prog Res ε (Option L)
  | .running p => p
  | .returned => .pure none
  | .terminated e => .throw e

section Safe
variable (exec : (o : Op) → χ → σ → Res o × σ) (I : Interference σ) (admits : χ → Prop)
  (leaves : σ → Prop)

/-- No exception leaves the thread, whatever runs beside it, and it returns in `leaves` only. -/
def Safe : Thread Res ε L → σ → Prop
  | .running p, s => p.Safe exec I admits (fun next t => next = none → leaves t) (fun _ _ => False) s
  | .returned, s => ∀ t, I.rely s t → leaves t
  | .terminated _, _ => False

variable {exec I admits leaves} {body : L → Prog Res ε (Option L)} {p : Thread Res ε L} {s t : σ}

theorem Safe.rely (h : p.Safe exec I admits leaves s) (hr : I.rely s t) :
    p.Safe exec I admits leaves t := by
  cases p with
  | running p => exact Prog.Safe.rely h hr
  | returned => exact fun u hu => h u (I.rely_trans hr hu)
  | terminated e => exact h

theorem Safe.isTerminated (h : p.Safe exec I admits leaves s) : p.isTerminated = false := by
  cases p with
  | running p => rfl
  | returned => rfl
  | terminated e => exact h.elim

theorem Safe.of_returned (h : (Thread.returned : Thread Res ε L).Safe exec I admits leaves s) :
    leaves s := h s (I.rely_refl s)

/-- A step of a safe thread keeps the guarantee and leaves the thread safe, if every pass is. -/
theorem Safe.step (hguar : ∀ s, I.guar s s)
    (hbody : ∀ locals s, (body locals).Safe exec I admits (fun next t => next = none → leaves t)
      (fun _ _ => False) s)
    {c : χ} (hc : admits c) (h : p.Safe exec I admits leaves s) :
    I.guar s (p.step exec body c s).2 ∧
      (p.step exec body c s).1.Safe exec I admits leaves (p.step exec body c s).2 := by
  cases p with
  | returned => exact ⟨hguar s, h⟩
  | terminated e => exact h.elim
  | running p =>
    cases p with
    | op o k => exact Prog.Safe.op_step h c hc
    | throw e => exact (h s (I.rely_refl s)).elim
    | pure next =>
      cases next with
      | none => exact ⟨hguar s, fun t ht => h t ht rfl⟩
      | some locals => exact ⟨hguar s, hbody locals s⟩

end Safe

end Thread

namespace Prog
variable {p : Prog Res ε α}

/-- A program whose results and exceptions are as described is safe, if every operation keeps
the guarantee. -/
theorem Uses.safe {exec : (o : Op) → χ → σ → Res o × σ} {I : Interference σ} {admits : χ → Prop}
    {Q : α → σ → Prop} {E : ε → σ → Prop} {ops : Op → Prop} {returns : α → Prop}
    {throws : ε → Prop} (hguar : ∀ o c s, I.guar s (exec o c s).2)
    (hQ : ∀ a, returns a → ∀ s, Q a s) (hE : ∀ e, throws e → ∀ s, E e s)
    (h : p.Uses ops returns throws) (s : σ) : p.Safe exec I admits Q E s := by
  induction p generalizing s with
  | pure a => exact fun t _ => hQ a h t
  | throw e => exact fun t _ => hE e h t
  | op o k ih =>
    intro t _ c _
    exact ⟨hguar o c t, ih _ (h.2 _) _⟩

/-- At most `n` operations are left. -/
def Within : ℕ → Prog Res ε α → Prop
  | _, .pure _ => True
  | _, .throw _ => True
  | 0, .op _ _ => False
  | n + 1, .op _ k => ∀ r, (k r).Within n

theorem within_op {n : ℕ} {o : Op} {k : Res o → Prog Res ε α} (h : ∀ r, (k r).Within n) :
    (Prog.op o k).Within (n + 1) := h

theorem Within.mono {m n : ℕ} (h : p.Within m) (hmn : m ≤ n) : p.Within n := by
  induction p generalizing m n with
  | pure a => cases n <;> trivial
  | throw e => cases n <;> trivial
  | op o k ih =>
    cases m with
    | zero => exact h.elim
    | succ m =>
      cases n with
      | zero => exact (Nat.not_succ_le_zero m hmn).elim
      | succ n => exact fun r => ih r (h r) (Nat.le_of_succ_le_succ hmn)

theorem Within.bind {m n : ℕ} {f : α → Prog Res ε β} (h : p.Within m)
    (hf : ∀ a, (f a).Within n) : (p.bind f).Within (m + n) := by
  induction p generalizing m with
  | pure a => exact (hf a).mono (Nat.le_add_left n m)
  | throw e => cases hm : m + n <;> trivial
  | op o k ih =>
    cases m with
    | zero => exact h.elim
    | succ m =>
      rw [Nat.succ_add]
      exact fun r => ih r (h r)

theorem Within.tryCatch {m n : ℕ} {handler : ε → Prog Res ε α} (h : p.Within m)
    (hh : ∀ e, (handler e).Within n) : (p.tryCatch handler).Within (m + n) := by
  induction p generalizing m with
  | pure a => cases hm : m + n <;> trivial
  | throw e => exact (hh e).mono (Nat.le_add_left n m)
  | op o k ih =>
    cases m with
    | zero => exact h.elim
    | succ m =>
      rw [Nat.succ_add]
      exact fun r => ih r (h r)

/-- What is left after an answer is as described. -/
def Continues (P : (o : Op) → Res o → Prog Res ε α → Prop) : Prog Res ε α → Prop
  | .pure _ => True
  | .throw _ => True
  | .op o k => ∀ r, P o r (k r) ∧ (k r).Continues P

theorem Continues.mono {P P' : (o : Op) → Res o → Prog Res ε α → Prop}
    (hP : ∀ o r q, P o r q → P' o r q) (h : p.Continues P) : p.Continues P' := by
  induction p with
  | pure a => trivial
  | throw e => trivial
  | op o k ih => exact fun r => ⟨hP o r _ (h r).1, ih r (h r).2⟩

theorem Continues.bind {P : (o : Op) → Res o → Prog Res ε α → Prop}
    {P' : (o : Op) → Res o → Prog Res ε β → Prop} {f : α → Prog Res ε β} (h : p.Continues P)
    (hP : ∀ o r q, P o r q → P' o r (q.bind f)) (hf : ∀ a, (f a).Continues P') :
    (p.bind f).Continues P' := by
  induction p with
  | pure a => exact hf a
  | throw e => trivial
  | op o k ih => exact fun r => ⟨hP o r _ (h r).1, ih r (h r).2⟩

end Prog

namespace Thread

/-- What every pass continues with, every step of the thread continues with. -/
theorem continues_step {P : (o : Op) → Res o → Prog Res ε (Option L) → Prop}
    {exec : (o : Op) → χ → σ → Res o × σ} {body : L → Prog Res ε (Option L)} {c : χ}
    {p : Thread Res ε L} {s : σ} (hbody : ∀ locals, (body locals).Continues P)
    (h : p.pass.Continues P) : (p.step exec body c s).1.pass.Continues P := by
  cases p with
  | returned => trivial
  | terminated e => trivial
  | running p =>
    cases p with
    | op o k => exact (h _).2
    | throw e => trivial
    | pure next =>
      cases next with
      | none => trivial
      | some locals => exact hbody locals

theorem within_step {n : ℕ} {exec : (o : Op) → χ → σ → Res o × σ}
    {body : L → Prog Res ε (Option L)} {c : χ} {p : Thread Res ε L} {s : σ}
    (hbody : ∀ locals, (body locals).Within n) (h : p.pass.Within n) :
    (p.step exec body c s).1.pass.Within n := by
  cases p with
  | returned => cases n <;> trivial
  | terminated e => cases n <;> trivial
  | running p =>
    cases p with
    | op o k =>
      cases n with
      | zero => exact h.elim
      | succ n => exact (h _).mono (Nat.le_succ n)
    | throw e => cases n <;> trivial
    | pure next =>
      cases next with
      | none => cases n <;> trivial
      | some locals => exact hbody locals

end Thread

end NodusVision.Program
