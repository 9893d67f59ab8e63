/-! Programs as resumptions over a set of primitive operations, with exceptions.
An operation is answered by the environment, so other threads can act between two of them. -/
namespace NodusVision.Program

inductive Prog {Op : Type} (Res : Op → Type) (ε α : Type) where
  | pure (a : α)
  | throw (e : ε)
  | op (o : Op) (k : Res o → Prog Res ε α)

namespace Prog
variable {Op : Type} {Res : Op → Type} {ε α β : Type}

def bind : Prog Res ε α → (α → Prog Res ε β) → Prog Res ε β
  | .pure a, f => f a
  | .throw e, _ => .throw e
  | .op o k, f => .op o fun r => (k r).bind f

/-- `try { p } catch (...) { handler }` -/
def tryCatch : Prog Res ε α → (ε → Prog Res ε α) → Prog Res ε α
  | .pure a, _ => .pure a
  | .throw e, handler => handler e
  | .op o k, handler => .op o fun r => (k r).tryCatch handler

instance : Monad (Prog Res ε) where
  pure := .pure
  bind := bind

/-- One operation whose answer is the result. -/
def perform (o : Op) : Prog Res ε (Res o) := .op o .pure

@[simp] theorem pure_eq (a : α) : (Pure.pure a : Prog Res ε α) = .pure a := rfl

@[simp] theorem bind_eq (p : Prog Res ε α) (f : α → Prog Res ε β) : p >>= f = p.bind f := rfl

@[simp] theorem pure_bind (a : α) (f : α → Prog Res ε β) : (Prog.pure a).bind f = f a := rfl

@[simp] theorem throw_bind (e : ε) (f : α → Prog Res ε β) :
    (Prog.throw e : Prog Res ε α).bind f = .throw e := rfl

theorem bind_assoc {γ : Type} (p : Prog Res ε α) (f : α → Prog Res ε β) (g : β → Prog Res ε γ) :
    (p.bind f).bind g = p.bind fun a => (f a).bind g := by
  induction p with
  | pure a => rfl
  | throw e => rfl
  | op o k ih => exact congrArg (Prog.op o) (funext ih)

@[simp] theorem perform_bind (o : Op) (f : Res o → Prog Res ε β) :
    (perform o).bind f = .op o f := rfl

/-- Every operation, every result and every exception of the program is as described. -/
def Uses (ops : Op → Prop) (returns : α → Prop) (throws : ε → Prop) : Prog Res ε α → Prop
  | .pure a => returns a
  | .throw e => throws e
  | .op o k => ops o ∧ ∀ r, (k r).Uses ops returns throws

section Uses
variable {ops ops' : Op → Prop} {returns returns' : α → Prop} {throws throws' : ε → Prop}
  {p : Prog Res ε α}

theorem uses_any (p : Prog Res ε α) :
    p.Uses (fun _ => True) (fun _ => True) fun _ => True := by
  induction p with
  | pure a => trivial
  | throw e => trivial
  | op o k ih => exact ⟨trivial, ih⟩

theorem Uses.bind {f : α → Prog Res ε β} {after : β → Prop} (returns : α → Prop)
    (h : p.Uses ops returns throws) (hf : ∀ a, returns a → (f a).Uses ops after throws) :
    (p.bind f).Uses ops after throws := by
  induction p with
  | pure a => exact hf a h
  | throw e => exact h
  | op o k ih => exact ⟨h.1, fun r => ih r (h.2 r)⟩

theorem Uses.tryCatch {handler : ε → Prog Res ε α} (h : p.Uses ops returns throws')
    (hh : ∀ e, throws' e → (handler e).Uses ops returns throws) :
    (p.tryCatch handler).Uses ops returns throws := by
  induction p with
  | pure a => exact h
  | throw e => exact hh e h
  | op o k ih => exact ⟨h.1, fun r => ih r (h.2 r)⟩

theorem Uses.mono (ho : ∀ o, ops o → ops' o) (hr : ∀ a, returns a → returns' a)
    (ht : ∀ e, throws e → throws' e) (h : p.Uses ops returns throws) :
    p.Uses ops' returns' throws' := by
  induction p with
  | pure a => exact hr a h
  | throw e => exact ht e h
  | op o k ih => exact ⟨ho o h.1, fun r => ih r (h.2 r)⟩

theorem Uses.ite {c : Prop} [Decidable c] {q : Prog Res ε α}
    (hp : c → p.Uses ops returns throws) (hq : ¬c → q.Uses ops returns throws) :
    (if c then p else q).Uses ops returns throws := by
  split
  · exact hp ‹_›
  · exact hq ‹_›

end Uses

end Prog

section Safety
variable {Op : Type} {Res : Op → Type} {ε α β σ χ : Type}

/-- What the other threads may do between two operations, and what an operation may do. -/
structure Interference (σ : Type) where
  rely : σ → σ → Prop
  guar : σ → σ → Prop
  rely_refl : ∀ s, rely s s
  rely_trans : ∀ {s t u}, rely s t → rely t u → rely s u

/-- Every run of the program from the state, with any interference allowed by the rely, keeps
the guarantee at each operation and ends in `Q` or, by an exception, in `E`. Only
environment choices in `admits` are considered. -/
def Prog.Safe (exec : (o : Op) → χ → σ → Res o × σ) (I : Interference σ) (admits : χ → Prop)
    (Q : α → σ → Prop) (E : ε → σ → Prop) : Prog Res ε α → σ → Prop
  | .pure a, s => ∀ t, I.rely s t → Q a t
  | .throw e, s => ∀ t, I.rely s t → E e t
  | .op o k, s => ∀ t, I.rely s t → ∀ c, admits c →
      I.guar t (exec o c t).2 ∧ (k (exec o c t).1).Safe exec I admits Q E (exec o c t).2

variable {exec : (o : Op) → χ → σ → Res o × σ} {I : Interference σ} {admits : χ → Prop}
  {Q Q' : α → σ → Prop} {E E' : ε → σ → Prop} {p : Prog Res ε α} {s t : σ}

/-- Safety is stable under the interference it allows. -/
theorem Prog.Safe.rely (h : p.Safe exec I admits Q E s) (hr : I.rely s t) :
    p.Safe exec I admits Q E t := by
  cases p with
  | pure a => exact fun u hu => h u (I.rely_trans hr hu)
  | throw e => exact fun u hu => h u (I.rely_trans hr hu)
  | op o k => exact fun u hu => h u (I.rely_trans hr hu)

theorem Prog.Safe.op_step {o : Op} {k : Res o → Prog Res ε α}
    (h : (Prog.op o k).Safe exec I admits Q E s) (c : χ) (hc : admits c) :
    I.guar s (exec o c s).2 ∧ (k (exec o c s).1).Safe exec I admits Q E (exec o c s).2 :=
  h s (I.rely_refl s) c hc

theorem Prog.Safe.of_pure {a : α} (h : (Prog.pure a : Prog Res ε α).Safe exec I admits Q E s) :
    Q a s := h s (I.rely_refl s)

theorem Prog.Safe.of_throw {e : ε} (h : (Prog.throw e : Prog Res ε α).Safe exec I admits Q E s) :
    E e s := h s (I.rely_refl s)

theorem Prog.Safe.mono (hQ : ∀ a s, Q a s → Q' a s) (hE : ∀ e s, E e s → E' e s)
    (h : p.Safe exec I admits Q E s) : p.Safe exec I admits Q' E' s := by
  induction p generalizing s with
  | pure a => exact fun t ht => hQ a t (h t ht)
  | throw e => exact fun t ht => hE e t (h t ht)
  | op o k ih =>
    intro t ht c hc
    obtain ⟨hg, hk⟩ := h t ht c hc
    exact ⟨hg, ih _ hk⟩

theorem Prog.Safe.bind {f : α → Prog Res ε β} {R : β → σ → Prop}
    (h : p.Safe exec I admits (fun a s => (f a).Safe exec I admits R E s) E s) :
    (p.bind f).Safe exec I admits R E s := by
  induction p generalizing s with
  | pure a => exact h.of_pure
  | throw e => exact h
  | op o k ih =>
    intro t ht c hc
    obtain ⟨hg, hk⟩ := h t ht c hc
    exact ⟨hg, ih _ hk⟩

theorem Prog.Safe.tryCatch {handler : ε → Prog Res ε α}
    (h : p.Safe exec I admits Q (fun e s => (handler e).Safe exec I admits Q E s) s) :
    (p.tryCatch handler).Safe exec I admits Q E s := by
  induction p generalizing s with
  | pure a => exact h
  | throw e => exact h.of_throw
  | op o k ih =>
    intro t ht c hc
    obtain ⟨hg, hk⟩ := h t ht c hc
    exact ⟨hg, ih _ hk⟩

theorem Prog.Safe.weaken {J : Interference σ} (hr : ∀ s t, J.rely s t → I.rely s t)
    (hg : ∀ s t, I.guar s t → J.guar s t) (h : p.Safe exec I admits Q E s) :
    p.Safe exec J admits Q E s := by
  induction p generalizing s with
  | pure a => exact fun t ht => h t (hr s t ht)
  | throw e => exact fun t ht => h t (hr s t ht)
  | op o k ih =>
    intro t ht c hc
    obtain ⟨hg', hk⟩ := h t (hr s t ht) c hc
    exact ⟨hg _ _ hg', ih _ hk⟩

end Safety

end NodusVision.Program
