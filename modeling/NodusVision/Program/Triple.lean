import NodusVision.Program.Prog

/-! Pre- and postconditions of programs under interference. -/
namespace NodusVision.Program
variable {Op : Type} {Res : Op → Type} {ε α β σ χ : Type}

/-- From every state of `P` the program is safe with the postconditions. -/
def Triple (exec : (o : Op) → χ → σ → Res o × σ) (I : Interference σ) (admits : χ → Prop)
    (P : σ → Prop) (p : Prog Res ε α) (Q : α → σ → Prop) (E : ε → σ → Prop) : Prop :=
  ∀ s, P s → p.Safe exec I admits Q E s

/-- An assertion that interference keeps. -/
def Interference.Stable (I : Interference σ) (P : σ → Prop) : Prop := ∀ s t, I.rely s t → P s → P t

namespace Triple
variable {exec : (o : Op) → χ → σ → Res o × σ} {I : Interference σ} {admits : χ → Prop}
  {P P' : σ → Prop} {Q Q' : α → σ → Prop} {E E' : ε → σ → Prop} {p : Prog Res ε α}

theorem pure {a : α} (hP : I.Stable P) (h : ∀ s, P s → Q a s) :
    Triple exec I admits P (Prog.pure a) Q E :=
  fun s hs t ht => h t (hP s t ht hs)

theorem throw {e : ε} (hP : I.Stable P) (h : ∀ s, P s → E e s) :
    Triple exec I admits P (Prog.throw e) Q E :=
  fun s hs t ht => h t (hP s t ht hs)

theorem op {o : Op} {k : Res o → Prog Res ε α} (hP : I.Stable P)
    (R : Res o → σ → Prop)
    (hstep : ∀ s c, P s → admits c → I.guar s (exec o c s).2 ∧ R (exec o c s).1 (exec o c s).2)
    (hk : ∀ r, Triple exec I admits (R r) (k r) Q E) :
    Triple exec I admits P (Prog.op o k) Q E := by
  intro s hs t ht c hc
  obtain ⟨hg, hR⟩ := hstep t c (hP s t ht hs) hc
  exact ⟨hg, hk _ _ hR⟩

theorem bind {f : α → Prog Res ε β} {R : β → σ → Prop} (Q : α → σ → Prop)
    (hp : Triple exec I admits P p Q E) (hf : ∀ a, Triple exec I admits (Q a) (f a) R E) :
    Triple exec I admits P (p.bind f) R E :=
  fun s hs => .bind ((hp s hs).mono (fun a t ha => hf a t ha) fun _ _ h => h)

theorem tryCatch {handler : ε → Prog Res ε α} (F : ε → σ → Prop)
    (hp : Triple exec I admits P p Q F) (hh : ∀ e, Triple exec I admits (F e) (handler e) Q E) :
    Triple exec I admits P (p.tryCatch handler) Q E :=
  fun s hs => .tryCatch ((hp s hs).mono (fun _ _ h => h) fun e t he => hh e t he)

theorem pre (h : ∀ s, P' s → P s) (hp : Triple exec I admits P p Q E) :
    Triple exec I admits P' p Q E := fun s hs => hp s (h s hs)

theorem post (hQ : ∀ a s, Q a s → Q' a s) (hE : ∀ e s, E e s → E' e s)
    (hp : Triple exec I admits P p Q E) : Triple exec I admits P p Q' E' :=
  fun s hs => (hp s hs).mono hQ hE

theorem ite {c : Prop} [Decidable c] {q : Prog Res ε α}
    (hp : c → Triple exec I admits P p Q E) (hq : ¬c → Triple exec I admits P q Q E) :
    Triple exec I admits P (if c then p else q) Q E := by
  split
  · exact hp ‹_›
  · exact hq ‹_›

/-- A precondition that does not depend on the state. -/
theorem assume {c : Prop} (h : c → Triple exec I admits P p Q E) :
    Triple exec I admits (fun s => c ∧ P s) p Q E := fun s hs => h hs.1 s hs.2

theorem of_false (h : ∀ s, ¬P s) : Triple exec I admits P p Q E := fun s hs => (h s hs).elim

end Triple

namespace Interference
variable {I : Interference σ}

theorem stable_const (c : Prop) : I.Stable fun _ => c := fun _ _ _ h => h

theorem Stable.and {P Q : σ → Prop} (hP : I.Stable P) (hQ : I.Stable Q) :
    I.Stable fun s => P s ∧ Q s := fun s t hr h => ⟨hP s t hr h.1, hQ s t hr h.2⟩

end Interference

end NodusVision.Program
