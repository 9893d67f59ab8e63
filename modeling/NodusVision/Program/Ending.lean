import NodusVision.Program.Prog

/-! The next operation of a program; it comes to its end after finitely many, whatever they answer. -/
namespace NodusVision.Program
namespace Prog
variable {Op : Type} {Res : Op → Type} {ε α : Type}

/-- The operation that the program performs next. -/
def next : Prog Res ε α → Option Op
  | .op o _ => some o
  | _ => none

theorem Uses.next {ops : Op → Prop} {returns : α → Prop} {throws : ε → Prop} {p : Prog Res ε α}
    {o : Op} (h : p.Uses ops returns throws) (ho : p.next = some o) : ops o := by
  cases p with
  | pure a => cases ho
  | throw e => cases ho
  | op o' k =>
    cases ho
    exact h.1

/-- Two descriptions of a program hold together. -/
theorem Uses.and {ops ops' : Op → Prop} {returns returns' : α → Prop} {throws throws' : ε → Prop}
    {p : Prog Res ε α} (h : p.Uses ops returns throws) (h' : p.Uses ops' returns' throws') :
    p.Uses (fun o => ops o ∧ ops' o) (fun a => returns a ∧ returns' a)
      fun e => throws e ∧ throws' e := by
  induction p with
  | pure a => exact ⟨h, h'⟩
  | throw e => exact ⟨h, h'⟩
  | op o k ih => exact ⟨⟨h.1, h'.1⟩, fun r => ih r (h.2 r) (h'.2 r)⟩

/-- What is left of a program after one operation. -/
inductive After : Prog Res ε α → Prog Res ε α → Prop
  | op (o : Op) (k : Res o → Prog Res ε α) (r : Res o) : After (k r) (.op o k)

theorem after_wellFounded : WellFounded (After : Prog Res ε α → Prog Res ε α → Prop) := by
  constructor
  intro p
  induction p with
  | pure a =>
    constructor
    intro q hq
    cases hq
  | throw e =>
    constructor
    intro q hq
    cases hq
  | op o k ih =>
    constructor
    intro q hq
    cases hq with
    | op o k r => exact ih r

/-- The program without its result. -/
def forget : Prog Res ε α → Prog Res ε Unit
  | .pure _ => .pure ()
  | .throw e => .throw e
  | .op o k => .op o fun r => (k r).forget

/-- The program is at a throw. -/
def Throws (p : Prog Res ε α) : Prop := ∃ e, p = .throw e

theorem throws_forget {p : Prog Res ε α} (h : p.forget.Throws) : p.Throws := by
  obtain ⟨e, he⟩ := h
  cases p with
  | throw e' => exact ⟨e', rfl⟩
  | pure a => cases he
  | op o k => cases he

theorem not_throws_pure (a : α) : ¬(.pure a : Prog Res ε α).Throws := by
  rintro ⟨e, he⟩
  cases he

theorem not_throws_op (o : Op) (k : Res o → Prog Res ε α) : ¬(.op o k : Prog Res ε α).Throws := by
  rintro ⟨e, he⟩
  cases he

end Prog
end NodusVision.Program
