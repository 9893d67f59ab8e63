import NodusVision.Program.Triple

/-! Complete runs of a program. -/
namespace NodusVision.Program
variable {Op : Type} {Res : Op → Type} {ε α β σ χ : Type}

/-- A run to the end, with interference before every operation and after the last. -/
inductive Completes (exec : (o : Op) → χ → σ → Res o × σ) (I : Interference σ)
    (admits : χ → Prop) : Prog Res ε α → σ → Except ε α → σ → Prop where
  | pure {a : α} {s t : σ} (h : I.rely s t) : Completes exec I admits (.pure a) s (.ok a) t
  | throw {e : ε} {s t : σ} (h : I.rely s t) : Completes exec I admits (.throw e) s (.error e) t
  | op {o : Op} {k : Res o → Prog Res ε α} {s t u : σ} {c : χ} {r : Except ε α}
      (h : I.rely s t) (hc : admits c)
      (hk : Completes exec I admits (k (exec o c t).1) (exec o c t).2 r u) :
      Completes exec I admits (.op o k) s r u

/-- The postcondition for a result and the last state. -/
def Ends (Q : α → σ → Prop) (E : ε → σ → Prop) : Except ε α → σ → Prop
  | .ok a, t => Q a t
  | .error e, t => E e t

/-- Nobody interferes. -/
def alone (σ : Type) : Interference σ where
  rely s t := t = s
  guar _ _ := True
  rely_refl _ := rfl
  rely_trans h k := k.trans h

section Completes
variable {exec : (o : Op) → χ → σ → Res o × σ} {I : Interference σ} {admits : χ → Prop}
  {Q : α → σ → Prop} {E : ε → σ → Prop} {p : Prog Res ε α} {s t : σ} {r : Except ε α}

/-- A complete run of a safe program ends in its postcondition. -/
theorem Completes.safe (h : Completes exec I admits p s r t) (hs : p.Safe exec I admits Q E s) :
    Ends Q E r t := by
  induction h with
  | pure h => exact hs _ h
  | throw h => exact hs _ h
  | op h hc _ ih => exact ih (hs _ h _ hc).2

/-- A run whose operations all keep a relation to the first state. -/
theorem Completes.keeps {ops : Op → Prop} {R : σ → σ → Prop}
    (htrans : ∀ {s t u}, R s t → R t u → R s u) (hrely : ∀ s t, I.rely s t → R s t)
    (hops : ∀ o c s, ops o → R s (exec o c s).2)
    (hp : p.Uses ops (fun _ => True) fun _ => True) (h : Completes exec I admits p s r t) :
    R s t := by
  induction h with
  | pure h => exact hrely _ _ h
  | throw h => exact hrely _ _ h
  | op h _ _ ih =>
    have hrest := ih (hp.2 _)
    exact htrans (hrely _ _ h) (htrans (hops _ _ _ hp.1) hrest)

end Completes

/-- The run in which every operation meets the same choice. -/
def Prog.run (exec : (o : Op) → χ → σ → Res o × σ) (c : χ) : Prog Res ε α → σ → Except ε α × σ
  | .pure a, s => (.ok a, s)
  | .throw e, s => (.error e, s)
  | .op o k, s => (k (exec o c s).1).run exec c (exec o c s).2

section Run
variable {exec : (o : Op) → χ → σ → Res o × σ} {c : χ} {p : Prog Res ε α} {s t : σ}

@[simp] theorem run_pure (a : α) :
    (Prog.pure a : Prog Res ε α).run exec c s = (.ok a, s) := rfl

@[simp] theorem run_throw (e : ε) :
    (Prog.throw e : Prog Res ε α).run exec c s = (.error e, s) := rfl

theorem run_op (o : Op) (k : Res o → Prog Res ε α) :
    (Prog.op o k).run exec c s = (k (exec o c s).1).run exec c (exec o c s).2 := rfl

/-- Running a sequence runs the second program from where the first one ends. -/
theorem run_bind_ok {f : α → Prog Res ε β} {a : α} (h : p.run exec c s = (.ok a, t)) :
    (p.bind f).run exec c s = (f a).run exec c t := by
  induction p generalizing s with
  | pure b =>
    cases h
    rfl
  | throw e => cases h
  | op o k ih => exact ih _ h

theorem run_bind_error {f : α → Prog Res ε β} {e : ε} (h : p.run exec c s = (.error e, t)) :
    (p.bind f).run exec c s = (.error e, t) := by
  induction p generalizing s with
  | pure b => cases h
  | throw e =>
    cases h
    rfl
  | op o k ih => exact ih _ h

theorem run_completes {I : Interference σ} {admits : χ → Prop} (hc : admits c) :
    Completes exec I admits p s (p.run exec c s).1 (p.run exec c s).2 := by
  induction p generalizing s with
  | pure a => exact .pure (I.rely_refl _)
  | throw e => exact .throw (I.rely_refl _)
  | op o k ih => exact .op (I.rely_refl _) hc (ih _)

theorem completes_of_run {I : Interference σ} {admits : χ → Prop} {r : Except ε α} (hc : admits c)
    (h : p.run exec c s = (r, t)) : Completes exec I admits p s r t := by
  have hrun : Completes exec I admits p s (p.run exec c s).1 (p.run exec c s).2 := run_completes hc
  rwa [h] at hrun

/-- Operations that cannot tell two states apart give one answer in both. -/
theorem run_agree {ops : Op → Prop} {R : σ → σ → Prop}
    (hops : ∀ o s t, ops o → R s t →
      (exec o c s).1 = (exec o c t).1 ∧ R (exec o c s).2 (exec o c t).2)
    (hp : p.Uses ops (fun _ => True) fun _ => True) (h : R s t) :
    (p.run exec c s).1 = (p.run exec c t).1 := by
  induction p generalizing s t with
  | pure a => rfl
  | throw e => rfl
  | op o k ih =>
    obtain ⟨hanswer, hnext⟩ := hops o s t hp.1 h
    rw [run_op, run_op, hanswer]
    exact ih _ (hp.2 _) hnext

end Run

end NodusVision.Program
