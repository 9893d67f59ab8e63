import NodusVision.Program.Ending
import NodusVision.Program.Triple

/-! Programs that throw only where an operation fails. -/
namespace NodusVision.Program
variable {Op : Type} {Res : Op → Type} {ε α β σ χ : Type} {exec : (o : Op) → χ → σ → Res o × σ}
  {admits : χ → Prop}

namespace Prog

/-- No admitted answer of an operation, in any state, is followed by a throw at once. -/
def Robust (exec : (o : Op) → χ → σ → Res o × σ) (admits : χ → Prop) : Prog Res ε α → Prop
  | .op o k => (∀ c s, admits c → ¬(k (exec o c s).1).Throws) ∧ ∀ r, (k r).Robust exec admits
  | _ => True

section
variable {p : Prog Res ε α} {f : α → Prog Res ε β}

theorem not_throws_bind (hp : ¬p.Throws) (hf : ∀ a, ¬(f a).Throws) : ¬(p.bind f).Throws := by
  cases p with
  | pure a => exact hf a
  | throw e => exact absurd ⟨e, rfl⟩ hp
  | op o k => exact not_throws_op _ _

theorem Robust.bind (hp : p.Robust exec admits) (hf : ∀ a, (f a).Robust exec admits)
    (hstarts : ∀ a, ¬(f a).Throws) : (p.bind f).Robust exec admits := by
  induction p with
  | pure a => exact hf a
  | throw e => trivial
  | op o k ih =>
    obtain ⟨hnext, hrest⟩ := hp
    exact ⟨fun c s hc => not_throws_bind (hnext c s hc) hstarts, fun r => ih r (hrest r)⟩

/-- A robust program that is not at a throw never comes to one, from any state and beside any
threads. -/
theorem Robust.safe {I : Interference σ} (hp : p.Robust exec admits) (hstarts : ¬p.Throws)
    (hguar : ∀ s t, I.guar s t) (s : σ) :
    p.Safe exec I admits (fun _ _ => True) (fun _ _ => False) s := by
  induction p generalizing s with
  | pure a => exact fun _ _ => trivial
  | throw e => exact absurd ⟨e, rfl⟩ hstarts
  | op o k ih =>
    obtain ⟨hnext, hrest⟩ := hp
    intro t _ c hc
    exact ⟨hguar _ _, ih _ (hrest _) (hnext c t hc) _⟩

end

end Prog

end NodusVision.Program
