/-! Runs of a partial step function under a condition on the steps taken. -/
namespace NodusVision.Transition
variable {σ ε : Type}

/-- States reached from `init` by enabled steps that all meet `ok`. -/
inductive Reach (init : σ → Prop) (step : σ → ε → Option σ) (ok : σ → ε → σ → Prop) : σ → Prop
  | start {s : σ} (h : init s) : Reach init step ok s
  | next {s t : σ} {e : ε} (hs : Reach init step ok s) (he : step s e = some t)
      (hk : ok s e t) : Reach init step ok t

/-- The condition that every step meets. -/
def anyStep : σ → ε → σ → Prop := fun _ _ _ => True

variable {init : σ → Prop} {step : σ → ε → Option σ} {ok : σ → ε → σ → Prop}

theorem Reach.invariant (Inv : σ → Prop) (h0 : ∀ s, init s → Inv s)
    (hstep : ∀ s e t, Reach init step ok s → Inv s → step s e = some t → ok s e t → Inv t)
    {s : σ} (h : Reach init step ok s) : Inv s := by
  induction h with
  | start h => exact h0 _ h
  | next hs he hk ih => exact hstep _ _ _ hs ih he hk

theorem Reach.mono {ok' : σ → ε → σ → Prop} (hk : ∀ s e t, ok s e t → ok' s e t)
    {s : σ} (h : Reach init step ok s) : Reach init step ok' s := by
  induction h with
  | start h => exact .start h
  | next _ he h ih => exact .next ih he (hk _ _ _ h)

theorem Reach.any {s : σ} (h : Reach init step ok s) : Reach init step anyStep s :=
  h.mono fun _ _ _ _ => trivial

/-- The state after a list of events, if every one of them is enabled and passes `check`. -/
def runEvents (step : σ → ε → Option σ) (check : σ → ε → Bool) : σ → List ε → Option σ
  | s, [] => some s
  | s, e :: rest =>
    if check s e then (step s e).bind fun t => runEvents step check t rest else none

theorem Reach.run {s t : σ} {check : σ → ε → Bool} {events : List ε}
    (hcheck : ∀ s e t, check s e = true → step s e = some t → ok s e t) (hs : Reach init step ok s)
    (h : runEvents step check s events = some t) : Reach init step ok t := by
  induction events generalizing s with
  | nil => exact Option.some.inj h ▸ hs
  | cons e rest ih =>
    rw [runEvents] at h
    split at h
    · obtain ⟨u, hu, hr⟩ := Option.bind_eq_some_iff.mp h
      exact ih (hs.next hu (hcheck s e u ‹_› hu)) hr
    · cases h

/-- A run of events that are allowed in every state, ending where a test succeeds. -/
theorem Reach.exists_run_all {s : σ} {test : σ → Bool} {events : List ε}
    (hok : ∀ e ∈ events, ∀ s t, ok s e t) (hs : Reach init step ok s)
    (h : (runEvents step (fun _ _ => true) s events).any test = true) :
    ∃ t, Reach init step ok t ∧ test t = true := by
  induction events generalizing s with
  | nil => exact ⟨s, hs, h⟩
  | cons e rest ih =>
    rw [runEvents, if_pos rfl] at h
    cases he : step s e with
    | none =>
      rw [he] at h
      cases h
    | some u =>
      rw [he] at h
      exact ih (fun f hf => hok f (List.mem_cons_of_mem e hf))
        (hs.next he (hok e List.mem_cons_self s u)) h

/-- A run that ends where a test succeeds. -/
theorem Reach.exists_run {s : σ} {check : σ → ε → Bool} {test : σ → Bool} {events : List ε}
    (hcheck : ∀ s e t, check s e = true → step s e = some t → ok s e t) (hs : Reach init step ok s)
    (h : (runEvents step check s events).any test = true) :
    ∃ t, Reach init step ok t ∧ test t = true := by
  obtain ⟨t, ht, htest⟩ := (Option.any_eq_true test _).mp h
  exact ⟨t, hs.run hcheck ht, htest⟩

/-- Several continuations of one run, each ending where its test succeeds. -/
theorem Reach.exists_branches {s : σ} {check : σ → ε → Bool} {events : List ε}
    {branches : List (List ε × (σ → Bool))}
    (hcheck : ∀ s e t, check s e = true → step s e = some t → ok s e t) (hs : Reach init step ok s)
    (h : ((runEvents step check s events).any fun t =>
      branches.all fun b => (runEvents step check t b.1).any b.2) = true) :
    ∀ b ∈ branches, ∃ t, Reach init step ok t ∧ b.2 t = true := by
  obtain ⟨t, ht, hall⟩ := (Option.any_eq_true _ _).mp h
  intro b hb
  exact (hs.run hcheck ht).exists_run hcheck (List.all_eq_true.mp hall b hb)

end NodusVision.Transition
