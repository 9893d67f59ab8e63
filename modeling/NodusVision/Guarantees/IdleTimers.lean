import NodusVision.Guarantees.Streaming
import NodusVision.Provider.IdleTimer

/-! Which waits of the idle timer close a session. -/
namespace NodusVision.Guarantees
open Text Recording Provider Transition

section
variable {S : Type} {h : Handlers S} {setup : SessionSetup}

/-- A notification is processed while the handler of an expired wait is queued. -/
def overtakes (t : Timed S) (e : Provided × SessionEvent) : Bool :=
  isProcessed t.hosted.conn e.2 && t.hosted.conn.waits.contains .expired

/-- Notifications do not overtake the handler of an expired wait. -/
def Punctual (t : Timed S) (e : Provided × SessionEvent) (_ : Timed S) : Prop := overtakes t e = false

/-- Waits that are not over were not superseded; there is none during a write or before a stream. -/
structure TimedInv (t : Timed S) : Prop where
  stage : Stage t.hosted.conn
  fresh : List.Forall₂ Fresh t.hosted.conn.waits t.superseded
  settled : t.hosted.conn.session.writeInProgress = true ∨ t.hosted.conn.session.streaming = false →
    Quiet t.hosted.conn.waits
  honest : t.closedStale = false

theorem timedInv_accepted {t : Timed S} (ht : t.IsAccepted) : TimedInv t := by
  obtain ⟨host, rfl⟩ := ht
  constructor
  · exact stage_new
  · exact .nil
  · intro _ w hw
    cases hw
  · rfl

/-- The old waits are over, and at most one was armed. -/
theorem timedInv_settles {t : Timed S} {e : SessionEvent} {y : Hosted S} (hstage : Stage y.conn)
    (hsettles : Settles (t.remaining e).length y.conn) (hhonest : (t.observe e y).closedStale = false) :
    TimedInv (t.observe e y) := by
  constructor
  · exact hstage
  · cases hsettles with
    | quiet hq hn =>
      apply fresh_of_quiet hq
      simp [Timed.observe, hn]
    | armed old hq hn hw =>
      show List.Forall₂ Fresh y.conn.waits (_ ++ List.replicate (y.conn.waits.length - _) false)
      rw [hw, List.length_append, ← hn, Nat.add_sub_cancel_left]
      apply List.rel_append
      · apply fresh_of_quiet hq
        rw [List.length_map, hn]
      · exact .cons (.inr rfl) .nil
  · intro hbusy
    cases hsettles with
    | quiet hq => exact hq
    | armed old hq hn hw hb hm =>
      rcases hbusy with hbusy | hbusy
      · cases hb.symm.trans hbusy
      · cases hm.symm.trans hbusy
  · exact hhonest

/-- The waits changed as a cancellation or an expiry changes them, and nothing superseded them. -/
theorem timedInv_map {t : Timed S} {e : SessionEvent} {y : Hosted S} (f : Wait → Wait)
    (hf : f .cancelled = .cancelled) {waits : List Wait} (hstage : Stage y.conn)
    (hwaits : y.conn.waits = waits.map f) (hfresh : List.Forall₂ Fresh waits (t.remaining e))
    (hsession : y.conn.session.writeInProgress = t.hosted.conn.session.writeInProgress ∧
      y.conn.session.streaming = t.hosted.conn.session.streaming)
    (hquiet : Quiet t.hosted.conn.waits → Quiet waits)
    (hsettled : t.hosted.conn.session.writeInProgress = true ∨
      t.hosted.conn.session.streaming = false → Quiet t.hosted.conn.waits)
    (hsame : Timed.supersedes t.hosted.conn e y.conn = false)
    (hhonest : (t.observe e y).closedStale = false) : TimedInv (t.observe e y) := by
  constructor
  · exact hstage
  · have hflags : (t.observe e y).superseded = t.remaining e := by
      simp [Timed.observe, hsame, hwaits, hfresh.length_eq]
    rw [hflags]
    show List.Forall₂ Fresh y.conn.waits _
    rw [hwaits]
    exact fresh_map f hf hfresh
  · intro hbusy w hw
    have hquiet := hquiet (hsettled (hsession.1 ▸ hsession.2 ▸ hbusy))
    change w ∈ y.conn.waits at hw
    rw [hwaits] at hw
    obtain ⟨v, hv, rfl⟩ := List.mem_map.mp hw
    rw [hquiet v hv, hf]
  · exact hhonest

theorem stage_reading {c : Connection} (hs : Stage c) (hr : c.reading = true) :
    c.session.streaming = false := by
  cases hs with
  | reading _ _ hm => exact hm.streaming
  | responding _ hr' => cases hr'.symm.trans hr
  | sendingHeader _ _ hr' => cases hr'.symm.trans hr
  | sendingPart _ _ hr' => cases hr'.symm.trans hr
  | waiting hr' => cases hr'.symm.trans hr
  | «over» _ hr' => cases hr'.symm.trans hr

/-- A write is outstanding while the flag is set, or before a stream. -/
theorem stage_writing {c : Connection} (hs : Stage c) {write : Write} (hw : write ∈ c.writes) :
    (c.session.writeInProgress = true ∨ c.session.streaming = false) ∧
      (write.identity.isSome = true ∨ (∃ m, write = .header m) → c.session.streaming = true) := by
  cases hs with
  | reading _ hw' =>
    rw [hw'] at hw
    cases hw
  | responding m _ hw' hm =>
    rw [hw'] at hw
    cases List.mem_singleton.mp hw
    refine ⟨.inr hm.streaming, ?_⟩
    rintro (hpart | ⟨m, hheader⟩)
    · cases hpart
    · cases hheader
  | sendingHeader _ _ _ _ hb hm => exact ⟨.inl hb, fun _ => hm⟩
  | sendingPart _ _ _ _ hb hm => exact ⟨.inl hb, fun _ => hm⟩
  | waiting _ hw' =>
    rw [hw'] at hw
    cases hw
  | «over» _ _ hw' =>
    rw [hw'] at hw
    cases hw

/-- A cancellation changes the waits one by one, and starts no write. -/
theorem cancelSession_waits (x : Hosted S) : ∃ f, f Wait.cancelled = .cancelled ∧
    (cancelSession h x).conn.waits = x.conn.waits.map f ∧
    (cancelSession h x).conn.started = x.conn.started ∧
    (cancelSession h x).conn.session.writeInProgress = x.conn.session.writeInProgress ∧
    (cancelSession h x).conn.session.streaming = x.conn.session.streaming := by
  unfold cancelSession
  split
  · exact ⟨id, rfl, by rw [List.map_id], rfl, rfl, rfl⟩
  · simp only
    split
    · exact ⟨Wait.cancel, rfl, rfl, rfl, rfl, rfl⟩
    · exact ⟨Wait.cancel, rfl, rfl, rfl, rfl, rfl⟩

theorem timedInv_cancelled {t : Timed S} {e : SessionEvent} {x : Hosted S} (ht : TimedInv t)
    (hstage : Stage (cancelSession h x).conn)
    (hfresh : List.Forall₂ Fresh x.conn.waits (t.remaining e))
    (hquiet : Quiet t.hosted.conn.waits → Quiet x.conn.waits)
    (hsession : x.conn.session = t.hosted.conn.session) (hstarted : x.conn.started = t.hosted.conn.started)
    (hprocessed : isProcessed t.hosted.conn e = false)
    (hhonest : (t.observe e (cancelSession h x)).closedStale = false) :
    TimedInv (t.observe e (cancelSession h x)) := by
  obtain ⟨f, hf, hwaits, hsame, hwriting, hstreaming⟩ := cancelSession_waits (h := h) x
  apply timedInv_map f hf hstage hwaits hfresh ⟨?_, ?_⟩ hquiet ht.settled ?_ hhonest
  · rw [hwriting, hsession]
  · rw [hstreaming, hsession]
  · simp [Timed.supersedes, hprocessed, hsame, hstarted]

theorem timedInv_step {t u : Timed S} {e : Provided × SessionEvent} (ht : TimedInv t)
    (he : t.step h setup e = some u) (hpunctual : Punctual t e u) : TimedInv u := by
  obtain ⟨provided, e⟩ := e
  obtain ⟨y, hy, rfl⟩ := Option.map_eq_some_iff.mp he
  have hstage := sessionStep_stage ht.stage hy
  have hlength := ht.fresh.length_eq
  have hhonest : closesByTimer t.hosted.conn e y.conn = false → (t.observe e y).closedStale = false := by
    intro hclose
    simp [Timed.observe, ht.honest, hclose]
  cases e with
  | read request =>
    simp only [sessionStep] at hy
    split at hy
    · rename_i hreading
      cases hy
      have hquiet := ht.settled (.inr (stage_reading ht.stage hreading))
      apply timedInv_settles hstage
      · exact Settles.handleRead (x := t.hosted.update fun c => { c with reading := false }) hquiet hlength _ _
      · exact hhonest rfl
    · cases hy
  | written write failed =>
    simp only [sessionStep] at hy
    split at hy
    · rename_i hwrite
      cases hy
      obtain ⟨hbusy, hstreaming⟩ := stage_writing ht.stage hwrite
      apply timedInv_settles hstage
      · exact Settles.handleWritten
          (x := t.hosted.update fun c => { c with writes := c.writes.erase write })
          (ht.settled hbusy) hlength hstreaming _ _
      · exact hhonest rfl
    · cases hy
  | expire =>
    cases hy
    apply timedInv_map (t := t) (e := .expire) Wait.expire rfl hstage rfl ht.fresh ⟨rfl, rfl⟩ id ht.settled
    · simp [Timed.supersedes, isProcessed, Hosted.update]
    · exact hhonest rfl
  | waited wait =>
    simp only [sessionStep] at hy
    split at hy
    · rename_i hwait
      cases hy
      have hfresh := fresh_erase wait ht.fresh
      have hquiet : Quiet t.hosted.conn.waits → Quiet (t.hosted.conn.waits.erase wait) :=
        fun hq w hw => hq w (List.mem_of_mem_erase hw)
      unfold handleWaited at hstage ⊢
      split
      · rename_i hexpired
        subst hexpired
        rw [if_pos rfl] at hstage
        -- the flag of the wait whose handler runs
        have hflag := fresh_expired ht.fresh hwait.1
        apply timedInv_cancelled (t := t) (e := .waited .expired) ht hstage hfresh hquiet rfl rfl rfl
        show (t.closedStale || closesByTimer _ _ _ && _) = false
        rw [ht.honest, hflag, Bool.and_false]
        rfl
      · rename_i hne
        rw [if_neg hne] at hstage
        apply timedInv_map (t := t) (e := .waited wait) id rfl hstage (List.map_id _).symm hfresh ⟨rfl, rfl⟩ hquiet ht.settled
        · simp [Timed.supersedes, isProcessed, Hosted.update]
        · cases wait with
          | armed => exact absurd rfl hwait.2
          | expired => exact absurd rfl hne
          | cancelled => simp [Timed.observe, ht.honest, closesByTimer]
    · cases hy
  | notify kind =>
    cases hy
    unfold notifyStreamFrame at hstage ⊢
    by_cases hskip : (t.hosted.conn.session.finished || !t.hosted.conn.session.streaming ||
        kind != t.hosted.conn.session.streamKind) = true
    · rw [if_pos hskip] at hstage ⊢
      apply timedInv_map (t := t) (e := .notify kind) id rfl hstage (List.map_id _).symm ht.fresh ⟨rfl, rfl⟩ id ht.settled
      · have hignored : isProcessed t.hosted.conn (.notify kind) = false := by
          simp only [isProcessed]
          cases hf : t.hosted.conn.session.finished with
          | true => rfl
          | false =>
            cases hm : t.hosted.conn.session.streaming with
            | false => rfl
            | true => simpa [hf, hm] using hskip
        simp [Timed.supersedes, hignored]
      · exact hhonest rfl
    · rw [if_neg hskip] at hstage ⊢
      simp only [Bool.or_eq_true, Bool.not_eq_eq_eq_not, Bool.not_true, bne_iff_ne, ne_eq, not_or,
        Bool.not_eq_true, Bool.not_eq_false, not_not] at hskip
      obtain ⟨⟨hopen, hstreaming⟩, rfl⟩ := hskip
      have hnone : .expired ∉ t.hosted.conn.waits := by
        simpa [Punctual, overtakes, isProcessed, hopen, hstreaming] using hpunctual
      split
      · rename_i hwriting
        rw [if_pos hwriting] at hstage
        apply timedInv_settles (t := t) (e := .notify _) hstage
        · exact .quiet (ht.settled (.inl hwriting)) hlength
        · exact hhonest rfl
      · rename_i hwriting
        rw [if_neg hwriting] at hstage
        apply timedInv_settles (t := t) (e := .notify _) hstage
        · apply Settles.writeLatestStreamFrame
          · exact quiet_cancel hnone
          · show (t.hosted.conn.waits.map Wait.cancel).length = _
            rw [List.length_map]
            exact hlength
          · exact Bool.eq_false_iff.mpr hwriting
          · exact hstreaming
        · exact hhonest rfl
  | cancel =>
    cases hy
    apply timedInv_cancelled (t := t) (e := .cancel) ht hstage ht.fresh id rfl rfl rfl
    exact hhonest rfl

/-- While no notification overtakes an expired wait, the idle timer closes the session only through a
wait since which no notification was processed and no write was started. -/
theorem idleTimer_current {t : Timed S}
    (ht : Reach Timed.IsAccepted (Timed.step h setup) Punctual t) : t.closedStale = false := by
  apply TimedInv.honest (t := t)
  apply Reach.invariant TimedInv _ _ ht
  · intro t ht
    exact timedInv_accepted ht
  · intro t e u _ hinv he hpunctual
    exact timedInv_step hinv he hpunctual

end

/-- Frame 1 was sent, and the timer expires before frame 2 is announced: its part is being written
when the handler of the expired wait runs. -/
def overtaken : List (Provided × SessionEvent) :=
  [withFrame 1 (.read (some colorRequest)), withFrame 1 headerSent, withFrame 1 (partSent 1),
    withFrame 1 .expire, withFrame 2 (.notify .color), withFrame 2 (.waited .expired)]

/-- Frame 1 was sent and no other follows, until the timer closes the session. -/
def abandoned : List (Provided × SessionEvent) :=
  [withFrame 1 (.read (some colorRequest)), withFrame 1 headerSent, withFrame 1 (partSent 1),
    withFrame 1 (.notify .color), withFrame 1 (.waited .cancelled), withFrame 1 .expire,
    withFrame 1 (.waited .expired)]

theorem sampleTimed_reach (ok : Timed Unit → Provided × SessionEvent → Timed Unit → Prop)
    (check : Timed Unit → Provided × SessionEvent → Bool) (test : Timed Unit → Bool)
    (events : List (Provided × SessionEvent)) (hcheck : ∀ s e t, check s e = true → ok s e t)
    (h : (runEvents (Timed.step sampleHandlers sampleSession) check ⟨⟨{}, ()⟩, [], false⟩ events).any
      test = true) :
    ∃ t, Reach Timed.IsAccepted (Timed.step sampleHandlers sampleSession) ok t ∧ test t = true := by
  have h0 : Timed.IsAccepted (⟨⟨{}, ()⟩, [], false⟩ : Timed Unit) := ⟨(), rfl⟩
  exact (Reach.start h0).exists_run (fun s e t hc _ => hcheck s e t hc) h

set_option maxRecDepth 100000 in
theorem idleTimer_stale : ∃ t : Timed Unit,
    Reach Timed.IsAccepted (Timed.step sampleHandlers sampleSession) anyStep t ∧
      t.closedStale = true := by
  exact sampleTimed_reach anyStep (fun _ _ => true) Timed.closedStale overtaken (fun _ _ _ _ => trivial)
    (by decide +kernel)

set_option maxRecDepth 100000 in
theorem idleTimer_current_abandoned : ∃ t : Timed Unit,
    t.hosted.conn.session.finished = true ∧ t.closedStale = false := by
  obtain ⟨t, ht, htest⟩ := sampleTimed_reach Punctual (fun t e => !overtakes t e)
    (fun t => t.hosted.conn.session.finished) abandoned
    (fun _ _ _ hc => (Bool.not_eq_true' _).mp hc) (by decide +kernel)
  exact ⟨t, htest, idleTimer_current ht⟩

end NodusVision.Guarantees
