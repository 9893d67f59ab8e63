import NodusVision.Provider.Accounts
import NodusVision.Provider.Preview

/-! Which frame a stream sends next, or sent last, against the newest preview of its kind. -/
namespace NodusVision.Provider
open Text Recording Transition

/-- The newest identity, or an older one. -/
def UpTo (newest identity : FrameIdentity) : Prop :=
  identity = newest ∨ orderKey identity < orderKey newest

theorem UpTo.older {old newest identity : FrameIdentity} (h : UpTo old identity)
    (hn : orderKey old < orderKey newest) : UpTo newest identity := by
  rcases h with rfl | h
  · exact .inr hn
  · exact .inr (h.trans hn)

/-- A frame that is not older than the newest one is that one. -/
theorem UpTo.eq {newest identity : FrameIdentity} (h : UpTo newest identity)
    (hn : isNewerIdentity newest identity = false) : identity = newest := by
  rcases h with h | h
  · exact h
  · rw [not_isNewerIdentity_iff] at hn
    exact absurd h (not_lt.mpr hn)

/-- With `n` announcements to come, the newest frame is sent next, or was sent last, or an
announcement is still to be seen. -/
structure Covered (c : Connection) (n : ℕ) (newest : FrameIdentity) : Prop where
  initial : ∀ f, c.session.initialStreamFrame = some f → UpTo newest f.identity ∧
    (0 < n ∨ c.session.refreshPending = true ∨ f.identity = newest)
  part : ∀ f, c.session.writeInProgress = true → c.session.initialStreamFrame = none →
    c.session.pendingStreamFrame = some f → UpTo newest f.identity ∧
    (0 < n ∨ c.session.refreshPending = true ∨ f.identity = newest)
  last : c.session.writeInProgress = false → UpTo newest c.session.lastSentIdentity ∧
    (0 < n ∨ c.session.lastSentIdentity = newest)

theorem Covered.published {c : Connection} {n : ℕ} {old newest : FrameIdentity}
    (h : Covered c n old) (hn : orderKey old < orderKey newest) : Covered c (n + 1) newest where
  initial f hf := ⟨(h.initial f hf).1.older hn, .inl (Nat.succ_pos n)⟩
  part f hw hi hf := ⟨(h.part f hw hi hf).1.older hn, .inl (Nat.succ_pos n)⟩
  last hw := ⟨(h.last hw).1.older hn, .inl (Nat.succ_pos n)⟩

/-- The members that `Covered` speaks of are kept. -/
theorem Covered.of_session {c d : Connection} {n : ℕ} {newest : FrameIdentity} (h : Covered c n newest)
    (hd : d.session = c.session) : Covered d n newest := by
  obtain ⟨h1, h2, h3⟩ := h
  exact ⟨by rw [hd]; exact h1, by rw [hd]; exact h2, by rw [hd]; exact h3⟩

theorem waitForStreamFrame_session (c : Connection) :
    c.waitForStreamFrame.session = c.session := by
  unfold Connection.waitForStreamFrame
  split
  · rfl
  · rfl

/-- A frame of the newest preview is sent unless it was sent last. -/
theorem writeFrame_covered {c : Connection} {n : ℕ} {newest : FrameIdentity}
    {frame : ProviderStreamFrame} (hi : c.session.initialStreamFrame = none)
    (hb : c.session.writeInProgress = false) (hl : UpTo newest c.session.lastSentIdentity)
    (hf : frame.identity = newest) (himage : frame.image.isSome = true) :
    Covered (c.writeFrame (some frame)) n newest := by
  obtain ⟨jpeg, hjpeg⟩ := Option.isSome_iff_exists.mp himage
  unfold Connection.writeFrame
  simp only [Option.bind_some, hjpeg, Option.map_some]
  split
  · rename_i hold
    have heq : c.session.lastSentIdentity = newest := hl.eq (by
      rw [← hf]
      simpa using (Bool.and_eq_true_iff.mp hold).2)
    refine Covered.of_session ⟨?_, ?_, ?_⟩ (waitForStreamFrame_session c)
    · intro f hf
      rw [hi] at hf
      cases hf
    · intro f hw
      rw [hb] at hw
      cases hw
    · intro _
      exact ⟨hl, .inr heq⟩
  · refine ⟨?_, ?_, ?_⟩
    · intro f hinit
      have heq : none = some f := hi.symm.trans hinit
      cases heq
    · intro f _ _ hpending
      have heq : frame = f := Option.some.inj hpending
      subst heq
      exact ⟨.inl hf, .inr (.inr hf)⟩
    · intro hw
      cases hw

section
variable {S : Type} {h : Handlers S}

theorem writeLatestStreamFrame_covered {x : Hosted S} {n : ℕ} {newest : FrameIdentity}
    {frame : ProviderStreamFrame} (hfin : x.conn.session.finished = false)
    (hi : x.conn.session.initialStreamFrame = none)
    (hb : x.conn.session.writeInProgress = false) (hl : UpTo newest x.conn.session.lastSentIdentity)
    (hf : frame.identity = newest) (himage : frame.image.isSome = true) :
    Covered (writeLatestStreamFrame h (.ok (some frame)) x).conn n newest := by
  unfold writeLatestStreamFrame
  rw [if_neg (by simp [hfin, hb]), hi]
  exact writeFrame_covered (c := x.conn.fetch) hi hb hl hf himage

/-- The header is out: the first frame is sent, whatever was announced meanwhile. -/
theorem handleStreamHeaderWritten_covered {x : Hosted S} {n : ℕ} {newest : FrameIdentity}
    {initial : ProviderStreamFrame} {frame : Acquired} {failed : Bool}
    (hi : x.conn.session.initialStreamFrame = some initial) (himage : initial.image.isSome = true)
    (hn : x.conn.session.hasSentFrame = false) (hup : UpTo newest initial.identity)
    (hc : 0 < n ∨ initial.identity = newest)
    (hfin : (handleStreamHeaderWritten h failed frame x).conn.session.finished = false) :
    Covered (handleStreamHeaderWritten h failed frame x).conn n newest := by
  unfold handleStreamHeaderWritten at hfin ⊢
  simp only at hfin ⊢
  split at hfin
  · rw [cancelSession_finished] at hfin
    cases hfin
  · rename_i hgo
    rw [if_neg hgo]
    have hx : x.conn.session.finished = false := by
      simpa [Hosted.update] using (Bool.or_eq_false_iff.mp (Bool.not_eq_true _ ▸ hgo)).2
    obtain ⟨jpeg, hjpeg⟩ := Option.isSome_iff_exists.mp himage
    unfold writeLatestStreamFrame
    rw [if_neg (by simp [Hosted.update, hx])]
    simp only [Hosted.update, hi, Connection.writeFrame, Option.bind_some, hjpeg, Option.map_some,
      hn, Bool.false_and, Bool.false_eq_true, if_false]
    refine ⟨?_, ?_, ?_⟩
    · intro f hf
      cases hf
    · intro f _ _ hf
      cases hf
      exact ⟨hup, hc.imp_right .inr⟩
    · intro hw
      cases hw

/-- A part is out: what was announced meanwhile is fetched now. -/
theorem handleStreamPartWritten_covered {x : Hosted S} {n : ℕ} {newest : FrameIdentity}
    {sent frame : ProviderStreamFrame} {failed : Bool} (hc : Covered x.conn n newest)
    (hb : x.conn.session.writeInProgress = true)
    (hi : x.conn.session.initialStreamFrame = none)
    (hp : x.conn.session.pendingStreamFrame = some sent)
    (hf : frame.identity = newest) (himage : frame.image.isSome = true)
    (hfin : (handleStreamPartWritten h failed (.ok (some frame)) x).conn.session.finished = false) :
    Covered (handleStreamPartWritten h failed (.ok (some frame)) x).conn n newest := by
  obtain ⟨hup, hcover⟩ := hc.part sent hb hi hp
  unfold handleStreamPartWritten at hfin ⊢
  simp only at hfin ⊢
  split at hfin
  · rw [cancelSession_finished] at hfin
    cases hfin
  · rename_i hgo
    rw [if_neg hgo]
    have hx : x.conn.session.finished = false := by
      simpa [Hosted.update] using (Bool.or_eq_false_iff.mp (Bool.not_eq_true _ ▸ hgo)).2
    split
    · refine writeLatestStreamFrame_covered hx hi rfl ?_ hf himage
      simp only [Hosted.update, Connection.partSent, hp]
      exact hup
    · rename_i hrefresh
      refine Covered.of_session ⟨?_, ?_, ?_⟩ (waitForStreamFrame_session _)
      · intro f hinit
        have heq : none = some f := hi.symm.trans hinit
        cases heq
      · intro f hw
        cases hw
      · intro _
        simp only [Hosted.update, Connection.partSent, hp]
        exact ⟨hup, hcover.imp_right fun hr => hr.resolve_left hrefresh⟩

theorem notifyStreamFrame_covered {x : Hosted S} {n : ℕ} {newest : FrameIdentity}
    {frame : ProviderStreamFrame} (hs : Stage x.conn) (hm : x.conn.session.streaming = true)
    (hfin : x.conn.session.finished = false)
    (hc : Covered x.conn n newest) (hf : frame.identity = newest)
    (himage : frame.image.isSome = true) :
    Covered (notifyStreamFrame h x.conn.session.streamKind (.ok (some frame)) x).conn (n - 1)
      newest := by
  unfold notifyStreamFrame
  rw [if_neg (by simp [hfin, hm])]
  split
  · rename_i hb
    refine ⟨?_, ?_, ?_⟩
    · intro f hi
      exact ⟨(hc.initial f hi).1, .inr (.inl rfl)⟩
    · intro f hw hi hp
      exact ⟨(hc.part f hw hi hp).1, .inr (.inl rfl)⟩
    · intro hw
      have heq : true = false := hb.symm.trans hw
      cases heq
  · rename_i hb
    have hb : x.conn.session.writeInProgress = false := Bool.not_eq_true _ ▸ hb
    have hi : x.conn.session.initialStreamFrame = none := by
      cases hs with
      | reading _ _ hplain => exact hplain.initialNone
      | responding _ _ _ hplain => exact hplain.initialNone
      | sendingHeader _ _ _ _ hb' => rw [hb] at hb'; cases hb'
      | sendingPart _ _ _ _ hb' => rw [hb] at hb'; cases hb'
      | waiting _ _ _ _ hi => exact hi
      | «over» hover => rw [hfin] at hover; cases hover
    exact writeLatestStreamFrame_covered (x := x.update Connection.cancelTimer) hfin hi hb
      (hc.last hb).1 hf himage

theorem waitForStreamFrame_fetches (c : Connection) : c.waitForStreamFrame.fetches = c.fetches := by
  unfold Connection.waitForStreamFrame
  split
  · rfl
  · rfl

theorem writeFrame_fetches (frame : Option ProviderStreamFrame) (c : Connection) :
    (c.writeFrame frame).fetches = c.fetches := by
  unfold Connection.writeFrame
  split
  · exact waitForStreamFrame_fetches c
  · split
    · exact waitForStreamFrame_fetches c
    · rfl

/-- Where no frame was fetched, the answer of the callback made no difference. -/
theorem writeLatestStreamFrame_unfetched {x : Hosted S} {frame : Acquired} (frame' : Acquired)
    (hn : (writeLatestStreamFrame h frame x).conn.fetches = x.conn.fetches) :
    writeLatestStreamFrame h frame' x = writeLatestStreamFrame h frame x := by
  unfold writeLatestStreamFrame at hn ⊢
  split
  · rfl
  · rename_i hgo
    rw [if_neg hgo] at hn
    cases hi : x.conn.session.initialStreamFrame with
    | some initial => rfl
    | none =>
      rw [hi] at hn
      cases frame with
      | error _ =>
        rw [(cancelSession_ended _).fetches] at hn
        exact absurd hn (Nat.succ_ne_self x.conn.fetches)
      | ok frame =>
        simp only [Hosted.update, writeFrame_fetches] at hn
        exact absurd hn (Nat.succ_ne_self x.conn.fetches)

theorem sessionStep_unfetched {setup : SessionSetup} {x y : Hosted S} {frame : Acquired}
    {answer : Except Unit ProviderHttpResponse} {e : SessionEvent} (frame' : Acquired)
    (hr : e.isRead = false) (he : sessionStep h setup ⟨frame, answer⟩ x e = some y)
    (hn : y.conn.fetches = x.conn.fetches) :
    sessionStep h setup ⟨frame', answer⟩ x e = some y := by
  cases e with
  | read request => cases hr
  | written write failed =>
    simp only [sessionStep] at he ⊢
    split at he
    · rename_i hmem
      cases he
      rw [if_pos hmem]
      unfold handleWritten at hn ⊢
      split
      · rfl
      · unfold handleStreamHeaderWritten at hn ⊢
        simp only at hn ⊢
        split
        · rfl
        · rename_i hgo
          rw [if_neg hgo] at hn
          rw [writeLatestStreamFrame_unfetched frame' hn]
      · unfold handleStreamPartWritten at hn ⊢
        simp only at hn ⊢
        split
        · rfl
        · rename_i hgo
          rw [if_neg hgo] at hn
          split
          · rename_i hrefresh
            rw [if_pos hrefresh] at hn
            rw [writeLatestStreamFrame_unfetched frame' hn]
          · rfl
    · cases he
  | expire => exact he
  | waited wait => exact he
  | cancel => exact he
  | notify kind =>
    cases he
    simp only [sessionStep]
    unfold notifyStreamFrame at hn ⊢
    split
    · rfl
    · rename_i hgo
      rw [if_neg hgo] at hn
      split
      · rfl
      · rename_i hb
        rw [if_neg hb] at hn
        rw [writeLatestStreamFrame_unfetched frame' hn]

/-- Covering is kept by every event that leaves the session open, if the first frame is the newest
one when the header was written, or an announcement is to come. -/
theorem sessionStep_covered {setup : SessionSetup} {x y : Hosted S} {n : ℕ}
    {newest : FrameIdentity} {frame : ProviderStreamFrame}
    {answer : Except Unit ProviderHttpResponse} {e : SessionEvent}
    (hs : Stage x.conn) (hm : x.conn.session.streaming = true) (hx : ClosedOnce x.conn)
    (hr : e.isRead = false) (hc : Covered x.conn n newest)
    (hf : frame.identity = newest) (himage : frame.image.isSome = true)
    (hheader : ∀ m, e = .written (.header m) false → 0 < n ∨
      ∀ f, x.conn.session.initialStreamFrame = some f → f.identity = newest)
    (he : sessionStep h setup ⟨.ok (some frame), answer⟩ x e = some y)
    (hfin : y.conn.session.finished = false) :
    Covered y.conn (e.left x.conn.session.streamKind n) newest := by
  have hxf : x.conn.session.finished = false := by
    cases sessionStep_outcome hx hr he with
    | same ha => rw [← hfin]; exact (congrArg Account.finished ha).symm
    | closed hf => exact hf
  cases e with
  | read request => cases hr
  | written write failed =>
    simp only [sessionStep] at he
    split at he
    · rename_i hmem
      cases he
      cases hs with
      | reading _ hnil => rw [hnil] at hmem; cases hmem
      | waiting _ hnil => rw [hnil] at hmem; cases hmem
      | «over» _ _ hnil => rw [hnil] at hmem; cases hmem
      | responding _ _ _ hplain => rw [hplain.streaming] at hm; cases hm
      | sendingHeader m initial _ hone _ _ hnone hi hsome =>
        rw [hone, List.mem_singleton] at hmem
        subst hmem
        cases failed with
        | true =>
          rw [handleWritten, handleStreamHeaderWritten] at hfin
          simp only [Bool.true_or, if_true, cancelSession_finished] at hfin
          cases hfin
        | false =>
          have hcover : 0 < n ∨ initial.identity = newest :=
            (hheader m rfl).imp_right fun hall => hall initial hi
          exact handleStreamHeaderWritten_covered (x := x.update fun c =>
            { c with writes := c.writes.erase (.header m) }) hi hsome hnone (hc.initial initial hi).1
            hcover hfin
      | sendingPart sent bytes _ hone hb _ hi hp =>
        rw [hone, List.mem_singleton] at hmem
        subst hmem
        have hc' := hc.of_session (d := { x.conn with
          writes := x.conn.writes.erase (.part sent.identity bytes) }) rfl
        exact handleStreamPartWritten_covered (x := x.update fun c =>
          { c with writes := c.writes.erase (.part sent.identity bytes) }) hc' hb hi hp hf himage hfin
    · cases he
  | expire =>
    cases he
    exact hc.of_session rfl
  | waited wait =>
    simp only [sessionStep] at he
    split at he
    · cases he
      unfold handleWaited at hfin ⊢
      split at hfin
      · rw [cancelSession_finished] at hfin
        cases hfin
      · rename_i hne
        rw [if_neg hne]
        exact hc.of_session rfl
    · cases he
  | notify kind =>
    cases he
    simp only [SessionEvent.left]
    split
    · rename_i hkind
      rw [hkind]
      exact notifyStreamFrame_covered hs hm hxf hc hf himage
    · rename_i hkind
      unfold notifyStreamFrame
      rw [if_pos (by simp [hkind])]
      exact hc
  | cancel =>
    cases he
    rw [cancelSession_finished] at hfin
    cases hfin

end

end NodusVision.Provider
