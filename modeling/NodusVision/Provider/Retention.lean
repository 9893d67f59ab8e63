import NodusVision.Provider.Stages

/-! The part buffer that a session retains is the last one whose write it started. -/
namespace NodusVision.Provider
open Recording

/-- The retained part, and the frame it was built from, are those of the last write. -/
def Connection.Retains (c : Connection) : Prop :=
  ∀ bytes, c.session.pendingPart = some bytes → ∃ frame,
    c.session.pendingStreamFrame = some frame ∧
      c.started.getLast? = some (.part frame.identity bytes)

namespace Connection

theorem retains_of_none {c : Connection} (h : c.session.pendingPart = none) : c.Retains := by
  intro bytes hp
  rw [h] at hp
  cases hp

/-- Only these three members matter. -/
theorem Retains.of_eq {c d : Connection} (h : c.Retains)
    (hp : d.session.pendingPart = c.session.pendingPart)
    (hf : d.session.pendingStreamFrame = c.session.pendingStreamFrame)
    (hs : d.started = c.started) : d.Retains := by
  intro bytes hbytes
  rw [hf, hs]
  exact h bytes (hp ▸ hbytes)

theorem Retains.waitForStreamFrame {c : Connection} (h : c.Retains) :
    c.waitForStreamFrame.Retains := by
  unfold Connection.waitForStreamFrame
  split
  · exact h
  · exact h.of_eq rfl rfl rfl

/-- A part that is started replaces the one that was retained. -/
theorem Retains.writeFrame {c : Connection} (h : c.Retains)
    (frame : Option ProviderStreamFrame) : (c.writeFrame frame).Retains := by
  unfold Connection.writeFrame
  split
  · exact h.waitForStreamFrame
  · rename_i f jpeg _
    split
    · exact h.waitForStreamFrame
    · intro bytes hbytes
      have heq : buildMjpegPart f jpeg = bytes := Option.some.inj hbytes
      exact ⟨f, rfl, heq ▸ List.getLast?_concat⟩

end Connection

section
variable {S : Type} {h : Handlers S} {setup : SessionSetup}

theorem cancelSession_retains {x : Hosted S} (hx : x.conn.Retains) :
    (cancelSession h x).conn.Retains := by
  obtain ⟨_, _, _, he⟩ := cancelSession_conn (h := h) x
  rw [he]
  exact hx.of_eq rfl rfl rfl

theorem writeLatestStreamFrame_retains {x : Hosted S} (hx : x.conn.Retains) (frame : Acquired) :
    (writeLatestStreamFrame h frame x).conn.Retains := by
  unfold writeLatestStreamFrame
  split
  · exact hx
  · split
    · refine Connection.Retains.writeFrame ?_ _
      exact hx.of_eq rfl rfl rfl
    · cases frame with
      | error _ => 
        refine cancelSession_retains ?_
        exact hx.of_eq rfl rfl rfl
      | ok frame => 
        refine Connection.Retains.writeFrame ?_ frame
        exact hx.of_eq rfl rfl rfl

theorem notifyStreamFrame_retains {x : Hosted S} (hx : x.conn.Retains) (kind : ProviderStreamKind)
    (frame : Acquired) : (notifyStreamFrame h kind frame x).conn.Retains := by
  unfold notifyStreamFrame
  split
  · exact hx
  · split
    · exact hx.of_eq rfl rfl rfl
    · refine writeLatestStreamFrame_retains ?_ frame
      exact hx.of_eq rfl rfl rfl

/-- A part that was sent is given up before the next one is taken. -/
theorem handleWritten_retains {x : Hosted S} (hx : x.conn.Retains) (write : Write) (failed : Bool)
    (frame : Acquired) : (handleWritten h write failed frame x).conn.Retains := by
  cases write with
  | response _ => exact cancelSession_retains hx
  | header _ =>
    unfold handleWritten handleStreamHeaderWritten
    dsimp only
    split
    · refine cancelSession_retains ?_
      exact hx.of_eq rfl rfl rfl
    · refine writeLatestStreamFrame_retains ?_ frame
      exact hx.of_eq rfl rfl rfl
  | part _ _ =>
    unfold handleWritten handleStreamPartWritten
    dsimp only
    split
    · refine cancelSession_retains ?_
      exact hx.of_eq rfl rfl rfl
    · split
      · exact writeLatestStreamFrame_retains (Connection.retains_of_none rfl) frame
      · exact (Connection.retains_of_none rfl).waitForStreamFrame

theorem startStream_part (x : Hosted S) (kind : ProviderStreamKind) (version : ℕ)
    (frame : Acquired) :
    (startStream h setup kind version frame x).conn.session.pendingPart =
      x.conn.session.pendingPart := by
  unfold startStream
  split
  · rfl
  · cases frame with
    | error _ => rfl
    | ok frame =>
      dsimp only
      split
      · rfl
      · split
        · rfl
        · rfl

/-- A session that reads its request has no part to retain. -/
theorem handleRead_part {x : Hosted S} (hx : x.conn.session.pendingPart = none)
    (request : Option HttpRequest) (provided : Provided) :
    (handleRead h setup request provided x).conn.session.pendingPart = none := by
  unfold handleRead
  cases request with
  | none =>
    obtain ⟨_, _, _, he⟩ := cancelSession_conn (h := h) x
    dsimp only
    rw [he]
    exact hx
  | some request =>
    dsimp only
    have hx' : (x.update fun c =>
        if isOriginDenied setup request then c
        else { c with session := { c.session with
          allowedOrigin := request.origin.getD c.session.allowedOrigin } }).conn.session.pendingPart =
        none := by
      simp only [Hosted.update]
      split
      · exact hx
      · exact hx
    split
    · exact hx'
    · exact hx'
    · rw [startStream_part]
      exact hx'
    · split
      · exact hx'
      · exact hx'

theorem sessionStep_retains {x y : Hosted S} {provided : Provided} {e : SessionEvent}
    (hs : Stage x.conn) (hx : x.conn.Retains)
    (he : sessionStep h setup provided x e = some y) : y.conn.Retains := by
  cases e with
  | read request =>
    obtain ⟨hreading, heq⟩ := Option.ite_none_right_eq_some.mp he
    cases heq
    have hnone : x.conn.session.pendingPart = none := by
      cases hs with
      | reading _ _ hm => exact hm.partNone
      | responding _ _ _ hm => exact hm.partNone
      | sendingHeader _ _ _ _ _ _ _ _ _ hp => exact hp
      | sendingPart _ _ hr => rw [hr] at hreading; cases hreading
      | waiting _ _ _ _ _ _ hp => exact hp
      | «over» _ hr => rw [hr] at hreading; cases hreading
    refine Connection.retains_of_none (handleRead_part ?_ request provided)
    exact hnone
  | written write failed =>
    obtain ⟨-, heq⟩ := Option.ite_none_right_eq_some.mp he
    cases heq
    refine handleWritten_retains ?_ write failed provided.frame
    exact hx.of_eq rfl rfl rfl
  | expire =>
    cases he
    exact hx.of_eq rfl rfl rfl
  | waited wait =>
    obtain ⟨-, heq⟩ := Option.ite_none_right_eq_some.mp he
    cases heq
    unfold handleWaited
    split
    · refine cancelSession_retains ?_
      exact hx.of_eq rfl rfl rfl
    · exact hx.of_eq rfl rfl rfl
  | notify kind =>
    cases he
    exact notifyStreamFrame_retains hx kind provided.frame
  | cancel =>
    cases he
    exact cancelSession_retains hx

end

/-- The retained part is the one being written, or the last one that a session wrote which is over. -/
theorem Stage.retained {c : Connection} (hs : Stage c) (hc : c.Retains) {bytes : Text.ByteString}
    (hp : c.session.pendingPart = some bytes) :
    ∃ identity, c.started.getLast? = some (.part identity bytes) ∧
      (c.writes = [.part identity bytes] ∨ (c.session.finished = true ∧ c.writes = [])) := by
  obtain ⟨frame, hframe, hlast⟩ := hc bytes hp
  refine ⟨frame.identity, hlast, ?_⟩
  cases hs with
  | reading _ _ hm => rw [hm.partNone] at hp; cases hp
  | responding _ _ _ hm => rw [hm.partNone] at hp; cases hp
  | sendingHeader _ _ _ _ _ _ _ _ _ hnone => rw [hnone] at hp; cases hp
  | sendingPart f _ _ hw _ _ _ hpending hsome =>
    rw [hsome] at hp
    cases hp
    rw [hpending] at hframe
    cases hframe
    exact .inl hw
  | waiting _ _ _ _ _ _ hnone => rw [hnone] at hp; cases hp
  | «over» hf _ hw => exact .inr ⟨hf, hw⟩

end NodusVision.Provider
