import NodusVision.Provider.StreamBody

/-! Which parts the events of a session start, and which previews these are made of. -/
namespace NodusVision.Provider
open Text Recording Transition

def Write.bytes : Write → ByteString
  | .part _ bytes => bytes
  | _ => []

/-- The body of the response, as far as its parts were handed to the socket. -/
def Connection.body (c : Connection) : ByteString := c.started.flatMap Write.bytes

/-- The part that a frame is sent as. -/
def framePart (frame : ProviderStreamFrame) (jpeg : ByteString) : Write :=
  .part frame.identity (buildMjpegPart frame jpeg)

/-- One part at most is started, of one of the frames `offered`, and the stream stays what it is. -/
structure Sends (offered : ProviderStreamFrame → Prop) (c d : Connection) : Prop where
  streaming : d.session.streaming = c.session.streaming
  streamKind : d.session.streamKind = c.session.streamKind
  initial : d.session.initialStreamFrame = c.session.initialStreamFrame ∨
    d.session.initialStreamFrame = none
  started : d.started = c.started ∨ ∃ frame jpeg, offered frame ∧ frame.image = some jpeg ∧
    d.started = c.started ++ [framePart frame jpeg]

section
variable {offered : ProviderStreamFrame → Prop}

theorem Sends.after {b c d : Connection} (h : Sends offered c d)
    (hm : c.session.streaming = b.session.streaming)
    (hk : c.session.streamKind = b.session.streamKind)
    (hi : c.session.initialStreamFrame = b.session.initialStreamFrame ∨
      c.session.initialStreamFrame = none)
    (hs : c.started = b.started) : Sends offered b d := by
  obtain ⟨hstreaming, hkind, hinit, hstarted⟩ := h
  rw [hs] at hstarted
  refine ⟨hstreaming.trans hm, hkind.trans hk, ?_, hstarted⟩
  rcases hinit with hinit | hinit
  · rwa [hinit]
  · exact .inr hinit

theorem waitForStreamFrame_sends (c : Connection) : Sends offered c c.waitForStreamFrame := by
  unfold Connection.waitForStreamFrame
  split
  · exact ⟨rfl, rfl, .inl rfl, .inl rfl⟩
  · exact ⟨rfl, rfl, .inl rfl, .inl rfl⟩

theorem writeFrame_sends (c : Connection) {frame : Option ProviderStreamFrame}
    (hf : ∀ f, frame = some f → offered f) : Sends offered c (c.writeFrame frame) := by
  unfold Connection.writeFrame
  split
  · exact waitForStreamFrame_sends c
  · rename_i f jpeg hfound
    obtain ⟨g, rfl, himage⟩ := Option.bind_eq_some_iff.mp hfound
    obtain ⟨bytes, hbytes, heq⟩ := Option.map_eq_some_iff.mp himage
    cases heq
    split
    · exact waitForStreamFrame_sends c
    · exact ⟨rfl, rfl, .inl rfl, .inr ⟨f, jpeg, hf f rfl, hbytes, rfl⟩⟩

variable {S : Type} {h : Handlers S} {setup : SessionSetup}

theorem cancelSession_sends (x : Hosted S) :
    Sends offered x.conn (cancelSession h x).conn := by
  obtain ⟨waits, handler, closes, hconn⟩ := cancelSession_conn (h := h) x
  rw [hconn]
  exact ⟨rfl, rfl, .inl rfl, .inl rfl⟩

theorem writeLatestStreamFrame_sends (x : Hosted S) {frame : Acquired}
    (hi : ∀ f, x.conn.session.initialStreamFrame = some f → offered f)
    (hf : ∀ f, frame = .ok (some f) → offered f) :
    Sends offered x.conn (writeLatestStreamFrame h frame x).conn := by
  unfold writeLatestStreamFrame
  split
  · exact ⟨rfl, rfl, .inl rfl, .inl rfl⟩
  · split
    · rename_i initial hinitial
      refine (writeFrame_sends _ ?_).after rfl rfl (.inr rfl) rfl
      intro f hframe
      cases hframe
      exact hi initial hinitial
    · cases frame with
      | error u => exact (cancelSession_sends _).after rfl rfl (.inl rfl) rfl
      | ok frame =>
        refine (writeFrame_sends _ ?_).after rfl rfl (.inl rfl) rfl
        rintro f rfl
        exact hf f rfl

theorem handleWritten_sends (x : Hosted S) (write : Write) (failed : Bool) {frame : Acquired}
    (hi : ∀ f, x.conn.session.initialStreamFrame = some f → offered f)
    (hf : ∀ f, frame = .ok (some f) → offered f) :
    Sends offered x.conn (handleWritten h write failed frame x).conn := by
  cases write with
  | response message => exact cancelSession_sends x
  | header message =>
    unfold handleWritten handleStreamHeaderWritten
    dsimp only
    split
    · exact (cancelSession_sends _).after rfl rfl (.inl rfl) rfl
    · refine (writeLatestStreamFrame_sends _ ?_ hf).after rfl rfl (.inl rfl) rfl
      exact hi
  | part identity bytes =>
    unfold handleWritten handleStreamPartWritten
    dsimp only
    split
    · exact (cancelSession_sends _).after rfl rfl (.inl rfl) rfl
    · split
      · refine (writeLatestStreamFrame_sends _ ?_ hf).after rfl rfl (.inl rfl) rfl
        exact hi
      · exact (waitForStreamFrame_sends _).after rfl rfl (.inl rfl) rfl

theorem notifyStreamFrame_sends (x : Hosted S) (kind : ProviderStreamKind) {frame : Acquired}
    (hi : ∀ f, x.conn.session.initialStreamFrame = some f → offered f)
    (hf : ∀ f, frame = .ok (some f) → offered f) :
    Sends offered x.conn (notifyStreamFrame h kind frame x).conn := by
  unfold notifyStreamFrame
  split
  · exact ⟨rfl, rfl, .inl rfl, .inl rfl⟩
  · split
    · exact ⟨rfl, rfl, .inl rfl, .inl rfl⟩
    · refine (writeLatestStreamFrame_sends _ ?_ hf).after rfl rfl (.inl rfl) rfl
      exact hi

/-- A part is made of the frame the session began with, or of the one the callback answers. -/
theorem sessionStep_sends {x y : Hosted S} {provided : Provided} {e : SessionEvent}
    (hr : e.isRead = false) (he : sessionStep h setup provided x e = some y)
    (hi : ∀ f, x.conn.session.initialStreamFrame = some f → offered f)
    (hf : ∀ f, provided.frame = .ok (some f) → offered f) : Sends offered x.conn y.conn := by
  cases e with
  | read request => cases hr
  | written write failed =>
    obtain ⟨-, heq⟩ := Option.ite_none_right_eq_some.mp he
    cases heq
    refine (handleWritten_sends _ write failed ?_ hf).after rfl rfl (.inl rfl) rfl
    exact hi
  | expire =>
    cases he
    exact ⟨rfl, rfl, .inl rfl, .inl rfl⟩
  | waited wait =>
    obtain ⟨-, heq⟩ := Option.ite_none_right_eq_some.mp he
    cases heq
    unfold handleWaited
    split
    · exact (cancelSession_sends _).after rfl rfl (.inl rfl) rfl
    · exact ⟨rfl, rfl, .inl rfl, .inl rfl⟩
  | notify kind =>
    cases he
    exact notifyStreamFrame_sends x kind hi hf
  | cancel =>
    cases he
    exact cancelSession_sends x

/-- A stream that was opened has started its header only, and begins with the frame it fetched. -/
theorem startStream_opened {x : Hosted S} {kind : ProviderStreamKind} {version : ℕ} {frame : Acquired}
    (hx : Answering x.conn)
    (hm : (startStream h setup kind version frame x).conn.session.streaming = true) :
    ∃ initial, frame = .ok (some initial) ∧
      (startStream h setup kind version frame x).conn =
        x.conn.fetch.openStream kind version initial := by
  have hplain : ¬ x.conn.session.streaming = true := by
    rw [hx.plain.streaming]
    exact Bool.false_ne_true
  unfold startStream at hm ⊢
  split at hm
  · exact absurd hm hplain
  · rename_i hregistered
    rw [if_neg hregistered]
    cases frame with
    | error u => exact absurd hm hplain
    | ok frame =>
      dsimp only at hm ⊢
      split at hm
      · exact absurd hm hplain
      · rename_i initial hinitial
        obtain ⟨rfl, -⟩ := Option.filter_eq_some_iff.mp hinitial
        split at hm
        · rename_i hadmitted
          rw [if_pos hadmitted]
          exact ⟨initial, rfl, rfl⟩
        · exact absurd hm hplain

/-- A stage that streams has read its request. -/
theorem Stage.not_read {x y : Hosted S} {provided : Provided} {e : SessionEvent} (hs : Stage x.conn)
    (hm : x.conn.session.streaming = true) (he : sessionStep h setup provided x e = some y) :
    e.isRead = false := by
  cases e with
  | read request =>
    obtain ⟨hreading, -⟩ := Option.ite_none_right_eq_some.mp he
    cases hs with
    | reading _ _ hplain =>
      rw [hplain.streaming] at hm
      cases hm
    | responding _ hr => rw [hr] at hreading; cases hreading
    | sendingHeader _ _ hr => rw [hr] at hreading; cases hreading
    | sendingPart _ _ hr => rw [hr] at hreading; cases hreading
    | waiting hr => rw [hr] at hreading; cases hreading
    | «over» _ hr => rw [hr] at hreading; cases hreading
  | written | expire | waited | notify | cancel => rfl

end

end NodusVision.Provider
