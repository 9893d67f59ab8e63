import NodusVision.Provider.Session
import NodusVision.Transition.Reach

/-! What a session is doing, which operations are outstanding there, and what it has sent. -/
namespace NodusVision.Provider
open Text Recording Transition

def Write.identity : Write → Option FrameIdentity
  | .part identity _ => some identity
  | _ => none

/-- Identities of the parts whose writes were started, oldest first. -/
def Connection.sent (c : Connection) : List FrameIdentity := c.started.filterMap Write.identity

/-- Lexicographically increasing in generation and frame number. -/
def Increasing (identities : List FrameIdentity) : Prop :=
  identities.Pairwise fun a b => orderKey a < orderKey b

def NotAfter (identities : List FrameIdentity) (last : FrameIdentity) : Prop :=
  ∀ a ∈ identities, orderKey a ≤ orderKey last

theorem increasing_append {identities : List FrameIdentity} {last next : FrameIdentity}
    (h : Increasing identities) (hl : NotAfter identities last)
    (hn : orderKey last < orderKey next) : Increasing (identities ++ [next]) := by
  unfold Increasing
  rw [List.pairwise_append]
  refine ⟨h, List.pairwise_singleton _ _, ?_⟩
  intro a ha b hb
  rw [List.mem_singleton.mp hb]
  exact lt_of_le_of_lt (hl a ha) hn

theorem notAfter_append {identities : List FrameIdentity} {last next : FrameIdentity}
    (hl : NotAfter identities last) (hn : orderKey last < orderKey next) :
    NotAfter (identities ++ [next]) next := by
  intro a ha
  rcases List.mem_append.mp ha with ha | ha
  · exact (lt_of_le_of_lt (hl a ha) hn).le
  · rw [List.mem_singleton.mp ha]

/-- No stream was opened. -/
structure HttpSession.Plain (m : HttpSession) : Prop where
  streaming : m.streaming = false
  writing : m.writeInProgress = false
  sentNone : m.hasSentFrame = false
  initialNone : m.initialStreamFrame = none
  partNone : m.pendingPart = none

/-- The operations that are outstanding in each stage of a session. -/
inductive Stage (c : Connection) : Prop
  | reading (hr : c.reading = true) (hw : c.writes = []) (hm : c.session.Plain) (hs : c.sent = [])
  | responding (message : HttpMessage) (hr : c.reading = false)
      (hw : c.writes = [.response message]) (hm : c.session.Plain) (hs : c.sent = [])
  | sendingHeader (message : HttpMessage) (initial : ProviderStreamFrame) (hr : c.reading = false)
      (hw : c.writes = [.header message]) (hb : c.session.writeInProgress = true)
      (hm : c.session.streaming = true) (hn : c.session.hasSentFrame = false)
      (hi : c.session.initialStreamFrame = some initial) (himage : initial.image.isSome = true)
      (hp : c.session.pendingPart = none) (hs : c.sent = [])
  | sendingPart (frame : ProviderStreamFrame) (bytes : ByteString) (hr : c.reading = false)
      (hw : c.writes = [.part frame.identity bytes]) (hb : c.session.writeInProgress = true)
      (hm : c.session.streaming = true) (hi : c.session.initialStreamFrame = none)
      (hf : c.session.pendingStreamFrame = some frame) (hp : c.session.pendingPart = some bytes)
      (hs : Increasing c.sent) (hl : NotAfter c.sent frame.identity)
  | waiting (hr : c.reading = false) (hw : c.writes = []) (hb : c.session.writeInProgress = false)
      (hm : c.session.streaming = true) (hi : c.session.initialStreamFrame = none)
      (hn : c.session.hasSentFrame = true) (hp : c.session.pendingPart = none)
      (hs : Increasing c.sent) (hl : NotAfter c.sent c.session.lastSentIdentity)
      (hwait : c.session.finished = false → .armed ∈ c.waits ∨ .expired ∈ c.waits)
  | «over» (hf : c.session.finished = true) (hr : c.reading = false) (hw : c.writes = [])
      (hb : c.session.writeInProgress = false) (hs : Increasing c.sent)

/-- The closed handler runs when the session finishes, and only then. -/
structure ClosedOnce (c : Connection) : Prop where
  handler : c.session.hasClosedHandler = !c.session.finished
  closes : c.closes = if c.session.finished then 1 else 0

theorem stage_new : Stage {} := .reading rfl rfl ⟨rfl, rfl, rfl, rfl, rfl⟩ rfl

theorem closedOnce_new : ClosedOnce {} := ⟨rfl, rfl⟩

namespace Stage
variable {c : Connection}

theorem increasing (h : Stage c) : Increasing c.sent := by
  cases h with
  | reading _ _ _ hs => rw [hs]; exact List.Pairwise.nil
  | responding _ _ _ _ hs => rw [hs]; exact List.Pairwise.nil
  | sendingHeader _ _ _ _ _ _ _ _ _ _ hs => rw [hs]; exact List.Pairwise.nil
  | sendingPart _ _ _ _ _ _ _ _ _ hs => exact hs
  | waiting _ _ _ _ _ _ _ hs => exact hs
  | «over» _ _ _ _ hs => exact hs

theorem writes_length (h : Stage c) : c.writes.length ≤ 1 := by
  cases h with
  | reading _ hw => rw [hw]; exact Nat.zero_le _
  | responding _ _ hw => rw [hw]; exact le_refl _
  | sendingHeader _ _ _ hw => rw [hw]; exact le_refl _
  | sendingPart _ _ _ hw => rw [hw]; exact le_refl _
  | waiting _ hw => rw [hw]; exact Nat.zero_le _
  | «over» _ _ hw => rw [hw]; exact Nat.zero_le _

/-- The flag `m_refresh_pending` and waits other than the needed one make no difference. -/
theorem replace (h : Stage c) (refresh : Bool) (waits : List Wait)
    (hkept : .armed ∈ c.waits ∨ .expired ∈ c.waits → .armed ∈ waits ∨ .expired ∈ waits) :
    Stage { c with session := { c.session with refreshPending := refresh }
                   waits := waits } := by
  cases h with
  | reading hr hw hm hs => exact .reading hr hw ⟨hm.1, hm.2, hm.3, hm.4, hm.5⟩ hs
  | responding m hr hw hm hs => exact .responding m hr hw ⟨hm.1, hm.2, hm.3, hm.4, hm.5⟩ hs
  | sendingHeader m i hr hw hb hm hn hi himage hp hs =>
    exact .sendingHeader m i hr hw hb hm hn hi himage hp hs
  | sendingPart f b hr hw hb hm hi hf hp hs hl => exact .sendingPart f b hr hw hb hm hi hf hp hs hl
  | waiting hr hw hb hm hi hn hp hs hl hwait =>
    exact .waiting hr hw hb hm hi hn hp hs hl fun hf => hkept (hwait hf)
  | «over» hf hr hw hb hs => exact .«over» hf hr hw hb hs

/-- A session that is not finished has an operation whose handler will run. -/
theorem isAlive (h : Stage c) (hf : c.session.finished = false) : c.isAlive = true := by
  unfold Connection.isAlive
  cases h with
  | reading hr => simp [hr]
  | responding _ _ hw => simp [hw]
  | sendingHeader _ _ _ hw => simp [hw]
  | sendingPart _ _ _ hw => simp [hw]
  | waiting _ _ _ _ _ _ _ _ _ hwait =>
    have hne : c.waits ≠ [] := by
      rcases hwait hf with hm | hm
      · exact List.ne_nil_of_mem hm
      · exact List.ne_nil_of_mem hm
    simp [hne]
  | «over» hover => rw [hf] at hover; cases hover

end Stage

section
variable {S : Type} {h : Handlers S} {setup : SessionSetup}

theorem cancelSession_finished (x : Hosted S) :
    (cancelSession h x).conn.session.finished = true := by
  unfold cancelSession
  split
  · assumption
  · simp only
    split
    · rfl
    · rfl

/-- `cancelSession` only ends the session and its waits. -/
theorem cancelSession_conn (x : Hosted S) :
    ∃ waits handler closes, (cancelSession h x).conn =
      { x.conn with
        session := { x.conn.session with finished := true, hasClosedHandler := handler }
        waits := waits
        closes := closes } := by
  have hf := cancelSession_finished (h := h) x
  unfold cancelSession at hf ⊢
  split
  · rename_i hx
    refine ⟨x.conn.waits, x.conn.session.hasClosedHandler, x.conn.closes, ?_⟩
    rw [← hx]
  · simp only
    split
    · exact ⟨_, _, _, rfl⟩
    · exact ⟨_, _, _, rfl⟩

/-- Which waits are outstanding does not matter to a session that is cancelled. -/
theorem cancelSession_stage {x : Hosted S} (waits : List Wait)
    (hs : Stage { x.conn with waits := waits }) : Stage (cancelSession h x).conn := by
  obtain ⟨_, _, _, he⟩ := cancelSession_conn (h := h) x
  rw [he]
  cases hs with
  | reading hr hw hm hs => exact .reading hr hw ⟨hm.1, hm.2, hm.3, hm.4, hm.5⟩ hs
  | responding m hr hw hm hs => exact .responding m hr hw ⟨hm.1, hm.2, hm.3, hm.4, hm.5⟩ hs
  | sendingHeader m i hr hw hb hm hn hi himage hp hs =>
    exact .sendingHeader m i hr hw hb hm hn hi himage hp hs
  | sendingPart f b hr hw hb hm hi hf hp hs hl => exact .sendingPart f b hr hw hb hm hi hf hp hs hl
  | waiting hr hw hb hm hi hn hp hs hl =>
    exact .waiting hr hw hb hm hi hn hp hs hl fun hf => by cases hf
  | «over» _ hr hw hb hs => exact .«over» rfl hr hw hb hs

/-- A session whose last operation ended, and that is cancelled now. -/
theorem cancelSession_over {x : Hosted S} (hr : x.conn.reading = false) (hw : x.conn.writes = [])
    (hb : x.conn.session.writeInProgress = false) (hs : Increasing x.conn.sent) :
    Stage (cancelSession h x).conn := by
  obtain ⟨_, _, _, he⟩ := cancelSession_conn (h := h) x
  rw [he]
  exact .«over» rfl hr hw hb hs

/-- The session streams and no write is in progress: a frame may be taken. -/
structure Ready (c : Connection) : Prop where
  reading : c.reading = false
  writes : c.writes = []
  writing : c.session.writeInProgress = false
  streaming : c.session.streaming = true
  finished : c.session.finished = false
  part : c.session.pendingPart = none
  increasing : Increasing c.sent
  last : c.session.hasSentFrame = true → NotAfter c.sent c.session.lastSentIdentity
  first : c.session.hasSentFrame = false → c.sent = []

theorem Ready.waitForStreamFrame {c : Connection} (hc : Ready c)
    (hi : c.session.initialStreamFrame = none) (hn : c.session.hasSentFrame = true) :
    Stage c.waitForStreamFrame := by
  unfold Connection.waitForStreamFrame
  rw [if_neg (by simp [hc.finished])]
  exact .waiting hc.reading hc.writes hc.writing hc.streaming hi hn hc.part hc.increasing
    (hc.last hn) fun _ => .inl (by simp)

theorem Ready.writeFrame {c : Connection} (hc : Ready c)
    (hi : c.session.initialStreamFrame = none) {frame : Option ProviderStreamFrame}
    (hn : c.session.hasSentFrame = true ∨ frame.any (fun f => f.image.isSome) = true) :
    Stage (c.writeFrame frame) := by
  unfold Connection.writeFrame
  split
  · rename_i hnone
    refine hc.waitForStreamFrame hi (hn.resolve_right ?_)
    intro hany
    obtain ⟨f, rfl, himage⟩ := (Option.any_eq_true _ _).mp hany
    rw [Option.bind_some, Option.map_eq_none_iff] at hnone
    rw [hnone] at himage
    cases himage
  · rename_i f jpeg _
    split
    · rename_i hold
      exact hc.waitForStreamFrame hi (Bool.and_eq_true_iff.mp hold).1
    · rename_i hnew
      have hsent : (Connection.asyncWrite c (.part f.identity (buildMjpegPart f jpeg))).sent =
          c.sent ++ [f.identity] := by
        simp [Connection.sent, Connection.asyncWrite, Write.identity]
      have horder : Increasing (c.sent ++ [f.identity]) ∧
          NotAfter (c.sent ++ [f.identity]) f.identity := by
        cases hfirst : c.session.hasSentFrame with
        | false =>
          rw [hc.first hfirst]
          exact ⟨List.pairwise_singleton _ _, fun a ha => by rw [List.mem_singleton.mp ha]⟩
        | true =>
          have hnewer : orderKey c.session.lastSentIdentity < orderKey f.identity := by
            rw [← isNewerIdentity_iff]
            simpa [hfirst] using hnew
          exact ⟨increasing_append hc.increasing (hc.last hfirst) hnewer,
            notAfter_append (hc.last hfirst) hnewer⟩
      refine .sendingPart f (buildMjpegPart f jpeg) hc.reading ?_ rfl hc.streaming hi rfl rfl ?_ ?_
      · simp [Connection.asyncWrite, hc.writes]
      · exact hsent ▸ horder.1
      · exact hsent ▸ horder.2

theorem Ready.writeLatestStreamFrame {x : Hosted S} {frame : Acquired} (hc : Ready x.conn)
    (hi : ∀ initial, x.conn.session.initialStreamFrame = some initial →
      initial.image.isSome = true)
    (hn : x.conn.session.initialStreamFrame = none → x.conn.session.hasSentFrame = true) :
    Stage (writeLatestStreamFrame h frame x).conn := by
  unfold Provider.writeLatestStreamFrame
  rw [if_neg (by simp [hc.finished, hc.writing])]
  cases hinit : x.conn.session.initialStreamFrame with
  | some initial =>
    have hready : Ready { x.conn with
        session := { x.conn.session with initialStreamFrame := none } } :=
      ⟨hc.1, hc.2, hc.3, hc.4, hc.5, hc.6, hc.7, hc.8, hc.9⟩
    exact hready.writeFrame rfl (.inr (by simpa using hi initial hinit))
  | none =>
    have hready : Ready x.conn.fetch := ⟨hc.1, hc.2, hc.3, hc.4, hc.5, hc.6, hc.7, hc.8, hc.9⟩
    cases frame with
    | error _ => exact cancelSession_over hc.reading hc.writes hc.writing hc.increasing
    | ok frame => exact hready.writeFrame hinit (.inl (hn hinit))

/-- The request was read and nothing was answered yet. -/
structure Answering (c : Connection) : Prop where
  reading : c.reading = false
  writes : c.writes = []
  plain : c.session.Plain
  sent : c.sent = []

theorem Answering.asyncWrite {c : Connection} (hc : Answering c) (m : HttpMessage) :
    Stage (c.asyncWrite (.response m)) := by
  refine .responding m hc.reading ?_ hc.plain ?_
  · simp [Connection.asyncWrite, hc.writes]
  · have hs := hc.sent
    unfold Connection.sent at hs ⊢
    simp [Connection.asyncWrite, hs, Write.identity]

theorem Answering.openStream {c : Connection} (hc : Answering c) (kind : ProviderStreamKind)
    (version : ℕ) {initial : ProviderStreamFrame} (hi : initial.image.isSome = true) :
    Stage (c.openStream kind version initial) := by
  unfold Connection.openStream
  refine .sendingHeader (c.streamResponse version) initial hc.reading ?_ rfl rfl hc.plain.sentNone rfl hi
    hc.plain.partNone ?_
  · simp only [Connection.asyncWrite, hc.writes]
    rfl
  · have hs := hc.sent
    unfold Connection.sent at hs ⊢
    simp [Connection.asyncWrite, hs, Write.identity]

theorem startStream_stage {x : Hosted S} {frame : Acquired} (hx : Answering x.conn)
    (kind : ProviderStreamKind) (version : ℕ) :
    Stage (startStream h setup kind version frame x).conn := by
  have hfetch : Answering x.conn.fetch := ⟨hx.1, hx.2, hx.3, hx.4⟩
  unfold startStream
  split
  · exact hx.asyncWrite _
  · cases frame with
    | error _ => exact hfetch.asyncWrite _
    | ok frame =>
      simp only
      split
      · exact hfetch.asyncWrite _
      · rename_i initial hinitial
        split
        · exact hfetch.openStream kind version (Option.filter_eq_some_iff.mp hinitial).2
        · exact hfetch.asyncWrite _

theorem handleRead_stage {x : Hosted S} {provided : Provided} (hx : Answering x.conn)
    (request : Option HttpRequest) :
    Stage (handleRead h setup request provided x).conn := by
  unfold handleRead
  cases request with
  | none => exact cancelSession_over hx.reading hx.writes hx.plain.writing (by
      rw [hx.sent]
      exact List.Pairwise.nil)
  | some request =>
    simp only
    have hx' : Answering (x.update fun c =>
        if isOriginDenied setup request then c
        else { c with session := { c.session with
          allowedOrigin := request.origin.getD c.session.allowedOrigin } }).conn := by
      obtain ⟨hr, hw, hm, hs⟩ := hx
      simp only [Hosted.update]
      split
      · exact ⟨hr, hw, hm, hs⟩
      · exact ⟨hr, hw, ⟨hm.1, hm.2, hm.3, hm.4, hm.5⟩, hs⟩
    split
    · exact hx'.asyncWrite _
    · exact hx'.asyncWrite _
    · exact startStream_stage hx' _ _
    · split
      · exact hx'.asyncWrite _
      · exact hx'.asyncWrite _

theorem partSent_last {c : Connection} {frame : ProviderStreamFrame}
    (hf : c.session.pendingStreamFrame = some frame) :
    c.partSent.session.lastSentIdentity = frame.identity := by
  simp only [Connection.partSent, hf, Option.map_some, Option.getD_some]

theorem handleWritten_stage {x : Hosted S} {frame : Acquired} {write : Write} {failed : Bool}
    (hs : Stage x.conn) (hw : write ∈ x.conn.writes) :
    Stage (handleWritten h write failed frame
      (x.update fun c => { c with writes := c.writes.erase write })).conn := by
  have hsent := hs.increasing
  cases hs with
  | reading _ hnil => rw [hnil] at hw; cases hw
  | waiting _ hnil => rw [hnil] at hw; cases hw
  | «over» _ _ hnil => rw [hnil] at hw; cases hw
  | responding m hr hone hm =>
    rw [hone, List.mem_singleton] at hw
    subst hw
    exact cancelSession_over hr (by simp [Hosted.update, hone]) hm.writing hsent
  | sendingHeader m initial hr hone _ hm hn hi himage hp hnone =>
    rw [hone, List.mem_singleton] at hw
    subst hw
    unfold handleWritten handleStreamHeaderWritten
    simp only
    split
    · exact cancelSession_over hr (by simp [Hosted.update, hone]) rfl hsent
    · rename_i hgo
      have hf : x.conn.session.finished = false := by
        simpa [Hosted.update] using (Bool.or_eq_false_iff.mp (Bool.not_eq_true _ ▸ hgo)).2
      refine Ready.writeLatestStreamFrame ⟨hr, ?_, rfl, hm, hf, hp, hsent, ?_, fun _ => hnone⟩ ?_ ?_
      · simp [Hosted.update, hone]
      · intro hsome
        rw [show x.conn.session.hasSentFrame = true from hsome] at hn
        cases hn
      · intro initial' hinitial'
        have heq : some initial = some initial' := hi.symm.trans hinitial'
        cases heq
        exact himage
      · intro hnone'
        have heq : some initial = none := hi.symm.trans hnone'
        cases heq
  | sendingPart f bytes hr hone _ hm hi hf hp _ hlast =>
    rw [hone, List.mem_singleton] at hw
    subst hw
    unfold handleWritten handleStreamPartWritten
    simp only
    split
    · exact cancelSession_over hr (by simp [Hosted.update, hone]) rfl hsent
    · rename_i hgo
      have hfin : x.conn.session.finished = false := by
        simpa [Hosted.update] using (Bool.or_eq_false_iff.mp (Bool.not_eq_true _ ▸ hgo)).2
      split
      · refine Ready.writeLatestStreamFrame
          ⟨hr, ?_, rfl, hm, hfin, rfl, hsent, ?_, fun hn => by cases hn⟩ ?_ fun _ => rfl
        · simp [Hosted.update, Connection.partSent, hone]
        · intro _
          exact partSent_last hf ▸ hlast
        · intro initial hinitial
          have heq : none = some initial := hi.symm.trans hinitial
          cases heq
      · refine Ready.waitForStreamFrame
          ⟨hr, ?_, rfl, hm, hfin, rfl, hsent, ?_, fun hn => by cases hn⟩ hi rfl
        · simp [Hosted.update, Connection.partSent, hone]
        · intro _
          exact partSent_last hf ▸ hlast

theorem notifyStreamFrame_stage {x : Hosted S} {kind : ProviderStreamKind} {frame : Acquired}
    (hs : Stage x.conn) : Stage (notifyStreamFrame h kind frame x).conn := by
  unfold notifyStreamFrame
  split
  · exact hs
  · rename_i hgo
    have hgo := Bool.or_eq_false_iff.mp (Bool.not_eq_true _ ▸ hgo)
    have hgo := Bool.or_eq_false_iff.mp hgo.1
    have hf : x.conn.session.finished = false := hgo.1
    have hm : x.conn.session.streaming = true := by simpa using hgo.2
    split
    · exact hs.replace true x.conn.waits id
    · rename_i hb
      cases hs with
      | reading _ _ hplain => rw [hplain.streaming] at hm; cases hm
      | responding _ _ _ hplain => rw [hplain.streaming] at hm; cases hm
      | sendingHeader _ _ _ _ hb' => exact absurd hb' hb
      | sendingPart _ _ _ _ hb' => exact absurd hb' hb
      | waiting hr hw hb hm hi hn hp hs hl =>
        refine Ready.writeLatestStreamFrame
          ⟨hr, hw, hb, hm, hf, hp, hs, fun _ => hl, fun hn' => ?_⟩ ?_ fun _ => hn
        · have heq : true = false := hn.symm.trans hn'
          cases heq
        · intro initial hinitial
          have heq : none = some initial := hi.symm.trans hinitial
          cases heq
      | «over» hover => rw [hf] at hover; cases hover

theorem sessionStep_stage {x y : Hosted S} {provided : Provided} {e : SessionEvent}
    (hs : Stage x.conn) (he : sessionStep h setup provided x e = some y) : Stage y.conn := by
  cases e with
  | read request =>
    simp only [sessionStep] at he
    split at he
    · rename_i hreading
      cases he
      cases hs with
      | reading _ hw hm hs =>
        exact handleRead_stage (x := x.update fun c => { c with reading := false })
          ⟨rfl, hw, hm, hs⟩ request
      | responding _ hr => rw [hr] at hreading; cases hreading
      | sendingHeader _ _ hr => rw [hr] at hreading; cases hreading
      | sendingPart _ _ hr => rw [hr] at hreading; cases hreading
      | waiting hr => rw [hr] at hreading; cases hreading
      | «over» _ hr => rw [hr] at hreading; cases hreading
    · cases he
  | written write failed =>
    simp only [sessionStep] at he
    split at he
    · cases he
      exact handleWritten_stage hs ‹_›
    · cases he
  | expire =>
    cases he
    refine hs.replace x.conn.session.refreshPending (x.conn.waits.map Wait.expire) ?_
    intro hkept
    rcases hkept with hmem | hmem
    · exact .inr (List.mem_map.mpr ⟨_, hmem, rfl⟩)
    · exact .inr (List.mem_map.mpr ⟨_, hmem, rfl⟩)
  | waited wait =>
    simp only [sessionStep] at he
    split at he
    · rename_i hwait
      cases he
      unfold handleWaited
      split
      · exact cancelSession_stage x.conn.waits hs
      · rename_i hne
        have h1 : Wait.armed ≠ wait := fun heq => hwait.2 heq.symm
        have h2 : Wait.expired ≠ wait := fun heq => hne heq.symm
        refine hs.replace x.conn.session.refreshPending (x.conn.waits.erase wait) ?_
        rw [List.mem_erase_of_ne h1, List.mem_erase_of_ne h2]
        exact id
    · cases he
  | notify kind =>
    cases he
    exact notifyStreamFrame_stage hs
  | cancel =>
    cases he
    exact cancelSession_stage x.conn.waits hs

/-- Nothing was fetched, no write was started, and the session stays finished. -/
structure Ended (x y : Hosted S) : Prop where
  finished : y.conn.session.finished = true
  fetches : y.conn.fetches = x.conn.fetches
  started : y.conn.started = x.conn.started

theorem cancelSession_ended (x : Hosted S) : Ended x (cancelSession h x) := by
  obtain ⟨_, _, _, he⟩ := cancelSession_conn (h := h) x
  exact ⟨cancelSession_finished x, by rw [he], by rw [he]⟩

/-- Only a request whose read completes can make a finished session act. -/
theorem sessionStep_ended {x y : Hosted S} {provided : Provided} {e : SessionEvent}
    (hf : x.conn.session.finished = true) (hr : e.isRead = false)
    (he : sessionStep h setup provided x e = some y) : Ended x y := by
  cases e with
  | read request => cases hr
  | written write failed =>
    simp only [sessionStep] at he
    split at he
    · cases he
      have hcancel (x' : Hosted S) (hfetch : x'.conn.fetches = x.conn.fetches)
          (hstart : x'.conn.started = x.conn.started) : Ended x (cancelSession h x') := by
        have hend := cancelSession_ended (h := h) x'
        exact ⟨hend.finished, hend.fetches.trans hfetch, hend.started.trans hstart⟩
      unfold handleWritten
      split
      · exact hcancel _ rfl rfl
      · unfold handleStreamHeaderWritten
        simp only
        rw [if_pos (by simp [Hosted.update, hf])]
        exact hcancel _ rfl rfl
      · unfold handleStreamPartWritten
        simp only
        rw [if_pos (by simp [Hosted.update, hf])]
        exact hcancel _ rfl rfl
    · cases he
  | expire =>
    cases he
    exact ⟨hf, rfl, rfl⟩
  | waited wait =>
    simp only [sessionStep] at he
    split at he
    · cases he
      unfold handleWaited
      split
      · have hend := cancelSession_ended (h := h)
          (x.update fun c => { c with waits := c.waits.erase wait })
        exact ⟨hend.finished, hend.fetches, hend.started⟩
      · exact ⟨hf, rfl, rfl⟩
    · cases he
  | notify kind =>
    cases he
    unfold notifyStreamFrame
    rw [if_pos (by simp [hf])]
    exact ⟨hf, rfl, rfl⟩
  | cancel =>
    cases he
    exact cancelSession_ended x

end

end NodusVision.Provider
