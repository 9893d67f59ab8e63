import NodusVision.Provider.Coverage
import NodusVision.Provider.Retention

/-! What a stream client is sent: every published preview is followed up, one part at a time, in
increasing order. -/
namespace NodusVision.Guarantees
open Text Recording Provider Transition

section Notifications
variable {S : Type} {setup : ViewerSetup S}

/-- The identity in the slot that the stream reads. -/
def newest (v : Viewer S) : Option FrameIdentity :=
  (v.cache.slot v.hosted.conn.session.streamKind).preview.map EncodedPreview.identity

/-- Announcements of the session's kind that it has not handled. -/
def awaited (v : Viewer S) : ℕ := v.inFlight v.hosted.conn.session.streamKind

/-- The preview in the slot is not too old. -/
def isFresh (setup : ViewerSetup S) (v : Viewer S) (now : ℤ) : Bool :=
  decide (0 < setup.maxAgeMs ∧
    now - (v.cache.slot v.hosted.conn.session.streamKind).publishedAt ≤ setup.maxAgeMs * 1000000)

/-- A step that reads the slot finds it fresh. -/
def ReadsFresh (setup : ViewerSetup S) (v : Viewer S) (e : Viewer.Event) (w : Viewer S) : Prop :=
  ∀ event now, e = .session event now → w.hosted.conn.fetches ≠ v.hosted.conn.fetches →
    isFresh setup v now = true

/-- The header of an open session is written, the first frame that the session captured is no
longer the newest one, and the newest one was announced already. -/
def overlooks (v : Viewer S) : Viewer.Event → Bool
  | .session (.written (.header _) false) _ =>
    !v.hosted.conn.session.finished && awaited v == 0 &&
      v.hosted.conn.session.initialStreamFrame.any fun f => newest v != some f.identity
  | _ => false

/-- Previews are fresh when read, and no header completion overlooks one. -/
def Followed (setup : ViewerSetup S) (v : Viewer S) (e : Viewer.Event) (w : Viewer S) : Prop :=
  ReadsFresh setup v e w ∧ overlooks v e = false

structure ViewerInv (v : Viewer S) (preview : EncodedPreview) : Prop where
  stage : Stage v.hosted.conn
  streaming : v.hosted.conn.session.streaming = true
  closed : ClosedOnce v.hosted.conn
  slot : (v.cache.slot v.hosted.conn.session.streamKind).preview = some preview
  jpeg : preview.jpeg ≠ []
  covered : v.hosted.conn.session.finished = false →
    Covered v.hosted.conn (awaited v) preview.identity

theorem makeStreamFrame_some {labels : MountLabels} {preview : Option EncodedPreview}
    {frame : ProviderStreamFrame} (h : makeStreamFrame labels preview = some frame) :
    ∃ p, preview = some p ∧ p.jpeg ≠ [] ∧ frame.identity = p.identity := by
  obtain ⟨p, hp, rfl⟩ := Option.map_eq_some_iff.mp h
  obtain ⟨rfl, hjpeg⟩ := Option.filter_eq_some_iff.mp hp
  exact ⟨p, rfl, by simpa using hjpeg, rfl⟩

/-- The frame of a preview that is fresh. -/
theorem streamFrame_fresh {cache : EncodedPreviewCache} {kind : PreviewKind} {now : ℤ}
    {p : EncodedPreview} (hp : (cache.slot kind).preview = some p) (hj : p.jpeg ≠ [])
    (hage : 0 < setup.maxAgeMs ∧
      now - (cache.slot kind).publishedAt ≤ setup.maxAgeMs * 1000000) :
    Viewer.streamFrame setup cache kind now =
      .ok (some ⟨p.identity, some p.jpeg, makeIdentityHeaders p.identity setup.labels⟩) := by
  unfold Viewer.streamFrame EncodedPreviewCache.acquireFreshPreview makeStreamFrame
  rw [if_neg (by omega), hp]
  simp [Option.filter, hj]

/-- A stream starts with the preview that is the newest then. -/
theorem viewerInv_opened {v : Viewer S} (h : Viewer.IsOpened setup v) :
    ∃ preview, ViewerInv v preview := by
  obtain ⟨kind, version, now, origin, host, hx, hm⟩ := h
  have hstage : Stage v.hosted.conn := by
    rw [hx]
    exact startStream_stage ⟨rfl, rfl, ⟨rfl, rfl, rfl, rfl, rfl⟩, rfl⟩ kind version
  unfold startStream at hx
  split at hx
  · rw [hx] at hm
    cases hm
  · rw [Viewer.streamFrame] at hx
    simp only at hx
    split at hx
    · rw [hx] at hm
      cases hm
    · rename_i initial hinitial
      obtain ⟨hframe, himage⟩ := Option.filter_eq_some_iff.mp hinitial
      obtain ⟨p, hp, hjpeg, hid⟩ := makeStreamFrame_some hframe
      split at hx
      · have hconn : v.hosted.conn = Connection.openStream kind version initial
            ({ reading := false, session := { allowedOrigin := origin } } : Connection).fetch :=
          congrArg Hosted.conn hx
        refine ⟨p, hstage, hm, ?_, ?_, hjpeg, fun _ => ?_⟩
        · rw [hconn]
          exact ⟨rfl, rfl⟩
        · rw [hconn]
          exact EncodedPreviewCache.acquireFreshPreview_some hp
        · rw [hconn]
          refine ⟨?_, ?_, fun hw => by cases hw⟩
          · intro f hf
            cases hf
            exact ⟨.inl hid, .inr (.inr hid)⟩
          · intro f _ hi
            cases hi
      · rw [hx] at hm
        cases hm

theorem viewerInv_publish {v : Viewer S} {preview : EncodedPreview} (hv : ViewerInv v preview)
    {kind : PreviewKind} {candidate : Option EncodedPreview} {now : ℤ} {w : Viewer S}
    (he : v.step setup (.publish kind candidate now) = some w) : ∃ preview', ViewerInv w preview' := by
  cases he
  unfold EncodedPreviewCache.publishPreview
  split
  · exact ⟨preview, hv.1, hv.2, hv.3, hv.4, hv.5, hv.6⟩
  · rename_i p hp
    obtain ⟨-, hjpeg⟩ := Option.filter_eq_some_iff.mp hp
    split
    · exact ⟨preview, hv.1, hv.2, hv.3, hv.4, hv.5, hv.6⟩
    · rename_i hnewer
      by_cases hk : v.hosted.conn.session.streamKind = kind
      · subst hk
        have hlt : orderKey preview.identity < orderKey p.identity := by
          rw [← isNewerIdentity_iff]
          simpa [hv.slot] using hnewer
        refine ⟨p, hv.stage, hv.streaming, hv.closed, ?_, by simpa using hjpeg, fun hf => ?_⟩
        · simp
        · have hc := (hv.covered hf).published hlt
          simpa [awaited] using hc
      · refine ⟨preview, hv.stage, hv.streaming, hv.closed, ?_, hv.jpeg, fun hf => ?_⟩
        · simp [hk, hv.slot]
        · simpa [awaited, hk] using hv.covered hf

/-- A handler of the session, with the announcements it leaves. -/
theorem viewerInv_handler {v w : Viewer S} {preview : EncodedPreview} (hv : ViewerInv v preview)
    {event : SessionEvent} {now : ℤ} {x : Hosted S}
    (hk : Followed setup v (.session event now) w)
    (he : sessionStep setup.handlers setup.session
      ⟨Viewer.streamFrame setup v.cache v.hosted.conn.session.streamKind now, .error ()⟩
      v.hosted event = some x)
    (hw : w = { v with hosted := x, inFlight := fun kind => event.left kind (v.inFlight kind) }) :
    ViewerInv w preview := by
  obtain rfl : w.hosted = x := by rw [hw]
  have hread : event.isRead = false := by
    cases event with
    | read request =>
      simp only [sessionStep] at he
      split at he
      · rename_i hreading
        have hplain := hv.streaming
        cases hv.stage with
        | reading _ _ hm => rw [hm.streaming] at hplain; cases hplain
        | responding _ hr => rw [hr] at hreading; cases hreading
        | sendingHeader _ _ hr => rw [hr] at hreading; cases hreading
        | sendingPart _ _ hr => rw [hr] at hreading; cases hreading
        | waiting hr => rw [hr] at hreading; cases hreading
        | «over» _ hr => rw [hr] at hreading; cases hreading
      · cases he
    | written | expire | waited | notify | cancel => rfl
  have haccount : w.hosted.conn.session.streaming = v.hosted.conn.session.streaming ∧
      w.hosted.conn.session.streamKind = v.hosted.conn.session.streamKind ∧
      ClosedOnce w.hosted.conn := by
    cases sessionStep_outcome hv.closed hread he with
    | same ha =>
      exact ⟨congrArg Account.streaming ha, congrArg Account.streamKind ha,
        closedOnce_of_account hv.closed ha⟩
    | closed hf ha =>
      refine ⟨congrArg Account.streaming ha, congrArg Account.streamKind ha, ?_, ?_⟩
      · have h1 : w.hosted.conn.session.hasClosedHandler = false :=
          congrArg Account.hasClosedHandler ha
        have h2 : w.hosted.conn.session.finished = true := congrArg Account.finished ha
        rw [h1, h2]
        rfl
      · have h1 : w.hosted.conn.closes = v.hosted.conn.closes + 1 := congrArg Account.closes ha
        have h2 : w.hosted.conn.session.finished = true := congrArg Account.finished ha
        rw [h1, h2, hv.closed.closes, hf]
        rfl
  obtain ⟨hstreaming, hkind, hclosed⟩ := haccount
  -- A frame is read only while it is fresh, so the callback can be taken to answer with it.
  have hframe : sessionStep setup.handlers setup.session
      ⟨.ok (some ⟨preview.identity, some preview.jpeg,
        makeIdentityHeaders preview.identity setup.labels⟩), .error ()⟩
      v.hosted event = some w.hosted := by
    by_cases hfetch : w.hosted.conn.fetches = v.hosted.conn.fetches
    · exact sessionStep_unfetched _ hread he hfetch
    · rwa [streamFrame_fresh hv.slot hv.jpeg (of_decide_eq_true (hk.1 event now rfl hfetch))] at he
  refine ⟨sessionStep_stage hv.stage he, hstreaming ▸ hv.streaming, hclosed, ?_, hv.jpeg, ?_⟩
  · rw [hkind, show w.cache = v.cache by rw [hw], hv.slot]
  intro hfin
  have hopen : v.hosted.conn.session.finished = false := by
    cases sessionStep_outcome hv.closed hread he with
    | same ha => rw [← hfin]; exact (congrArg Account.finished ha).symm
    | closed hf => exact hf
  have hleft : awaited w = event.left v.hosted.conn.session.streamKind (awaited v) := by
    rw [awaited, hkind, show w.inFlight = fun kind => event.left kind (v.inFlight kind) by rw [hw]]
    rfl
  rw [hleft]
  refine sessionStep_covered hv.stage hv.streaming hv.closed hread (hv.covered hopen) rfl ?_ ?_
    hframe hfin
  · simp [ProviderStreamFrame.image, Option.filter, hv.jpeg]
  · intro m hm
    by_contra hno
    rw [not_or, not_forall] at hno
    obtain ⟨hnone, f, hf⟩ := hno
    obtain ⟨hf, hne⟩ := Classical.not_imp.mp hf
    have hlost : overlooks v (.session event now) = true := by
      rw [hm]
      have hother : preview.identity ≠ f.identity := fun heq => hne heq.symm
      have hzero : awaited v = 0 := by omega
      simp [overlooks, hopen, hf, hzero, newest, hv.slot, hother]
    rw [hk.2] at hlost
    cases hlost

theorem viewerInv_step {v w : Viewer S} {preview : EncodedPreview} (hv : ViewerInv v preview)
    {e : Viewer.Event} (he : v.step setup e = some w) (hk : Followed setup v e w) :
    ∃ preview', ViewerInv w preview' := by
  cases e with
  | publish kind candidate now => exact viewerInv_publish hv he
  | session event now =>
    simp only [Viewer.step] at he
    split at he
    · cases he
    · obtain ⟨x, hx, rfl⟩ := Option.map_eq_some_iff.mp he
      exact ⟨preview, viewerInv_handler hv hk hx rfl⟩

theorem viewerInv_reachable {v : Viewer S}
    (hv : Reach (Viewer.IsOpened setup) (Viewer.step setup) (Followed setup) v) :
    ∃ preview, ViewerInv v preview := by
  refine Reach.invariant (fun v => ∃ preview, ViewerInv v preview) ?_ ?_ hv
  · intro v hopened
    exact viewerInv_opened hopened
  · intro v e w _ hinv he hk
    obtain ⟨preview, hinv⟩ := hinv
    exact viewerInv_step hinv he hk

/-- A session that is open and idle, with nothing announced to it, has sent the newest preview. -/
theorem newest_preview_sent {v : Viewer S}
    (hv : Reach (Viewer.IsOpened setup) (Viewer.step setup) (Followed setup) v)
    (hf : v.hosted.conn.session.finished = false)
    (hw : v.hosted.conn.session.writeInProgress = false) (ha : awaited v = 0) :
    v.hosted.conn.session.hasSentFrame = true ∧
      newest v = some v.hosted.conn.session.lastSentIdentity := by
  obtain ⟨preview, hinv⟩ := viewerInv_reachable hv
  have hsent : v.hosted.conn.session.hasSentFrame = true := by
    have hm := hinv.streaming
    cases hinv.stage with
    | reading _ _ hplain => rw [hplain.streaming] at hm; cases hm
    | responding _ _ _ hplain => rw [hplain.streaming] at hm; cases hm
    | sendingHeader _ _ _ _ hb => rw [hw] at hb; cases hb
    | sendingPart _ _ _ _ hb => rw [hw] at hb; cases hb
    | waiting _ _ _ _ _ hn => exact hn
    | «over» hover => rw [hf] at hover; cases hover
  have hlast := ((hinv.covered hf).last hw).2
  refine ⟨hsent, ?_⟩
  rw [newest, hinv.slot, hlast.resolve_left (by omega)]
  rfl

end Notifications

def sampleHandlers : Handlers Unit where
  streamAdmission := fun _ _ => (true, ())
  closedHandler := fun _ _ => ()

def sampleSession : SessionSetup where
  allowedOrigins := []
  registered := fun _ => true
  streamRegistered := fun _ => true
  maxHeaderBytes := 8192
  maxBodyBytes := 65536

def sampleViewing : ViewerSetup Unit where
  handlers := sampleHandlers
  session := sampleSession
  labels := ⟨ascii "color", ascii "mount", ascii "calibration"⟩
  maxAgeMs := 1000

/-- The color preview of frame `n`. -/
def samplePreview (n : ℕ) : EncodedPreview where
  identity := { captureGeneration := 1, frameNumber := n }
  jpeg := [255, 216]

def sampleCache : EncodedPreviewCache where
  colorPreview := { preview := some (samplePreview 1) }

/-- A color stream that was opened when frame 1 was the newest. -/
def sampleOpened : Viewer Unit where
  hosted := startStream sampleHandlers sampleSession .color 11
    (Viewer.streamFrame sampleViewing sampleCache .color 0) ⟨{ reading := false }, ()⟩
  cache := sampleCache
  inFlight := fun _ => 0

theorem sampleOpened_isOpened : Viewer.IsOpened sampleViewing sampleOpened :=
  ⟨.color, 11, 0, [], (), rfl, by decide +kernel⟩

def headerSent : SessionEvent := .written (.header (Connection.streamResponse 11 {})) false

/-- The write of the part with frame `n` completes. -/
def partSent (n : ℕ) : SessionEvent :=
  .written (.part (samplePreview n).identity (buildMjpegPart
    ⟨(samplePreview n).identity, some (samplePreview n).jpeg,
      makeIdentityHeaders (samplePreview n).identity sampleViewing.labels⟩
    (samplePreview n).jpeg)) false

/-- Every read is fresh, at the time the event has. -/
def onTime (v : Viewer Unit) : Viewer.Event → Bool
  | .session _ now => isFresh sampleViewing v now
  | _ => true

theorem readsFresh_of_onTime {v w : Viewer Unit} {e : Viewer.Event} (h : onTime v e = true) :
    ReadsFresh sampleViewing v e w := by
  rintro event now rfl _
  exact h

/-- Open, idle, nothing announced, and the newest preview was not the last one sent. -/
def isStale (v : Viewer Unit) : Bool :=
  !v.hosted.conn.session.finished && !v.hosted.conn.session.writeInProgress && awaited v == 0 &&
    newest v != some v.hosted.conn.session.lastSentIdentity

set_option maxRecDepth 100000 in
/-- A preview that is announced while the header is written stays unsent. -/
theorem newest_preview_unsent : ∃ v : Viewer Unit,
    Reach (Viewer.IsOpened sampleViewing) (Viewer.step sampleViewing) (ReadsFresh sampleViewing) v ∧
      isStale v = true :=
  (Reach.start sampleOpened_isOpened).exists_run
    (fun _ _ _ hc _ => readsFresh_of_onTime hc)
    (show (runEvents (Viewer.step sampleViewing) onTime sampleOpened
      [.publish .color (some (samplePreview 2)) 0, .session (.notify .color) 0,
        .session headerSent 0, .session (partSent 1) 0]).any isStale = true by decide +kernel)

set_option maxRecDepth 100000 in
/-- A preview that is announced after the header is sent. -/
theorem newest_preview_sent_second : ∃ v : Viewer Unit,
    v.hosted.conn.session.hasSentFrame = true ∧
      newest v = some v.hosted.conn.session.lastSentIdentity ∧
      newest v = some (samplePreview 2).identity := by
  have hrun : (runEvents (Viewer.step sampleViewing)
      (fun v e => onTime v e && !overlooks v e) sampleOpened
      [.session headerSent 0, .publish .color (some (samplePreview 2)) 0,
        .session (.notify .color) 0, .session (partSent 1) 0, .session (partSent 2) 0]).any
      (fun v => !v.hosted.conn.session.finished && !v.hosted.conn.session.writeInProgress &&
        awaited v == 0 && newest v == some (samplePreview 2).identity) = true := by decide +kernel
  have hcheck : ∀ v e w, (onTime v e && !overlooks v e) = true →
      Viewer.step sampleViewing v e = some w → Followed sampleViewing v e w := by
    intro v e w hc _
    obtain ⟨h1, h2⟩ := Bool.and_eq_true_iff.mp hc
    exact ⟨readsFresh_of_onTime h1, by simpa using h2⟩
  obtain ⟨v, hv, htest⟩ := (Reach.start sampleOpened_isOpened).exists_run hcheck hrun
  simp only [Bool.and_eq_true, Bool.not_eq_true', beq_iff_eq] at htest
  obtain ⟨⟨⟨hf, hw⟩, ha⟩, hn⟩ := htest
  obtain ⟨hsent, hlast⟩ := newest_preview_sent hv hf hw ha
  exact ⟨v, hsent, hlast, hn⟩

section Sessions
variable {S : Type} {h : Handlers S} {setup : SessionSetup}

/-- One event of a session, with what the callbacks answer there. -/
def sessionRun (h : Handlers S) (setup : SessionSetup) (x : Hosted S)
    (e : Provided × SessionEvent) : Option (Hosted S) :=
  sessionStep h setup e.1 x e.2

/-- An accepted session, beside any state of the server. -/
def IsAccepted (x : Hosted S) : Prop := x.conn = {}

theorem stage_reachable {x : Hosted S} (hx : Reach IsAccepted (sessionRun h setup) anyStep x) :
    Stage x.conn ∧ x.conn.Retains := by
  refine Reach.invariant (fun x => Stage x.conn ∧ x.conn.Retains) ?_ ?_ hx
  · intro x h0
    rw [h0]
    exact ⟨stage_new, Connection.retains_of_none rfl⟩
  · intro x e y _ hs he _
    exact ⟨sessionStep_stage hs.1 he, sessionStep_retains hs.1 hs.2 he⟩

/-- One write at a time; the retained part is the last one whose write was started, which is being
written unless the session is over; frames go out in increasing order; a finished session is silent. -/
theorem stream_session_ordered {x : Hosted S}
    (hx : Reach IsAccepted (sessionRun h setup) anyStep x) :
    x.conn.writes.length ≤ 1 ∧
      (∀ bytes, x.conn.session.pendingPart = some bytes → ∃ identity,
        x.conn.started.getLast? = some (.part identity bytes) ∧
          (x.conn.writes = [.part identity bytes] ∨
            (x.conn.session.finished = true ∧ x.conn.writes = []))) ∧
      Increasing x.conn.sent ∧
      (x.conn.session.finished = true → ∀ e y, e.2.isRead = false →
        sessionRun h setup x e = some y → Ended x y) := by
  obtain ⟨hs, hretains⟩ := stage_reachable hx
  refine ⟨hs.writes_length, fun bytes hp => hs.retained hretains hp, hs.increasing, ?_⟩
  intro hf e y hr he
  exact sessionStep_ended hf hr he

end Sessions

def colorRequest : HttpRequest where
  method := .get
  target := ascii "/stream/color.mjpg"
  version := 11
  origin := none
  body := []

def sampleFrame (n : ℕ) : ProviderStreamFrame where
  identity := (samplePreview n).identity
  jpegData := some (samplePreview n).jpeg
  headers := makeIdentityHeaders (samplePreview n).identity sampleViewing.labels

/-- The callback answers with frame `n`. -/
def withFrame (n : ℕ) (e : SessionEvent) : Provided × SessionEvent :=
  (⟨.ok (some (sampleFrame n)), .error ()⟩, e)

/-- A color stream that has sent frame 1 and is writing frame 2; the wait that the announcement
cancelled has not been handled yet. -/
def secondPart : List (Provided × SessionEvent) :=
  [withFrame 1 (.read (some colorRequest)), withFrame 1 headerSent, withFrame 1 (partSent 1),
    withFrame 2 (.notify .color)]

theorem sampleSession_reach (test : Hosted Unit → Bool) (events : List (Provided × SessionEvent))
    (h : (runEvents (sessionRun sampleHandlers sampleSession) (fun _ _ => true) ⟨{}, ()⟩
      events).any test = true) :
    ∃ x, Reach IsAccepted (sessionRun sampleHandlers sampleSession) anyStep x ∧ test x = true := by
  have h0 : IsAccepted (⟨{}, ()⟩ : Hosted Unit) := rfl
  exact (Reach.start h0).exists_run (fun _ _ _ _ _ => trivial) h

/-- The write of a part that fails. -/
def partFailed (n : ℕ) : SessionEvent :=
  match partSent n with
  | .written write _ => .written write true
  | e => e

set_option maxRecDepth 100000 in
/-- A part whose write failed is retained while no write is outstanding. -/
theorem failed_part_retained : ∃ x : Hosted Unit,
    Reach IsAccepted (sessionRun sampleHandlers sampleSession) anyStep x ∧
      x.conn.isAlive = true ∧ x.conn.session.pendingPart.isSome = true ∧ x.conn.writes = [] := by
  obtain ⟨x, hx, htest⟩ := sampleSession_reach
    (fun x => x.conn.isAlive && x.conn.session.pendingPart.isSome && x.conn.writes.isEmpty)
    (secondPart ++ [withFrame 2 (partFailed 2)]) (by decide +kernel)
  simp only [Bool.and_eq_true, List.isEmpty_iff] at htest
  exact ⟨x, hx, htest.1.1, htest.1.2, htest.2⟩

set_option maxRecDepth 100000 in
/-- The part of frame 2 is retained while it is being written. -/
theorem stream_session_ordered_second : ∃ (x : Hosted Unit) (bytes : ByteString)
    (identity : FrameIdentity),
    x.conn.sent = [(samplePreview 1).identity, (samplePreview 2).identity] ∧
      x.conn.writes.length ≤ 1 ∧ x.conn.session.pendingPart = some bytes ∧
      x.conn.started.getLast? = some (.part identity bytes) ∧ Increasing x.conn.sent := by
  obtain ⟨x, hx, htest⟩ := sampleSession_reach
    (fun x => x.conn.sent == [(samplePreview 1).identity, (samplePreview 2).identity] &&
      x.conn.session.pendingPart.isSome) secondPart (by decide +kernel)
  obtain ⟨hsent, hsome⟩ := Bool.and_eq_true_iff.mp htest
  obtain ⟨bytes, hbytes⟩ := Option.isSome_iff_exists.mp hsome
  obtain ⟨hw, hretained, hs, -⟩ := stream_session_ordered hx
  obtain ⟨identity, hlast, -⟩ := hretained bytes hbytes
  exact ⟨x, bytes, identity, by simpa using hsent, hw, hbytes, hlast, hs⟩

end NodusVision.Guarantees
