import NodusVision.Guarantees.Configurations
import NodusVision.Guarantees.MountTransforms
import NodusVision.Guarantees.Streaming
import NodusVision.Provider.Sending

/-! What a viewer reads from the body of a stream, wherever the connection breaks off. -/
namespace NodusVision.Guarantees
open Text Program Config Recording Provider Transition NodusVision.Geometry

/-- The labels that the application sends with its frames. -/
def transformLabels {K : Type} (transform : CameraMountTransform K) : MountLabels where
  sensorFrame := transform.sensorFrame
  mountFrame := transform.mountFrame
  calibrationId := transform.calibrationId

/-- The transform copies the labels of the calibration. -/
theorem transformLabels_eq {K : Type} [Field K] [LinearOrder K] {trig : Trigonometry K}
    {calibration : CalibrationConfig} {transform : CameraMountTransform K}
    (hmount : buildCameraMountTransform trig calibration = .ok transform) :
    transformLabels transform =
      ⟨calibration.sensorFrame, calibration.mountFrame, calibration.calibrationId⟩ := by
  simp only [buildCameraMountTransform, ite_eq_ok, bind_eq_ok] at hmount
  rcases hmount with ⟨-, hinvalid⟩ | ⟨-, _, -, _, -, heq⟩
  · cases hinvalid
  · cases heq
    rfl

/-- A string that the parser returns fits on a header line. -/
theorem boundedText_clean {text : ByteString} (h : BoundedText text) : ∀ b ∈ text, b ≠ 13 := by
  intro b hb hcr
  have hcontrol : text.any isControl = true := List.any_eq_true.mpr ⟨b, hb, by rw [hcr]; rfl⟩
  rw [h.plain] at hcontrol
  cases hcontrol

theorem transformLabels_clean {parse : JsonParser} {rounding : Rounding} {jsonText : ByteString}
    {config : VisionConfig} (hconfig : parseVisionConfig parse rounding jsonText = .ok config)
    {K : Type} [Field K] [LinearOrder K] {trig : Trigonometry K} {transform : CameraMountTransform K}
    (hmount : buildCameraMountTransform trig config.calibration = .ok transform) :
    (transformLabels transform).Clean := by
  have hbounded := parseVisionConfig_bounded hconfig
  rw [transformLabels_eq hmount]
  exact ⟨boundedText_clean hbounded.sensorFrame, boundedText_clean hbounded.mountFrame,
    boundedText_clean hbounded.calibrationId⟩

section
variable {S : Type} {setup : ViewerSetup S} {Published : PreviewKind → EncodedPreview → Prop}

/-- Every preview in the cache was published under its kind. -/
def Caches (Published : PreviewKind → EncodedPreview → Prop) (cache : EncodedPreviewCache) : Prop :=
  ∀ kind preview, (cache.slot kind).preview = some preview → Published kind preview

/-- A stream that opens beside a cache of published previews. -/
def OpensOn (setup : ViewerSetup S) (Published : PreviewKind → EncodedPreview → Prop)
    (v : Viewer S) : Prop :=
  Viewer.IsOpened setup v ∧ Caches Published v.cache

/-- What the encoder publishes in a step is among the published previews. -/
def Publishes (Published : PreviewKind → EncodedPreview → Prop) (_ : Viewer S) (e : Viewer.Event)
    (_ : Viewer S) : Prop :=
  ∀ kind preview now, e = .publish kind (some preview) now → Published kind preview

theorem publishPreview_caches {cache : EncodedPreviewCache} {kind : PreviewKind}
    {preview : Option EncodedPreview} (now : ℤ) (hcache : Caches Published cache)
    (hpreview : ∀ p, preview = some p → Published kind p) :
    Caches Published (cache.publishPreview kind preview now).2 := by
  cases preview with
  | none => exact hcache
  | some p =>
    rcases cache.publishPreview_cases kind p now with ⟨hstored, -⟩ | ⟨hrefused, -⟩
    · rw [hstored]
      intro other q hq
      rw [EncodedPreviewCache.slot_setSlot] at hq
      split at hq
      · rename_i hkind
        cases hq
        exact hkind ▸ hpreview p rfl
      · exact hcache other q hq
    · rwa [hrefused]

/-- A frame of a published preview. -/
def Offered (setup : ViewerSetup S) (Published : PreviewKind → EncodedPreview → Prop)
    (kind : PreviewKind) (frame : ProviderStreamFrame) : Prop :=
  ∃ preview, Published kind preview ∧ makeStreamFrame setup.labels (some preview) = some frame

theorem streamFrame_offered {cache : EncodedPreviewCache} {kind : PreviewKind} {now : ℤ}
    {frame : ProviderStreamFrame} (hcache : Caches Published cache)
    (hframe : Viewer.streamFrame setup cache kind now = .ok (some frame)) :
    Offered setup Published kind frame := by
  have hmade : makeStreamFrame setup.labels
      (cache.acquireFreshPreview kind setup.maxAgeMs now) = some frame := Except.ok.inj hframe
  obtain ⟨preview, hpreview, -⟩ := makeStreamFrame_some hmade
  rw [hpreview] at hmade
  exact ⟨preview, hcache kind preview (EncodedPreviewCache.acquireFreshPreview_some hpreview), hmade⟩

/-- The part of a frame is the part of its preview. -/
theorem makeStreamFrame_part {labels : MountLabels} {preview : EncodedPreview}
    {frame : ProviderStreamFrame} {jpeg : ByteString}
    (hframe : makeStreamFrame labels (some preview) = some frame) (himage : frame.image = some jpeg) :
    framePart frame jpeg = .part preview.identity (streamedPart labels preview) := by
  obtain ⟨p, hp, rfl⟩ := Option.map_eq_some_iff.mp hframe
  obtain ⟨hsame, -⟩ := Option.filter_eq_some_iff.mp hp
  cases hsame
  obtain ⟨hjpeg, -⟩ := Option.filter_eq_some_iff.mp himage
  cases hjpeg
  rfl

/-- The stream has sent these previews, all of them published under its kind. -/
structure Shown (setup : ViewerSetup S) (Published : PreviewKind → EncodedPreview → Prop)
    (v : Viewer S) (previews : List EncodedPreview) : Prop where
  stage : Stage v.hosted.conn
  streaming : v.hosted.conn.session.streaming = true
  cache : Caches Published v.cache
  initial : ∀ frame, v.hosted.conn.session.initialStreamFrame = some frame →
    Offered setup Published v.hosted.conn.session.streamKind frame
  published : ∀ preview ∈ previews, Published v.hosted.conn.session.streamKind preview
  sent : v.hosted.conn.sent = previews.map EncodedPreview.identity
  body : v.hosted.conn.body = previews.flatMap (streamedPart setup.labels)

theorem shown_opened {v : Viewer S} (h : OpensOn setup Published v) :
    Shown setup Published v [] := by
  obtain ⟨⟨kind, version, now, origin, host, hx, hm⟩, hcache⟩ := h
  have hanswering : Answering
      ({ reading := false, session := { allowedOrigin := origin } } : Connection) :=
    ⟨rfl, rfl, ⟨rfl, rfl, rfl, rfl, rfl⟩, rfl⟩
  have hstage : Stage v.hosted.conn := by
    rw [hx]
    exact startStream_stage hanswering kind version
  rw [hx] at hm
  obtain ⟨initial, hframe, hconn⟩ := startStream_opened hanswering hm
  rw [← hx] at hm hconn
  refine ⟨hstage, hm, hcache, ?_, ?_, ?_, ?_⟩
  · intro frame hinitial
    rw [hconn] at hinitial ⊢
    cases hinitial
    exact streamFrame_offered hcache hframe
  · intro preview hpreview
    cases hpreview
  · rw [hconn]
    rfl
  · rw [hconn]
    rfl

theorem Shown.publish {v w : Viewer S} {previews : List EncodedPreview}
    (hv : Shown setup Published v previews) {kind : PreviewKind} {preview : Option EncodedPreview}
    {now : ℤ} (hpreview : ∀ p, preview = some p → Published kind p)
    (he : v.step setup (.publish kind preview now) = some w) : Shown setup Published w previews := by
  cases he
  exact ⟨hv.stage, hv.streaming, publishPreview_caches now hv.cache hpreview, hv.initial,
    hv.published, hv.sent, hv.body⟩

/-- An event of the session sends nothing or the part of one more preview. -/
theorem Shown.session {v : Viewer S} {previews : List EncodedPreview}
    (hv : Shown setup Published v previews) {x : Hosted S} {inFlight : PreviewKind → ℕ}
    (hs : Stage x.conn) (hx : Sends
      (Offered setup Published v.hosted.conn.session.streamKind) v.hosted.conn x.conn) :
    ∃ previews', Shown setup Published { v with hosted := x, inFlight := inFlight } previews' := by
  have hkind := hx.streamKind
  have hinitial : ∀ frame, x.conn.session.initialStreamFrame = some frame →
      Offered setup Published x.conn.session.streamKind frame := by
    intro frame hframe
    rw [hkind]
    rcases hx.initial with heq | hnone
    · exact hv.initial frame (heq ▸ hframe)
    · rw [hnone] at hframe
      cases hframe
  have hstreaming : x.conn.session.streaming = true := hx.streaming.trans hv.streaming
  rcases hx.started with hsame | ⟨frame, jpeg, ⟨preview, hpreview, hframe⟩, himage, hmore⟩
  · refine ⟨previews, hs, hstreaming, hv.cache, hinitial, ?_, ?_, ?_⟩
    · intro preview hpreview
      exact hkind ▸ hv.published preview hpreview
    · rw [← hv.sent, Connection.sent, hsame]
      rfl
    · rw [← hv.body, Connection.body, hsame]
      rfl
  · rw [makeStreamFrame_part hframe himage] at hmore
    refine ⟨previews ++ [preview], hs, hstreaming, hv.cache, hinitial, ?_, ?_, ?_⟩
    · intro p hp
      rw [hkind]
      rcases List.mem_append.mp hp with hp | hp
      · exact hv.published p hp
      · rwa [List.mem_singleton.mp hp]
    · rw [List.map_append, ← hv.sent, Connection.sent, hmore, List.filterMap_append]
      rfl
    · rw [List.flatMap_append, ← hv.body, Connection.body, hmore, List.flatMap_append]
      rfl

theorem shown_step {v w : Viewer S} {previews : List EncodedPreview} {e : Viewer.Event}
    (hv : Shown setup Published v previews) (he : v.step setup e = some w)
    (hk : Publishes Published v e w) : ∃ previews', Shown setup Published w previews' := by
  cases e with
  | publish kind preview now =>
    refine ⟨previews, hv.publish (fun p hp => ?_) he⟩
    exact hk kind p now (by rw [hp])
  | session event now =>
    simp only [Viewer.step] at he
    split at he
    · cases he
    · obtain ⟨x, hx, rfl⟩ := Option.map_eq_some_iff.mp he
      have hread := hv.stage.not_read hv.streaming hx
      have hsends := sessionStep_sends hread hx hv.initial fun frame hframe =>
        streamFrame_offered hv.cache hframe
      exact hv.session (sessionStep_stage hv.stage hx) hsends

theorem shown_reachable {v : Viewer S}
    (hv : Reach (OpensOn setup Published) (Viewer.step setup) (Publishes Published) v) :
    ∃ previews, Shown setup Published v previews := by
  refine Reach.invariant (fun v => ∃ previews, Shown setup Published v previews) ?_ ?_ hv
  · intro v hopened
    exact ⟨[], shown_opened hopened⟩
  · intro v e w _ hinv he hk
    obtain ⟨previews, hshown⟩ := hinv
    exact shown_step hshown he hk

/-- The previews as a viewer gets them, labels included. -/
def labeled (labels : MountLabels) (previews : List EncodedPreview) : List StreamedPreview :=
  previews.map fun preview => { preview, labels }

theorem readStreamed_labeled {labels : MountLabels} (hclean : labels.Clean)
    (previews : List EncodedPreview) : ∀ shown ∈ labeled labels previews,
      readStreamed.run (streamedPart shown.labels shown.preview) = some (shown, []) := by
  intro shown hshown
  obtain ⟨preview, -, rfl⟩ := List.mem_map.mp hshown
  exact readStreamed_streamedPart hclean preview

theorem flatMap_labeled (labels : MountLabels) (previews : List EncodedPreview) :
    (labeled labels previews).flatMap (fun shown => streamedPart shown.labels shown.preview) =
      previews.flatMap (streamedPart labels) := List.flatMap_map ..

/-- A viewer reads the parts that arrived whole, and what is left is the front of the next one. -/
def ReadsWhole (labels : MountLabels) (previews : List EncodedPreview) (received : ByteString) :
    Prop :=
  ∃ whole cut rest, previews = whole ++ cut ∧
    readAll readStreamed received.length received = (labeled labels whole, rest) ∧
    received = whole.flatMap (streamedPart labels) ++ rest ∧
    rest <+: cut.flatMap (streamedPart labels) ∧
    ∀ next ∈ cut.head?, rest.length < (streamedPart labels next).length

theorem readsWhole_of_prefix {labels : MountLabels} (hclean : labels.Clean)
    {previews : List EncodedPreview} {received : ByteString}
    (hreceived : received <+: previews.flatMap (streamedPart labels)) :
    ReadsWhole labels previews received := by
  rw [← flatMap_labeled] at hreceived
  obtain ⟨front, back, rest, hsplit, hread, htext, hrest, hnext⟩ := framing_readStreamed.readAll_prefix
    (readStreamed_labeled hclean previews) le_rfl hreceived
  obtain ⟨whole, cut, rfl, hwhole, hcut⟩ := List.map_eq_append_iff.mp hsplit
  subst hwhole hcut
  refine ⟨whole, cut, rest, rfl, hread, htext.trans ?_, ?_, ?_⟩
  · rw [← flatMap_labeled]
    rfl
  · rw [← flatMap_labeled]
    exact hrest
  · intro next hmem
    refine hnext ⟨next, labels⟩ ?_
    rw [List.head?_map, Option.mem_def.mp hmem]
    rfl

/-- Whatever is published while the stream is open, the body is the parts of published previews of
its kind in increasing order, and reading any front of it gives exactly the previews that arrived. -/
theorem stream_body_readable {parse : JsonParser} {rounding : Rounding} {jsonText : ByteString}
    {config : VisionConfig} (hconfig : parseVisionConfig parse rounding jsonText = .ok config)
    {K : Type} [Field K] [LinearOrder K] {trig : Trigonometry K} {transform : CameraMountTransform K}
    (hmount : buildCameraMountTransform trig config.calibration = .ok transform)
    (hlabels : setup.labels = transformLabels transform) {v : Viewer S}
    (hv : Reach (OpensOn setup Published) (Viewer.step setup) (Publishes Published) v) :
    ∃ previews : List EncodedPreview,
      (∀ preview ∈ previews, Published v.hosted.conn.session.streamKind preview) ∧
      Increasing (previews.map EncodedPreview.identity) ∧
      v.hosted.conn.sent = previews.map EncodedPreview.identity ∧
      readAll readStreamed v.hosted.conn.body.length v.hosted.conn.body =
        (labeled setup.labels previews, []) ∧
      ∀ received, received <+: v.hosted.conn.body → ReadsWhole setup.labels previews received := by
  obtain ⟨previews, hshown⟩ := shown_reachable hv
  have hclean : setup.labels.Clean := hlabels ▸ transformLabels_clean hconfig hmount
  refine ⟨previews, hshown.published, ?_, hshown.sent, ?_, ?_⟩
  · rw [← hshown.sent]
    exact hshown.stage.increasing
  · rw [hshown.body, ← flatMap_labeled]
    exact framing_readStreamed.readAll_all (readStreamed_labeled hclean previews) le_rfl
  · intro received hreceived
    rw [hshown.body] at hreceived
    exact readsWhole_of_prefix hclean hreceived

end

/-- The labels of the configuration that the witness reads. -/
def opticalLabels : MountLabels where
  sensorFrame := ascii "optical"
  mountFrame := ascii "optical"
  calibrationId := ascii "optical"

def opticalViewing : ViewerSetup Unit where
  handlers := sampleHandlers
  session := sampleSession
  labels := opticalLabels
  maxAgeMs := 1000

/-- A color stream that opens when frame 1 is the newest. -/
def opticalOpened : Viewer Unit where
  hosted := startStream sampleHandlers sampleSession .color 11
    (Viewer.streamFrame opticalViewing sampleCache .color 0) ⟨{ reading := false }, ()⟩
  cache := sampleCache
  inFlight := fun _ => 0

/-- The color previews of the witness; no depth preview is published. -/
def isSample (kind : PreviewKind) (preview : EncodedPreview) : Prop :=
  kind = .color ∧ (preview = samplePreview 1 ∨ preview = samplePreview 2)

theorem opticalOpened_opensOn : OpensOn opticalViewing isSample opticalOpened := by
  refine ⟨⟨.color, 11, 0, [], (), rfl, by decide +kernel⟩, ?_⟩
  intro kind preview hpreview
  cases kind with
  | color =>
    cases hpreview
    exact ⟨rfl, .inl rfl⟩
  | depth => cases hpreview

/-- Frame 2 is published while frame 1 is being sent. -/
def opticalEvents : List Viewer.Event :=
  [.session headerSent 0, .publish .color (some (samplePreview 2)) 0, .session (.notify .color) 0,
    .session (.written (.part (samplePreview 1).identity
      (streamedPart opticalLabels (samplePreview 1))) false) 0]

theorem opticalEvents_publish {v w : Viewer Unit} :
    ∀ e ∈ opticalEvents, Publishes isSample v e w := by
  intro e he kind preview now heq
  rw [heq] at he
  simp only [opticalEvents, List.mem_cons, Viewer.Event.publish.injEq, Option.some.injEq, reduceCtorEq,
    List.not_mem_nil, or_false, false_or] at he
  exact ⟨he.1, .inr he.2.1⟩

set_option maxRecDepth 100000 in
/-- Two previews are sent, and a viewer that misses the last byte reads what arrived whole. -/
theorem stream_body_readable_cut : ∃ (v : Viewer Unit) (previews : List EncodedPreview),
    v.hosted.conn.sent = [(samplePreview 1).identity, (samplePreview 2).identity] ∧
      v.hosted.conn.sent = previews.map EncodedPreview.identity ∧
      readAll readStreamed v.hosted.conn.body.length v.hosted.conn.body =
        (labeled opticalLabels previews, []) ∧
      ReadsWhole opticalLabels previews v.hosted.conn.body.dropLast := by
  obtain ⟨config, hconfig, -, htest⟩ := @accepts_spec
    (configDocument (ascii "fake") (ascii "camera.fake") (ascii "optical"))
    (fun config => decide (config.calibration.sensorFrame = ascii "optical" ∧
      config.calibration.mountFrame = ascii "optical" ∧
      config.calibration.calibrationId = ascii "optical")) (by decide +kernel)
  obtain ⟨hsensor, hmountFrame, hid⟩ := of_decide_eq_true htest
  obtain ⟨transform, -, hmount, -⟩ :=
    (accepted_constructs hconfig).mount ℚ pythagorean id
  have hlabels : opticalViewing.labels = transformLabels transform := by
    rw [transformLabels_eq hmount, hsensor, hmountFrame, hid]
    rfl
  obtain ⟨v, hv, htest⟩ := (Reach.start opticalOpened_opensOn).exists_run_all
    (fun e he _ _ => opticalEvents_publish e he)
    (show (runEvents (Viewer.step opticalViewing) (fun _ _ => true) opticalOpened opticalEvents).any
      (fun v => v.hosted.conn.sent == [(samplePreview 1).identity, (samplePreview 2).identity]) = true
      by decide +kernel)
  obtain ⟨previews, -, -, hsent, hread, hfront⟩ := stream_body_readable hconfig hmount hlabels hv
  exact ⟨v, previews, eq_of_beq htest, hsent, hread, hfront _ (List.dropLast_prefix _)⟩

end NodusVision.Guarantees
