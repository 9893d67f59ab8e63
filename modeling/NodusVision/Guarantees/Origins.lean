import NodusVision.Application.Routes
import NodusVision.Config.Origins
import NodusVision.Guarantees.Backoff
import NodusVision.Provider.OriginPolicy

/-! What a browser learns from an origin that is not allowed, and from one that is. -/
namespace NodusVision.Guarantees
open Text Config Provider Application Program Transition

/-- What the callbacks of the application answer: identity headers, or none. -/
inductive RoutePayload (labels : MountLabels) : ProviderHttpResponse → Prop
  | plain (status : ℕ) (contentType body : ByteString) :
      RoutePayload labels { status, contentType, body }
  | identified (status : ℕ) (contentType body : ByteString) (identity : Recording.FrameIdentity) :
      RoutePayload labels
        { status, contentType, body, headers := makeIdentityHeaders identity labels }

/-- A session of a server, and the request that it read. -/
structure Visit (S : Type) where
  hosted : Hosted S
  request : Option HttpRequest := none

inductive VisitEvent (S : Type) where
  | session (provided : Provided) (event : SessionEvent)
  /-- the other sessions and the server -/
  | server (host : S)

def readRequest : SessionEvent → Option HttpRequest
  | .read request => request
  | _ => none

namespace Visit
variable {S : Type}

def IsInitial (v : Visit S) : Prop := v.hosted.conn = {} ∧ v.request = none

def step (h : Handlers S) (setup : SessionSetup) (v : Visit S) : VisitEvent S → Option (Visit S)
  | .session provided event =>
    (sessionStep h setup provided v.hosted event).map fun x =>
      { hosted := x, request := (readRequest event).or v.request }
  | .server host => some { v with hosted := { v.hosted with host } }

/-- Routes answer as the application does. -/
def ByRoutes (labels : MountLabels) (_ : Visit S) (e : VisitEvent S) (_ : Visit S) : Prop :=
  match e with
  | .session provided _ => ∀ payload, provided.answer = .ok payload → RoutePayload labels payload
  | .server _ => True

end Visit

/-- The answers to one request. -/
structure FollowsPolicy (origins : List ByteString) (request : HttpRequest) (c : Connection) : Prop where
  denied : ∀ origin, request.origin = some origin → origin ∉ origins →
    c.Responds (deniedResponse request.version)
  allowed : ∀ origin, request.origin = some origin → origin ∈ origins → c.Names [origin]
  absent : request.origin = none → c.Names []
  preflight : request.origin = none → request.method = .options →
    ∃ m, c.Responds m ∧ m.status = 403

theorem routePayload_headers {labels : MountLabels} {payload : ProviderHttpResponse}
    (h : RoutePayload labels payload) : NamesNoOrigin payload := by
  cases h with
  | plain status contentType body =>
    intro f hf
    cases hf
  | identified status contentType body identity =>
    unfold NamesNoOrigin makeIdentityHeaders
    simp only [List.forall_mem_cons]
    refine ⟨by decide, by decide, by decide, by decide, by decide, by decide, by decide, nofun⟩

theorem requireOrigins_nonempty {path : String} {seen origins : List ByteString} {items : List JsonValue}
    (h : requireOrigins path seen items = .ok origins) (hseen : [] ∉ seen) : [] ∉ origins := by
  induction items generalizing seen with
  | nil =>
    cases h
    exact hseen
  | cons item rest ih =>
    simp only [requireOrigins_cons, bind_eq_ok, check_eq_ok] at h
    obtain ⟨origin, -, valid, hvalid, _, hcheck, _, -, h⟩ := h
    apply ih h
    intro hmem
    rcases List.mem_append.mp hmem with hmem | hmem
    · exact hseen hmem
    · have hempty : isAdvertisedUrlValid [] = .ok false := by decide
      rw [← List.mem_singleton.mp hmem, hempty] at hvalid
      cases hvalid
      cases hcheck

theorem parseVisionConfig_origins {parse : JsonParser} {rounding : Rounding} {jsonText : ByteString}
    {config : VisionConfig} (h : parseVisionConfig parse rounding jsonText = .ok config) :
    [] ∉ config.provider.allowedOrigins := by
  have hprovider : ∃ root provider, parseProvider root = .ok provider ∧ config.provider = provider := by
    unfold parseVisionConfig at h
    split at h
    · simp only [bind_eq_ok] at h
      obtain ⟨_, _, _, _, _, _, _, _, _, _, _, _, _, _, h⟩ := h
      obtain ⟨provider, hprovider, _, _, _, _, _, _, h⟩ := h
      cases h
      exact ⟨_, provider, hprovider, rfl⟩
    · cases h
  obtain ⟨root, provider, hprovider, hsame⟩ := hprovider
  rw [hsame]
  simp only [parseProvider, bind_eq_ok] at hprovider
  obtain ⟨_, _, _, _, _, _, _, _, _, _, _, _, _, _, hprovider⟩ := hprovider
  obtain ⟨_, _, _, _, _, _, _, _, _, _, _, _, origins, horigins, _, _, _, _, hprovider⟩ := hprovider
  cases hprovider
  show [] ∉ origins
  unfold parseAllowedOrigins requireAllowedOrigins at horigins
  split at horigins
  · simp only [bind_eq_ok] at horigins
    obtain ⟨field, -, horigins⟩ := horigins
    split at horigins
    · obtain ⟨_, -, horigins⟩ := bind_eq_ok.mp horigins
      exact requireOrigins_nonempty horigins (List.not_mem_nil)
    · cases horigins
  · cases horigins
    exact List.not_mem_nil

section
variable {S : Type} {h : Handlers S} {setup : SessionSetup}

theorem messages_of_fresh {c : Connection} (hc : c.Fresh) : c.messages = [] := by
  unfold Connection.messages
  rw [hc.started]
  rfl

theorem responseMessage_status (version : ℕ) (payload : ProviderHttpResponse) (c : Connection) :
    (c.responseMessage version payload).status = payload.status := by
  show (HttpMessage.closeConnection _).status = payload.status
  rw [HttpMessage.closeConnection_status, setHeaders_status, Connection.setCorsHeaders_status]
  rfl

theorem policy_handleRead {labels : MountLabels} {request : HttpRequest} {provided : Provided}
    {x : Hosted S} (horigins : [] ∉ setup.allowedOrigins) (hx : x.conn.Fresh)
    (hx' : x.conn.session.allowedOrigin = [])
    (hroutes : ∀ payload, provided.answer = .ok payload → RoutePayload labels payload) :
    FollowsPolicy setup.allowedOrigins request
      (handleRead h setup (some request) provided x).conn := by
  have hnames := @names_handleRead S h setup request provided x
    (messages_of_fresh hx) hx' (fun payload hpayload => routePayload_headers (hroutes payload hpayload))
  constructor
  · intro origin horigin hdenied
    have hdenies : isOriginDenied setup request = true := by
      unfold isOriginDenied
      rw [horigin, Option.any_some, Bool.not_eq_true', List.contains_eq_mem, decide_eq_false_iff_not]
      exact hdenied
    rw [handleRead_denied provided hx' hdenies]
    have hsent := responds_sendResponse hx request.version originDenied
    rw [sendResponse_eq, responseMessage_of_none hx'] at hsent
    exact hsent
  · intro origin horigin hallowed
    have hnamed : namedFor setup request = [origin] := by
      have hne : origin ≠ [] := fun hempty => horigins (hempty ▸ hallowed)
      have hadmitted : isOriginDenied setup request = false := by
        unfold isOriginDenied
        rw [horigin, Option.any_some, Bool.not_eq_false', List.contains_eq_mem, decide_eq_true_eq]
        exact hallowed
      unfold namedFor
      rw [hadmitted, horigin, Option.getD_some, Bool.false_or, if_neg (by simpa using hne)]
    rw [← hnamed]
    exact hnames
  · intro habsent
    have hnamed : namedFor setup request = [] := by
      unfold namedFor
      rw [habsent]
      exact if_pos (by simp)
    rw [← hnamed]
    exact hnames
  · intro habsent hoptions
    have haction : ∃ payload, readAction setup request = .respond payload ∧ payload.status = 403 := by
      unfold readAction isOriginDenied
      rw [habsent, if_neg (by simp), if_pos hoptions]
      exact ⟨_, rfl, rfl⟩
    obtain ⟨payload, haction, hstatus⟩ := haction
    exact ⟨_, responds_handleRead provided hx haction, (responseMessage_status _ _ _).trans hstatus⟩

theorem FollowsPolicy.step {origins : List ByteString} {request : HttpRequest} {provided : Provided}
    {x y : Hosted S} {event : SessionEvent} (hx : FollowsPolicy origins request x.conn)
    (hevent : event.isRead = false) (hy : sessionStep h setup provided x event = some y) :
    FollowsPolicy origins request y.conn := by
  have hkept := keepsResponses_step hevent hy
  have hnames {named : List ByteString} (hnamed : x.conn.Names named) : y.conn.Names named := by
    unfold Connection.Names
    rw [hkept.messages]
    exact hnamed
  constructor
  · intro origin horigin hdenied
    exact responds_step hevent (hx.denied origin horigin hdenied) hy
  · intro origin horigin hallowed
    exact hnames (hx.allowed origin horigin hallowed)
  · intro habsent
    exact hnames (hx.absent habsent)
  · intro habsent hoptions
    obtain ⟨m, hm, hstatus⟩ := hx.preflight habsent hoptions
    exact ⟨m, responds_step hevent hm hy, hstatus⟩

/-- Before the read nothing is named, and after it the policy holds. -/
structure Visit.Inv (setup : SessionSetup) (v : Visit S) : Prop where
  unread : v.hosted.conn.reading = true →
    v.hosted.conn.Fresh ∧ v.hosted.conn.session.allowedOrigin = [] ∧ v.request = none
  read : ∀ request, v.request = some request → FollowsPolicy setup.allowedOrigins request v.hosted.conn

theorem visit_reachable {labels : MountLabels} (horigins : [] ∉ setup.allowedOrigins) {v : Visit S}
    (hv : Reach Visit.IsInitial (Visit.step h setup) (Visit.ByRoutes labels) v) : v.Inv setup := by
  apply hv.invariant (fun v => v.Inv setup)
  · rintro ⟨⟨conn, host⟩, request⟩ ⟨hconn, hrequest⟩
    dsimp only at hconn hrequest
    subst hconn hrequest
    constructor
    · intro _
      exact ⟨⟨rfl, rfl, rfl, rfl⟩, rfl, rfl⟩
    · intro request hrequest
      cases hrequest
  · intro v event t _ hinv ht hroutes
    cases event with
    | server host =>
      cases ht
      exact ⟨hinv.unread, hinv.read⟩
    | session provided event =>
      obtain ⟨x, hx, rfl⟩ := Option.map_eq_some_iff.mp ht
      by_cases hread : event.isRead = true
      · cases event with
        | read request =>
          simp only [sessionStep] at hx
          split at hx
          · rename_i hreading
            obtain ⟨hfresh, horigin, hnone⟩ := hinv.unread hreading
            have hfresh' : Connection.Fresh { v.hosted.conn with reading := false } :=
              ⟨hfresh.started, hfresh.writes, hfresh.fetches, hfresh.streaming⟩
            cases hx
            cases request with
            | none =>
              have hkept := keepsResponses_cancelSession (h := h)
                (v.hosted.update fun c => { c with reading := false })
              constructor
              · intro hstill
                cases hstill.symm.trans hkept.reading
              · intro request hrequest
                cases hnone.symm.trans hrequest
            | some request =>
              constructor
              · intro hstill
                cases hstill.symm.trans (handleRead_reading request provided _)
              · intro other hother
                cases hother
                exact policy_handleRead horigins hfresh' horigin hroutes
          · cases hx
        | written | expire | waited | notify | cancel => cases hread
      · have hevent := Bool.of_not_eq_true hread
        have hkept := keepsResponses_step hevent hx
        have hsame : (readRequest event).or v.request = v.request := by
          cases event with
          | read request => cases hevent
          | written | expire | waited | notify | cancel => rfl
        constructor
        · intro hreading
          obtain ⟨hfresh, horigin, hnone⟩ := hinv.unread (hkept.reading.symm.trans hreading)
          exact ⟨fresh_step hevent hfresh hx, hkept.allowedOrigin.trans horigin, hsame.trans hnone⟩
        · intro request hrequest
          exact (hinv.read request (hsame.symm.trans hrequest)).step hevent hx

/-- A denied request has no effect but its answer, which is the same at all times; an allowed origin is
named by every response, and none is named without a request for it. -/
theorem origins_policed {parse : JsonParser} {rounding : Rounding} {jsonText : ByteString}
    {config : VisionConfig} (hconfig : parseVisionConfig parse rounding jsonText = .ok config)
    (h : Handlers S) (labels : MountLabels) :
    (∀ version, (deniedResponse version).status = 403 ∧
      (deniedResponse version).isAccessControlled = false) ∧
    ∀ v, Reach Visit.IsInitial (Visit.step h (applicationRoutes config)) (Visit.ByRoutes labels) v →
      (∀ request, v.request = some request →
        FollowsPolicy config.provider.allowedOrigins request v.hosted.conn) ∧
      ∀ request origin, request.origin = some origin → origin ∉ config.provider.allowedOrigins →
        (∀ route kind, readAction (applicationRoutes config) request ≠ .callRoute route ∧
          readAction (applicationRoutes config) request ≠ .startStream kind) ∧
        ∀ provided t, v.step h (applicationRoutes config)
            (.session provided (.read (some request))) = some t →
          t.hosted.host = v.hosted.host ∧ t.hosted.conn.started =
            [.response (deniedResponse request.version)] := by
  have horigins : [] ∉ (applicationRoutes config).allowedOrigins := parseVisionConfig_origins hconfig
  constructor
  · exact deniedResponse_plain
  · intro v hv
    have hinv := visit_reachable horigins hv
    constructor
    · exact hinv.read
    · intro request origin horigin hdenied
      have hdenies : isOriginDenied (applicationRoutes config) request = true := by
        unfold isOriginDenied
        rw [horigin, Option.any_some, Bool.not_eq_true', List.contains_eq_mem,
          decide_eq_false_iff_not]
        exact hdenied
      constructor
      · intro route kind
        rw [readAction_denied hdenies]
        exact ⟨nofun, nofun⟩
      · intro provided t ht
        obtain ⟨x, hx, rfl⟩ := Option.map_eq_some_iff.mp ht
        simp only [sessionStep] at hx
        split at hx
        · rename_i hreading
          obtain ⟨hfresh, hnamed, -⟩ := hinv.unread hreading
          cases hx
          have hread := @handleRead_denied _ h (applicationRoutes config) _
            (v.hosted.update fun c => { c with reading := false }) provided hnamed hdenies
          constructor
          · show (handleRead _ _ _ _ _).host = _
            rw [hread]
            rfl
          · show (handleRead _ _ _ _ _).conn.started = _
            rw [hread]
            show v.hosted.conn.started ++ _ = _
            rw [hfresh.started, List.nil_append]
        · cases hx

end

def consoleOrigin : ByteString := ascii "http://127.0.0.1:5173"

/-- The provider section with one allowed origin. -/
def withOrigin : JsonValue → JsonValue
  | .object members =>
    .object (members ++ [(ascii "allowed_origins", .array [.string consoleOrigin])])
  | value => value

/-- A configuration document that lets one console in. -/
def browsedDocument : JsonValue :=
  match configDocument (ascii "fake") (ascii "camera.fake") (ascii "optical") with
  | .object members => .object (members.map fun m =>
      if m.1 = ascii "provider" then (m.1, withOrigin m.2) else m)
  | value => value

def browsedConfig : Parsed VisionConfig := parseVisionConfig (fun _ => some browsedDocument) exact []

set_option maxRecDepth 100000 in
theorem browsedConfig_accepted : ∃ config, browsedConfig = .ok config ∧
    config.provider.allowedOrigins = [consoleOrigin] := by
  have h : (browsedConfig.toOption.any fun config =>
      config.provider.allowedOrigins == [consoleOrigin]) = true := by decide +kernel
  cases hconfig : browsedConfig with
  | error e =>
    rw [hconfig] at h
    cases h
  | ok config =>
    rw [hconfig] at h
    exact ⟨config, rfl, eq_of_beq h⟩

def getHealth (origin : Option ByteString) : HttpRequest := ⟨.get, ascii "/health", 11, origin, []⟩

def idleHandlers : Handlers Unit := ⟨fun _ s => (false, s), fun _ s => s⟩

/-- A denied origin, an allowed one, and a request without any. -/
theorem origins_policed_health : ∃ (config : VisionConfig) (denied allowed absent : Visit Unit),
    browsedConfig = .ok config ∧
      (denied.request = some (getHealth (some (ascii "http://127.0.0.1:9999"))) ∧
        denied.hosted.conn.Responds (deniedResponse 11)) ∧
      (allowed.request = some (getHealth (some consoleOrigin)) ∧
        allowed.hosted.conn.Names [consoleOrigin]) ∧
      absent.request = some (getHealth none) ∧ absent.hosted.conn.Names [] := by
  obtain ⟨config, hconfig, horigins⟩ := browsedConfig_accepted
  have hstart : Reach Visit.IsInitial (Visit.step idleHandlers (applicationRoutes config))
      (Visit.ByRoutes ⟨[], [], []⟩) ⟨⟨{}, ()⟩, none⟩ := .start ⟨rfl, rfl⟩
  have hroutes (origin : Option ByteString) (v t : Visit Unit) : Visit.ByRoutes ⟨[], [], []⟩ v
      (.session ⟨.ok none, .ok ⟨200, ascii "application/json", ascii "ok", []⟩⟩
        (.read (some (getHealth origin)))) t := by
    intro payload hpayload
    cases hpayload
    exact .plain 200 _ _
  have hvisit (origin : Option ByteString) : ∃ v : Visit Unit, v.request = some (getHealth origin) ∧
      FollowsPolicy config.provider.allowedOrigins (getHealth origin) v.hosted.conn := by
    have hread := hstart.next rfl (hroutes origin _ _)
    exact ⟨_, rfl,
      ((origins_policed hconfig idleHandlers ⟨[], [], []⟩).2 _ hread).1 (getHealth origin) rfl⟩
  obtain ⟨denied, hdenied, hdeniedPolicy⟩ := hvisit (some (ascii "http://127.0.0.1:9999"))
  obtain ⟨allowed, hallowed, hallowedPolicy⟩ := hvisit (some consoleOrigin)
  obtain ⟨absent, habsent, habsentPolicy⟩ := hvisit none
  refine ⟨config, denied, allowed, absent, hconfig, ⟨hdenied, ?_⟩, ⟨hallowed, ?_⟩, habsent,
    habsentPolicy.absent rfl⟩
  · refine hdeniedPolicy.denied _ rfl ?_
    rw [horigins]
    decide
  · refine hallowedPolicy.allowed _ rfl ?_
    rw [horigins]
    exact List.mem_singleton_self _

end NodusVision.Guarantees
