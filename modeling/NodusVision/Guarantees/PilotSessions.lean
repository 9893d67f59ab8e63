import NodusVision.Pilot.Disconnect
import NodusVision.Pilot.Stopping

/-! What the Pilot client does in every run: no state is lost, requests keep to their session, and a
stop cancels and disconnects what it should. -/
namespace NodusVision.Guarantees
open Text Config Pilot Transition

section
variable {setup : ClientSetup} {c : Client}

theorem pilot_disciplined {ok : Client → Event → Client → Prop}
    (h : Reach (· = {}) (step setup) ok c) : c.Idle ∧ Discipline setup c := by
  refine Reach.invariant (fun c => c.Idle ∧ Discipline setup c) ?_ ?_ h
  · rintro s rfl
    refine ⟨fun _ => ⟨rfl, rfl⟩, ?_, .nil, ?_, ?_⟩
    · intro state hstate
      cases hstate
    · intro hon
      cases hon
    · intro w hw
      cases hw
  · rintro s e t _ ⟨hidle, hd⟩ he _
    exact ⟨step_idle hidle he, step_discipline hidle hd he⟩

/-- The worker is in a session and has taken up no request: it is at the head of the loop of
`runSession`, or it waits there. -/
def isBetweenWrites : WorkerPc → Bool
  | .sessionLoop => true
  | .sessionWait => true
  | _ => false

/-- A pending update is the current state, and in a session without pending update or unfinished
request Pilot has accepted the current state. -/
theorem no_update_lost (h : Reach (· = {}) (step setup) anyStep c) :
    (∀ state, c.pendingState = some state → state = c.currentState) ∧
    (∀ w, c.worker = some w → isBetweenWrites w.pc = true → c.pendingState = none →
      ∃ response, latestRegistration c.exchanges = some response ∧
        w.sessionId = response.sessionId ∧
        acceptedState c.exchanges = some (makePilotState c.currentState)) := by
  obtain ⟨_, hd⟩ := pilot_disciplined h
  refine ⟨hd.pending, ?_⟩
  intro w hw hbetween hnone
  have hold := hd.worker w hw
  unfold Worker.Holds at hold
  unfold isBetweenWrites at hbetween
  split at hbetween <;> rename_i hpc
  · rw [hpc] at hold
    obtain ⟨⟨⟨response, hr, hs⟩, _⟩, hsynced⟩ := hold
    exact ⟨response, hr, hs, hsynced hnone⟩
  · rw [hpc] at hold
    obtain ⟨⟨⟨response, hr, hs⟩, _⟩, hsynced⟩ := hold
    exact ⟨response, hr, hs, hsynced hnone⟩
  · cases hbetween

/-- Requests keep to the session of the latest registration, lifecycle writes are numbered 1, 2, 3, …
and come after an accepted catalog, and `ONLINE` shows that catalog. -/
theorem session_discipline (h : Reach (· = {}) (step setup) anyStep c) :
    (∀ message rest, .sent message :: rest <:+ c.exchanges →
      message.Follows setup c.identity rest) ∧
    (∀ trace, trace <:+ c.exchanges →
      sequences trace = (List.range' 1 (sequences trace).length).reverse) ∧
    (c.snapshot.state = .online → CatalogLive setup c) := by
  obtain ⟨_, hd⟩ := pilot_disciplined h
  exact ⟨hd.orderly, fun trace ht => (hd.orderly.of_suffix ht).sequences_eq, hd.online⟩

/-- A run that keeps its session in order ends with a disconnect of the live session, if there is
one. -/
theorem live_session_disconnected (h : Reach (· = {}) (step setup) (KeepsSession setup) c)
    (hended : isJoinable c.worker = true) :
    disconnects c.exchanges = (liveSession c.exchanges).toList := by
  have hinv : (c.Idle ∧ Discipline setup c) ∧ Tracking setup c := by
    refine Reach.invariant (fun c => (c.Idle ∧ Discipline setup c) ∧ Tracking setup c) ?_ ?_ h
    · rintro s rfl
      refine ⟨@pilot_disciplined setup {} anyStep (.start rfl), ?_, fun _ => rfl⟩
      intro w hw
      cases hw
    · rintro s e t hs ⟨⟨hidle, hd⟩, ht⟩ he hk
      exact ⟨⟨step_idle hidle he, step_discipline hidle hd he⟩, step_tracking hidle hd ht he hk⟩
  unfold isJoinable at hended
  split at hended
  · exact hinv.2.worker _ ‹_›
  · cases hended
  · exact hinv.2.ended ‹_›

/-- When `cancelRequest` meets the worker at a request that it may cancel, it cancels no disconnect,
and after it nothing else is in progress uncancelled. -/
theorem stop_cancels (h : Reach (· = {}) (step setup) CancelsInOrder c) :
    (∀ message, c.active = some (message, true) → message.isDisconnect = false) ∧
    (c.stopper = .joining → ∀ message, c.active = some (message, false) →
      message.isDisconnect = true) := by
  have hinv : (c.Idle ∧ Discipline setup c) ∧ Cancellation c := by
    refine Reach.invariant (fun c => (c.Idle ∧ Discipline setup c) ∧ Cancellation c) ?_ ?_ h
    · rintro s rfl
      refine ⟨@pilot_disciplined setup {} anyStep (.start rfl), fun _ => ⟨rfl, rfl⟩,
        fun hne => absurd rfl hne, ?_, fun _ => rfl⟩
      intro w hw
      cases hw
    · rintro s e t hs ⟨⟨hidle, hd⟩, hc⟩ he hk
      exact ⟨⟨step_idle hidle he, step_discipline hidle hd he⟩, step_cancellation hd hc he hk⟩
  exact active_cancelled hinv.2

end

def sampleVision : VisionConfig where
  schemaVersion := 1
  deviceId := ascii "fake"
  componentId := ascii "camera.fake"
  device := .fake { width := 8, height := 6, fps := 30, startFrameNumber := 1, patternSeed := 7 }
  calibration :=
    { calibrationId := ascii "fake-v1"
      sensorFrame := ascii "fake_optical"
      mountFrame := ascii "fake_mount"
      mountLocalTransform :=
        { x := 0, y := 0, z := 0, r1 := 0, r2 := 0, r3 := 0, eulerType := ascii "XYZ" } }
  provider :=
    { bindHost := ascii "127.0.0.1"
      port := 8900
      advertisedBaseUrl := ascii "http://127.0.0.1:8900"
      maxConnections := 8
      maxStreamClients := 2
      requestTimeoutMs := 1000
      maxHeaderBytes := 8192
      maxBodyBytes := 65536
      maxFrameAgeMs := 1000
      allowedOrigins := [] }
  pilot :=
    { enabled := true
      baseUrl := ascii "http://127.0.0.1:9000"
      clockDomain := ascii "monotonic_same_host"
      connectTimeoutMs := 1000
      requestTimeoutMs := 1000
      maxResponseBytes := 4096
      retryInitialDelayMs := 5
      retryMaxDelayMs := 20
      shutdownTimeoutMs := 1000 }
  recording :=
    { enabled := false
      root := ascii "/recordings"
      queueCapacityFrames := 2
      maxDurationMs := 1000
      minimumFreeBytes := 1
      finalizeTimeoutMs := 1000
      bitRateBps := 100000
      preset := ascii "veryfast"
      tune := ascii "zerolatency" }

/-- No rotation and no translation: the optical axes in the frame of the camera body. -/
def opticalAxes : List ℚ := [1, 0, 0, 0, 0, 0, 1, 0, 0, -1, 0, 0, 0, 0, 0, 1]

def sampleGeometry : CameraGeometry where
  mountMatrix := fun _ => opticalAxes
  length_mountMatrix := fun _ => rfl
  mountMatrix_bounded := by
    intro _
    show ∀ v ∈ opticalAxes, -(maxInt64Value : ℚ) ≤ v ∧ v ≤ maxInt64Value
    decide +kernel

/-- The texts of these doubles. -/
def sampleDouble (value : ℚ) : ByteString :=
  if value = 1 then ascii "1E0" else if value = -1 then ascii "-1E0" else ascii "0E0"

def registrationAnswer : JsonValue :=
  .object [(ascii "session_id", .string (ascii "session one")),
    (ascii "server_instance_id", .string (ascii "pilot")),
    (ascii "accepted_protocol_version", .int64 1),
    (ascii "accepted_schema_versions", .array [.int64 1]),
    (ascii "heartbeat_interval_ms", .int64 20),
    (ascii "lease_timeout_ms", .int64 100),
    (ascii "server_time", .int64 0)]

def catalogAnswer : JsonValue :=
  .object [(ascii "status", .string (ascii "accepted")),
    (ascii "server_instance_id", .string (ascii "pilot")),
    (ascii "component_id", .string (ascii "camera.fake")),
    (ascii "session_generation", .int64 1),
    (ascii "catalog_generation", .int64 1),
    (ascii "catalog_revision", .int64 1),
    (ascii "descriptor_count", .int64 9)]

def flags (names : List String) (value : JsonValue) : JsonObject :=
  names.map fun name => (ascii name, value)

def lifecycleAnswer : JsonValue :=
  .object [(ascii "status", .string (ascii "accepted")),
    (ascii "snapshot", .object
      [(ascii "server_instance_id", .string (ascii "pilot")),
        (ascii "revision", .int64 1),
        (ascii "created_at_ns", .int64 1),
        (ascii "readiness", .object
          (flags ["api_ready", "control_connected", "component_registry_ready",
            "active_source_ready", "required_observations_ready", "command_forwarding_enabled"]
            (.bool true) ++ [(ascii "degraded_reasons", .array [])])),
        (ascii "components", .array []),
        (ascii "control", .object
          (flags ["gateway", "robot_state", "status", "last_delivery", "last_external_operation"]
            .null))])]

def answerText (answer : JsonValue) : ByteString := answer.serialize sampleDouble

/-- The JSON parser on these three answers; other texts are not parsed. -/
def sampleParse : JsonParser := fun text =>
  [registrationAnswer, catalogAnswer, lifecycleAnswer].find? fun answer => answerText answer == text

def samplePilot : ClientSetup where
  config := sampleVision
  geometry := sampleGeometry
  parse := sampleParse
  formatDouble := sampleDouble

def sampleIdentity : ClientIdentity :=
  ⟨ascii "vision-00112233445566778899aabbccddeeff", 1000⟩

def workerSteps (n : ℕ) : List Event := List.replicate n .worker

def answer (status : ℕ) (value : JsonValue) : Event :=
  .requestDone { status := status, body := answerText value }

/-- The client starts and its registration is answered. -/
def registering : List Event :=
  [.startClient sampleIdentity .ready] ++ workerSteps 4 ++ [answer 201 registrationAnswer]

/-- The catalog is accepted, and the worker is at the head of the loop of `runSession`. -/
def goingOnline : List Event :=
  registering ++ workerSteps 4 ++ [answer 200 catalogAnswer] ++ workerSteps 3

theorem samplePilot_branches {ok : Client → Event → Client → Prop} (check : Client → Event → Bool)
    (events : List Event) (branches : List (List Event × (Client → Bool)))
    (hcheck : ∀ s e t, check s e = true → ok s e t)
    (h : ((runEvents (step samplePilot) check {} events).any fun c =>
      branches.all fun b => (runEvents (step samplePilot) check c b.1).any b.2) = true) :
    ∀ b ∈ branches, ∃ c, Reach (· = {}) (step samplePilot) ok c ∧ b.2 c = true := by
  have h0 : Reach (· = {}) (step samplePilot) ok ({} : Client) := .start rfl
  exact h0.exists_branches (fun s e t hc _ => hcheck s e t hc) h

/-- An update is accepted by Pilot, and the worker is back at the head of its loop. -/
def degradedBranch : List Event × (Client → Bool) :=
  ([.updateProviderState .degraded] ++ workerSteps 3 ++ [answer 200 lifecycleAnswer] ++
      workerSteps 2,
    fun c => c.worker.any (fun w => isBetweenWrites w.pc) && c.currentState == .degraded &&
      c.pendingState == none && c.snapshot.state == .online && sequences c.exchanges == [1])

/-- The client is stopped after a heartbeat was answered 503. -/
def discardedBranch : List Event × (Client → Bool) :=
  (workerSteps 3 ++ [.requestDone { status := 503 }] ++ workerSteps 3 ++
      [.stopClient, .cancelRequest] ++ workerSteps 3 ++ [.requestDone { status := 404 }, .worker],
    fun c => isJoinable c.worker && liveSession c.exchanges == none &&
      disconnects c.exchanges == [ascii "session one"])

/-- The worker has started the disconnect when `cancelRequest` is called. -/
def cancelledBranch : List Event × (Client → Bool) :=
  ([.worker, .stopClient] ++ workerSteps 3 ++ [.cancelRequest],
    fun c => c.active.any fun a => a.2 && a.1.isDisconnect)

theorem online_branches : ∀ b ∈ [degradedBranch, discardedBranch, cancelledBranch],
    ∃ c, Reach (· = {}) (step samplePilot) anyStep c ∧ b.2 c = true :=
  samplePilot_branches (fun _ _ => true) goingOnline _ (fun _ _ _ _ => trivial) (by decide +kernel)

/-- The stop comes after a valid 201 answer and before it is looked at. -/
def acceptedBranch : List Event × (Client → Bool) :=
  ([.stopClient, .cancelRequest] ++ workerSteps 2,
    fun c => isJoinable c.worker && liveSession c.exchanges == some (ascii "session one") &&
      disconnects c.exchanges == [])

theorem registering_branches : ∀ b ∈ [acceptedBranch],
    ∃ c, Reach (· = {}) (step samplePilot) anyStep c ∧ b.2 c = true :=
  samplePilot_branches (fun _ _ => true) registering _ (fun _ _ _ _ => trivial) (by decide +kernel)

/-- The stop comes between the first check of the stop flag and the register request. -/
def uncheckedBranch : List Event × (Client → Bool) :=
  ([.worker, .stopClient, .cancelRequest] ++ workerSteps 3,
    fun c => c.stopper == .joining && c.active.any fun a => !a.2 && !a.1.isDisconnect)

theorem started_branches : ∀ b ∈ [uncheckedBranch],
    ∃ c, Reach (· = {}) (step samplePilot) anyStep c ∧ b.2 c = true :=
  samplePilot_branches (fun _ _ => true) [.startClient sampleIdentity .ready] _
    (fun _ _ _ _ => trivial) (by decide +kernel)

def isCancel : Event → Bool
  | .cancelRequest => true
  | _ => false

/-- No step loses a session, and a cancellation meets a request that it may cancel. -/
def isInOrder (c : Client) (e : Event) : Bool :=
  c.worker.all fun w => !w.strays samplePilot c &&
    (!isCancel e || !w.pc.isUnguarded && !w.pc.isDisconnecting)

theorem isInOrder_sound {c c' : Client} {e : Event} (h : isInOrder c e = true) :
    KeepsSession samplePilot c e c' ∧ CancelsInOrder c e c' := by
  unfold isInOrder at h
  constructor
  · intro _ w hw
    rw [hw] at h
    simp only [Option.all_some, Bool.and_eq_true, Bool.not_eq_true'] at h
    exact h.1
  · intro he w hw
    subst he
    rw [hw] at h
    simpa [isCancel] using (Bool.and_eq_true_iff.mp h).2

/-- The client is stopped during a heartbeat. -/
def stoppedBranch : List Event × (Client → Bool) :=
  (workerSteps 3 ++ [.stopClient, .cancelRequest], fun c => c.active.any fun a => a.2)

/-- The same stop, until the worker has returned. -/
def endedBranch : List Event × (Client → Bool) :=
  (stoppedBranch.1 ++ [.requestDone { status := 0 }] ++ workerSteps 3 ++
      [answer 200 lifecycleAnswer, .worker],
    fun c => isJoinable c.worker && liveSession c.exchanges == some (ascii "session one"))

theorem orderly_branches : ∀ b ∈ [stoppedBranch, endedBranch],
    ∃ c, Reach (· = {}) (step samplePilot)
      (fun s e t => KeepsSession samplePilot s e t ∧ CancelsInOrder s e t) c ∧ b.2 c = true :=
  samplePilot_branches isInOrder goingOnline _ (fun _ _ _ h => isInOrder_sound h)
    (by decide +kernel)

theorem no_update_lost_degraded : ∃ (c : Client) (w : Worker),
    c.worker = some w ∧ isBetweenWrites w.pc = true ∧ c.currentState = .degraded ∧
    ∃ response, latestRegistration c.exchanges = some response ∧
      w.sessionId = response.sessionId ∧
      acceptedState c.exchanges = some (makePilotState c.currentState) := by
  obtain ⟨c, hc, htest⟩ := online_branches degradedBranch (by simp)
  simp only [degradedBranch, Bool.and_eq_true, beq_iff_eq, Option.any_eq_true] at htest
  obtain ⟨⟨⟨⟨⟨w, hw, hbetween⟩, hstate⟩, hnone⟩, _⟩, _⟩ := htest
  exact ⟨c, w, hw, hbetween, hstate, (no_update_lost hc).2 w hw hbetween hnone⟩

theorem session_discipline_online : ∃ c : Client, c.snapshot.state = .online ∧
    sequences c.exchanges = [1] ∧ CatalogLive samplePilot c ∧
    ∀ message rest, .sent message :: rest <:+ c.exchanges →
      message.Follows samplePilot c.identity rest := by
  obtain ⟨c, hc, htest⟩ := online_branches degradedBranch (by simp)
  simp only [degradedBranch, Bool.and_eq_true, beq_iff_eq] at htest
  obtain ⟨⟨_, honline⟩, hsequences⟩ := htest
  obtain ⟨horderly, _, hlive⟩ := session_discipline hc
  exact ⟨c, honline, hsequences, hlive honline, horderly⟩

theorem live_session_disconnected_once : ∃ c : Client,
    liveSession c.exchanges = some (ascii "session one") ∧
    disconnects c.exchanges = [ascii "session one"] := by
  obtain ⟨c, hc, htest⟩ := orderly_branches endedBranch (by simp)
  simp only [endedBranch, Bool.and_eq_true, beq_iff_eq] at htest
  refine ⟨c, htest.2, ?_⟩
  rw [live_session_disconnected (hc.mono fun _ _ _ h => h.1) htest.1, htest.2]
  rfl

/-- A registration that is accepted just before the stop is not disconnected, and a session that a
failed lifecycle write ended is. -/
theorem session_disconnected_astray :
    (∃ c, Reach (· = {}) (step samplePilot) anyStep c ∧ isJoinable c.worker = true ∧
      liveSession c.exchanges = some (ascii "session one") ∧ disconnects c.exchanges = []) ∧
    (∃ c, Reach (· = {}) (step samplePilot) anyStep c ∧ isJoinable c.worker = true ∧
      liveSession c.exchanges = none ∧ disconnects c.exchanges = [ascii "session one"]) := by
  constructor
  · obtain ⟨c, hc, htest⟩ := registering_branches acceptedBranch (by simp)
    simp only [acceptedBranch, Bool.and_eq_true, beq_iff_eq] at htest
    exact ⟨c, hc, htest.1.1, htest.1.2, htest.2⟩
  · obtain ⟨c, hc, htest⟩ := online_branches discardedBranch (by simp)
    simp only [discardedBranch, Bool.and_eq_true, beq_iff_eq] at htest
    exact ⟨c, hc, htest.1.1, htest.1.2, htest.2⟩

theorem stop_cancels_heartbeat : ∃ (c : Client) (message : PilotMessage),
    c.active = some (message, true) ∧ message.isDisconnect = false := by
  obtain ⟨c, hc, htest⟩ := orderly_branches stoppedBranch (by simp)
  obtain ⟨⟨message, cancelled⟩, hactive, rfl⟩ := (Option.any_eq_true _ _).mp htest
  exact ⟨c, message, hactive, (stop_cancels (hc.mono fun _ _ _ h => h.2)).1 message hactive⟩

/-- The cancellation meets the disconnect, or comes before a register request that the worker had
decided to send. -/
theorem stop_cancels_astray :
    (∃ c message, Reach (· = {}) (step samplePilot) anyStep c ∧
      c.active = some (message, true) ∧ message.isDisconnect = true) ∧
    (∃ c message, Reach (· = {}) (step samplePilot) anyStep c ∧ c.stopper = .joining ∧
      c.active = some (message, false) ∧ message.isDisconnect = false) := by
  constructor
  · obtain ⟨c, hc, htest⟩ := online_branches cancelledBranch (by simp)
    obtain ⟨⟨message, cancelled⟩, hactive, hboth⟩ := (Option.any_eq_true _ _).mp htest
    simp only [Bool.and_eq_true] at hboth
    obtain ⟨rfl, hdisconnect⟩ := hboth
    exact ⟨c, message, hc, hactive, hdisconnect⟩
  · obtain ⟨c, hc, htest⟩ := started_branches uncheckedBranch (by simp)
    simp only [uncheckedBranch, Bool.and_eq_true, beq_iff_eq, Option.any_eq_true] at htest
    obtain ⟨hj, ⟨message, cancelled⟩, hactive, hboth⟩ := htest
    simp only [Bool.not_eq_true'] at hboth
    obtain ⟨rfl, hother⟩ := hboth
    exact ⟨c, message, hc, hj, hactive, hother⟩

end NodusVision.Guarantees
