import NodusVision.Pilot.Starting
import NodusVision.Provider.Starting
import NodusVision.Guarantees.PilotSessions

/-! Starts of the Pilot client and of the HTTP server: what a start that throws leaves behind. -/
namespace NodusVision.Guarantees
open Text Storage Program Pilot Provider Transition

/-- The two objects that the application starts and stops. -/
structure Startable where
  client : ClientObject := {}
  server : ServerObject := {}

namespace Startable

inductive Event where
  | startClient (attempt : ClientAttempt)
  | stopClient
  | startServer (attempt : ServerAttempt)
  | stopServer

def step (setup : ClientSetup) (s : Startable) : Event → Option Startable
  | .startClient a => some { s with client := (s.client.startClient setup a).2 }
  | .stopClient => some { s with client := s.client.stopClient }
  | .startServer a => some { s with server := (s.server.startServer a).2 }
  | .stopServer => some { s with server := s.server.stopServer }

def IsInitial (s : Startable) : Prop := s.client.IsIdle ∧ s.server.IsIdle

end Startable

/-- A start of the client that throws leaves it idle, and the next start, with no stop in between,
starts it if its steps succeed. -/
def ClientStartAtomic (setup : ClientSetup) (c : ClientObject) (a : ClientAttempt) : Prop :=
  ∀ e, (c.startClient setup a).1 = .error e →
    (c.startClient setup a).2.IsIdle ∧
    ∀ next : ClientAttempt, next.Succeeds →
      ((c.startClient setup a).2.startClient setup next).1 = .ok () ∧
      ((c.startClient setup a).2.startClient setup next).2.IsRunning setup

/-- The same of the server. -/
def ServerStartAtomic (s : ServerObject) (a : ServerAttempt) : Prop :=
  ∀ e, (s.startServer a).1 = .error e →
    (s.startServer a).2.IsIdle ∧
    ∀ next : ServerAttempt, next.Succeeds →
      ((s.startServer a).2.startServer next).1 = .ok () ∧
      ((s.startServer a).2.startServer next).2.IsRunning

def StartAtomic (setup : ClientSetup) (s : Startable) : Startable.Event → Prop
  | .startClient a => ClientStartAtomic setup s.client a
  | .startServer a => ServerStartAtomic s.server a
  | .stopClient | .stopServer => True

/-- No step of a client start throws once the client is marked as started, and no step of a server
start throws once the acceptor is open. -/
def FailsEarly (setup : ClientSetup) (s : Startable) : Startable.Event → Prop
  | .startClient a =>
    s.client.started = true ∨ setup.config.pilot.enabled = false ∨ a.Succeeds
  | .startServer a =>
    s.server.started = true ∨ a.fails .address = true ∨ a.fails .openAcceptor = true ∨
      a.OpenedSucceeds
  | .stopClient | .stopServer => True

section Client
variable {setup : ClientSetup} {c : ClientObject} {a : ClientAttempt}

theorem returns_iff_not_error {x : Except Exception Unit} : x = .ok () ↔ ∀ e, x ≠ .error e := by
  cases x with
  | ok u => simp
  | error e =>
    constructor
    · intro h
      cases h
    · intro h
      exact (h e rfl).elim

theorem startStages_returns :
    (runStages (ClientObject.startStages setup a) c).1 = .ok () ↔ a.Succeeds := by
  unfold ClientObject.startStages ClientAttempt.Succeeds
  simp only [runStages_returns, stageOr_eq_ok]
  constructor
  · rintro ⟨t, ⟨hcatalog, -⟩, u, hid, v, ⟨htransport, -⟩, w, ⟨hthread, -⟩, -⟩
    refine ⟨hcatalog, ?_, htransport, hthread⟩
    cases hinstance : a.instanceId with
    | ok instanceId => exact succeeds_ok instanceId
    | error e =>
      rw [hinstance] at hid
      cases hid
  · rintro ⟨hcatalog, ⟨instanceId, hid⟩, htransport, hthread⟩
    rw [hid]
    exact ⟨_, ⟨hcatalog, rfl⟩, _, rfl, _, ⟨htransport, rfl⟩, _, ⟨hthread, rfl⟩, rfl⟩

/-- The transport and the worker are there after the steps, and the client is started if it was. -/
theorem startStages_run (ha : a.Succeeds) :
    ∃ t, runStages (ClientObject.startStages setup a) c = (.ok (), t) ∧
      t.hasTransport = true ∧ t.hasWorker = true ∧ t.started = c.started := by
  obtain ⟨hcatalog, ⟨instanceId, hid⟩, htransport, hthread⟩ := ha
  unfold ClientObject.startStages
  simp only [runStages, stageOr, hcatalog, hid, htransport, hthread]
  exact ⟨_, rfl, rfl, rfl, rfl⟩

theorem startClient_running (hc : c.started = false) (ha : a.Succeeds) :
    (c.startClient setup a).1 = .ok () ∧ (c.startClient setup a).2.IsRunning setup := by
  unfold ClientObject.startClient
  rw [if_neg (by simp [hc])]
  split
  · obtain ⟨t, ht, htransport, hworker, hstarted⟩ := @startStages_run setup _ a ha
    rw [ht]
    exact ⟨rfl, hstarted, fun _ => ⟨htransport, hworker⟩⟩
  · rename_i hdisabled
    exact ⟨rfl, rfl, fun henabled => (hdisabled henabled).elim⟩

/-- The client is marked as started before the first step that can throw. -/
theorem startClient_started : (c.startClient setup a).2.started = true := by
  have hstages : ∀ stage ∈ ClientObject.startStages setup a, ∀ c t : ClientObject,
      stage c = .ok t → c.started = true → t.started = true := by
    intro stage hstage c t ht hc
    simp only [ClientObject.startStages, List.mem_cons, List.not_mem_nil, or_false] at hstage
    rcases hstage with rfl | rfl | rfl | rfl
    · obtain ⟨-, rfl⟩ := stageOr_eq_ok.mp ht
      exact hc
    · cases hid : a.instanceId with
      | error e =>
        rw [hid] at ht
        cases ht
      | ok instanceId =>
        rw [hid] at ht
        cases ht
        exact hc
    · obtain ⟨-, rfl⟩ := stageOr_eq_ok.mp ht
      exact hc
    · obtain ⟨-, rfl⟩ := stageOr_eq_ok.mp ht
      exact hc
  unfold ClientObject.startClient
  split
  · assumption
  · split
    · exact runStages_keeps hstages rfl
    · rfl

theorem startClient_returns :
    (c.startClient setup a).1 = .ok () ↔
      c.started = true ∨ setup.config.pilot.enabled = false ∨ a.Succeeds := by
  unfold ClientObject.startClient
  split
  · simp_all
  · split
    · rw [startStages_returns]
      simp_all
    · simp_all

/-- A client start is atomic only where it does not throw. -/
theorem clientStartAtomic_iff :
    ClientStartAtomic setup c a ↔
      c.started = true ∨ setup.config.pilot.enabled = false ∨ a.Succeeds := by
  rw [← @startClient_returns setup c a, returns_iff_not_error]
  constructor
  · intro h e he
    have hidle := (h e he).1.1
    rw [startClient_started] at hidle
    cases hidle
  · intro h e he
    exact (h e he).elim

end Client

section Server
variable {s : ServerObject} {a : ServerAttempt}

theorem openAcceptor_eq_ok {t : ServerObject} :
    s.openAcceptor a = .ok t ↔ s.acceptorOpen = false ∧ a.fails .openAcceptor = false ∧
      { s with acceptorOpen := true } = t := by
  unfold ServerObject.openAcceptor
  cases s.acceptorOpen <;> simp

/-- From a closed acceptor, the start returns if none of its steps throws. -/
theorem startServer_running (hs : s.started = false) (hopen : s.acceptorOpen = false)
    (ha : a.Succeeds) : (s.startServer a).1 = .ok () ∧ (s.startServer a).2.IsRunning := by
  obtain ⟨haddress, hacceptor, hoption, hbind, hlisten, hthread⟩ := ha
  have hstart : (s.startServer a) = (.ok (), { s with
      acceptorOpen := true, boundPort := a.port, started := true, hasWorker := true }) := by
    unfold ServerObject.startServer ServerObject.startStages
    simp only [runStages, stageOr, ServerObject.openAcceptor, ServerAttempt.throws, hs, hopen,
      haddress, hacceptor, hoption, hbind, hlisten, hthread, Bool.false_eq_true, if_false]
  rw [hstart]
  exact ⟨rfl, rfl, rfl, rfl⟩

/-- A step that throws before the acceptor is open leaves the server as it was. -/
theorem startServer_early (hs : s.started = false) (hopen : s.acceptorOpen = false)
    (ha : a.fails .address = true ∨ a.fails .openAcceptor = true) :
    ∃ e, s.startServer a = (.error e, s) := by
  unfold ServerObject.startServer ServerObject.startStages
  rw [if_neg (by simp [hs])]
  cases haddress : a.fails .address with
  | true =>
    simp only [runStages, stageOr, ServerAttempt.throws, haddress, if_true]
    exact ⟨_, rfl⟩
  | false =>
    have hacceptor : a.fails .openAcceptor = true := by
      rcases ha with ha | ha
      · rw [haddress] at ha
        cases ha
      · exact ha
    simp only [runStages, stageOr, ServerObject.openAcceptor, ServerAttempt.throws, haddress,
      hacceptor, hopen, Bool.false_eq_true, if_false, if_true]
    exact ⟨_, rfl⟩

/-- After the acceptor was opened, it stays open whatever is thrown. -/
theorem startServer_late (hs : s.started = false) (hopen : s.acceptorOpen = false)
    (haddress : a.fails .address = false) (hacceptor : a.fails .openAcceptor = false) :
    (s.startServer a).2.acceptorOpen = true := by
  have hrest : ∀ stage ∈ (ServerObject.startStages a).drop 2, ∀ s t : ServerObject,
      stage s = .ok t → s.acceptorOpen = true → t.acceptorOpen = true := by
    intro stage hstage s t ht hs
    simp only [ServerObject.startStages, List.drop_succ_cons, List.drop_zero, List.mem_cons,
      List.not_mem_nil, or_false] at hstage
    rcases hstage with rfl | rfl | rfl | rfl <;>
      · obtain ⟨-, rfl⟩ := stageOr_eq_ok.mp ht
        exact hs
  have hopened : s.openAcceptor a = .ok { s with acceptorOpen := true } :=
    openAcceptor_eq_ok.mpr ⟨hopen, hacceptor, rfl⟩
  have hstart : s.startServer a =
      runStages ((ServerObject.startStages a).drop 2) { s with acceptorOpen := true } := by
    unfold ServerObject.startServer
    rw [if_neg (by simp [hs])]
    show runStages (_ :: _ :: _) s = _
    rw [runStages_ok (t := s), runStages_ok hopened]
    · rfl
    · exact stageOr_eq_ok.mpr ⟨ServerAttempt.throws_eq_none.mpr haddress, rfl⟩
  rw [hstart]
  exact runStages_keeps hrest rfl

theorem startServer_returns (hs : s.started = false) :
    (s.startServer a).1 = .ok () ↔ s.acceptorOpen = false ∧ a.Succeeds := by
  unfold ServerObject.startServer ServerObject.startStages ServerAttempt.Succeeds
    ServerAttempt.OpenedSucceeds
  rw [if_neg (by simp [hs])]
  simp only [runStages_returns, stageOr_eq_ok, openAcceptor_eq_ok, ServerAttempt.throws_eq_none,
    runStages_nil]
  constructor
  · rintro ⟨t, ⟨haddress, rfl⟩, u, ⟨hopen, hacceptor, -⟩, v, ⟨hoption, -⟩, w, ⟨hbind, -⟩, x,
      ⟨hlisten, -⟩, y, ⟨hthread, -⟩, -⟩
    exact ⟨hopen, haddress, hacceptor, hoption, hbind, hlisten, hthread⟩
  · rintro ⟨hopen, haddress, hacceptor, hoption, hbind, hlisten, hthread⟩
    exact ⟨_, ⟨haddress, rfl⟩, _, ⟨hopen, hacceptor, rfl⟩, _, ⟨hoption, rfl⟩, _, ⟨hbind, rfl⟩, _,
      ⟨hlisten, rfl⟩, _, ⟨hthread, rfl⟩, trivial⟩

/-- In a state that starts and stops reach, as long as the starts fail early. -/
def IsSettled (s : ServerObject) : Prop := s.IsIdle ∨ s.IsRunning

/-- The server starts atomically where nothing throws after the acceptor was opened. -/
theorem serverStartAtomic_iff (hsettled : IsSettled s) :
    ServerStartAtomic s a ↔ s.started = true ∨ a.fails .address = true ∨
      a.fails .openAcceptor = true ∨ a.OpenedSucceeds := by
  rcases hsettled with ⟨hs, hworker, hopen⟩ | ⟨hs, -⟩
  · by_cases hearly : a.fails .address = true ∨ a.fails .openAcceptor = true
    · obtain ⟨e, hstart⟩ := startServer_early hs hopen hearly
      constructor
      · intro _
        rcases hearly with haddress | hacceptor
        · exact .inr (.inl haddress)
        · exact .inr (.inr (.inl hacceptor))
      · intro _ e' _
        rw [hstart]
        exact ⟨⟨hs, hworker, hopen⟩, fun next hnext => startServer_running hs hopen hnext⟩
    · rw [not_or, Bool.not_eq_true, Bool.not_eq_true] at hearly
      obtain ⟨haddress, hacceptor⟩ := hearly
      have hreturns : (s.startServer a).1 = .ok () ↔ a.OpenedSucceeds := by
        rw [startServer_returns hs]
        exact ⟨fun h => h.2.2.2, fun h => ⟨hopen, haddress, hacceptor, h⟩⟩
      simp only [hs, haddress, hacceptor, Bool.false_eq_true, false_or]
      rw [← hreturns, returns_iff_not_error]
      constructor
      · intro h e he
        have hclosed := (h e he).1.2.2
        rw [startServer_late hs hopen haddress hacceptor] at hclosed
        cases hclosed
      · intro h e he
        exact (h e he).elim
  · have hstart : s.startServer a = (.ok (), s) := if_pos hs
    constructor
    · exact fun _ => .inl hs
    · intro _ e he
      rw [hstart] at he
      cases he

theorem settled_startServer (hsettled : IsSettled s)
    (ha : s.started = true ∨ a.fails .address = true ∨ a.fails .openAcceptor = true ∨
      a.OpenedSucceeds) : IsSettled (s.startServer a).2 := by
  have hatomic := (serverStartAtomic_iff hsettled).mpr ha
  rcases hsettled with ⟨hs, hworker, hopen⟩ | hrunning
  · cases hstart : (s.startServer a).1 with
    | error e => exact .inl (hatomic e hstart).1
    | ok u => exact .inr (startServer_running hs hopen ((startServer_returns hs).mp hstart).2).2
  · have hstart : s.startServer a = (.ok (), s) := if_pos hrunning.1
    rw [hstart]
    exact .inr hrunning

theorem settled_stopServer (hsettled : IsSettled s) : IsSettled s.stopServer := by
  unfold ServerObject.stopServer
  split
  · exact .inl ⟨rfl, rfl, rfl⟩
  · exact hsettled

end Server

/-- In every run of starts and stops that fail early, a start fails atomically exactly where it
fails early. -/
theorem starts_atomic_iff {setup : ClientSetup} {s : Startable}
    (h : Reach Startable.IsInitial (Startable.step setup) (fun s event _ => FailsEarly setup s event)
      s) (event : Startable.Event) :
    StartAtomic setup s event ↔ FailsEarly setup s event := by
  have hsettled : IsSettled s.server := by
    apply h.invariant (fun s => IsSettled s.server)
    · exact fun _ hinit => .inl hinit.2
    · intro s event t _ hs he hearly
      cases event with
      | startClient a =>
        cases he
        exact hs
      | stopClient =>
        cases he
        exact hs
      | startServer a =>
        cases he
        exact settled_startServer hs hearly
      | stopServer =>
        cases he
        exact settled_stopServer hs
  cases event with
  | startClient a => exact clientStartAtomic_iff
  | stopClient => exact Iff.rfl
  | startServer a => exact serverStartAtomic_iff hsettled
  | stopServer => exact Iff.rfl

/-- The address does not parse. -/
def badAddress : ServerAttempt where
  fails failure := failure = .address

theorem starts_atomic_iff_retried :
    ∃ s : Startable, (s.server.started = false ∧ s.client.hasWorker = true) ∧
      ∀ event, StartAtomic samplePilot s event ↔ FailsEarly samplePilot s event := by
  have hinit : Startable.IsInitial {} := ⟨⟨rfl, rfl⟩, rfl, rfl, rfl⟩
  let refused : Startable := { server := (ServerObject.startServer badAddress {}).2 }
  have hserver : FailsEarly samplePilot {} (.startServer badAddress) := Or.inr (Or.inl rfl)
  have hclient : FailsEarly samplePilot refused (.startClient {}) :=
    Or.inr (Or.inr ⟨rfl, ⟨_, rfl⟩, rfl, rfl⟩)
  have hrun : Reach Startable.IsInitial (Startable.step samplePilot)
      (fun s event _ => FailsEarly samplePilot s event) refused :=
    (Reach.start hinit).next rfl hserver
  exact ⟨_, ⟨rfl, rfl⟩, starts_atomic_iff (hrun.next rfl hclient)⟩

/-- The port is in use. -/
def portTaken : ServerAttempt where
  fails failure := failure = .bind

/-- The thread of the client cannot be created. -/
def threadLimit : ClientAttempt where
  threadThrows := some .systemError

/-- After a port that was taken the acceptor stays open; after a thread that could not be created
the client is started without a worker. -/
theorem starts_not_atomic :
    ∃ s : Startable, s.IsInitial ∧ ¬ StartAtomic samplePilot s (.startServer portTaken) ∧
      ¬ StartAtomic samplePilot s (.startClient threadLimit) := by
  refine ⟨{}, ⟨⟨rfl, rfl⟩, rfl, rfl, rfl⟩, ?_, ?_⟩
  · intro h
    have hopen : (ServerObject.startServer portTaken {}).2.acceptorOpen = false := (h _ rfl).1.2.2
    cases hopen
  · intro h
    have hstarted : (ClientObject.startClient samplePilot threadLimit {}).2.started = false :=
      (h _ rfl).1.1
    rw [startClient_started] at hstarted
    cases hstarted

end NodusVision.Guarantees
