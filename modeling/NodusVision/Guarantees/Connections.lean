import NodusVision.Guarantees.Streaming
import NodusVision.Provider.Counting

/-! The connection counters of the server, over every run of starts, accepts, handlers and stops. -/
namespace NodusVision.Guarantees
open Text Recording Provider Transition

variable {setup : ServerSetup} {s t : Server}

/-- A request whose read completed before its session was finished, but is handled after, gets a
stream slot. -/
def admitsFinished (setup : ServerSetup) (s : Server) : ServerEvent → Bool
  | .session index provided (.read (some request)) =>
    (s.slots[index]?.any fun slot => slot.conn.session.finished) &&
      (requestedStream setup.session provided request).isSome &&
      decide (s.impl.activeStreamClients < setup.maxStreamClients)
  | _ => false

/-- The stop returns while a session is open that was accepted after `stopOnIoThread`. -/
def abandonsLate (s : Server) : ServerEvent → Bool
  | .stopReturns => s.slots.any fun slot => slot.late && slot.isOpen
  | _ => false

/-- No frame callback throws during a notification sweep. -/
def SweepsQuietly (_ : Server) (e : ServerEvent) (_ : Server) : Prop :=
  ∀ kind frames, e = .sweep kind frames → ∀ id, frames id ≠ .error ()

/-- Neither race of a stop with a completed operation happens. -/
def Orderly (setup : ServerSetup) (s : Server) (e : ServerEvent) (t : Server) : Prop :=
  SweepsQuietly s e t ∧ admitsFinished setup s e = false ∧ abandonsLate s e = false

/-- Open sessions of the current server run. -/
def openConnections (s : Server) : ℕ :=
  s.slots.countP fun slot => slot.isOpen && slot.run == s.run

/-- Streaming sessions of the current server run. -/
def openStreams (s : Server) : ℕ :=
  s.slots.countP fun slot => slot.isStreaming && slot.run == s.run

/-- The accounts of the server and of each session it ever accepted. -/
structure Accounted (setup : ServerSetup) (s : Server) : Prop where
  connections : s.impl.activeConnections = openConnections s
  connectionLimit : s.impl.activeConnections ≤ setup.maxConnections
  streams : s.impl.activeStreamClients = openStreams s
  streamLimit : s.impl.activeStreamClients ≤ setup.maxStreamClients
  closes : ∀ slot ∈ s.slots, slot.conn.closes = if slot.isOpen then 0 else 1
  alive : ∀ slot ∈ s.slots, slot.isOpen = true → slot.conn.isAlive = true
  stopped : s.phase = .stopped → s.impl.activeConnections = 0 ∧ s.impl.activeStreamClients = 0 ∧
    ∀ slot ∈ s.slots, slot.isOpen = false

theorem inv_constructed : Server.Inv setup {} where
  tallied := ⟨fun _ h => (by cases h), fun _ h => (by cases h), rfl, fun _ h => (by cases h),
    fun _ _ h => (by cases h), fun _ h => (by cases h), rfl, rfl, Int.natCast_nonneg _,
    Int.natCast_nonneg _⟩
  draining := fun h => by cases h
  stopped := fun _ _ h => by cases h

/-- The handler of an operation of one session. -/
theorem inv_session (h : Server.Inv setup s) {index : ℕ} {provided : Provided}
    {event : SessionEvent} (hk : admitsFinished setup s (.session index provided event) = false)
    (he : s.withSession index (fun x =>
      sessionStep (sessionHandlers setup (index + 1)) setup.session provided x event) = some t) :
    Server.Inv setup t := by
  obtain ⟨slot, x, hslot, hx, rfl⟩ := Server.withSession_eq he
  have hmem : slot ∈ s.slots := List.mem_of_getElem? hslot
  have hs := h.tallied.stage slot hmem
  have hc := h.tallied.closed slot hmem
  have hstage : Stage x.conn := sessionStep_stage (x := ⟨slot.conn, s.impl⟩) hs hx
  cases hr : event.isRead with
  | false =>
    exact h.outcome hslot hstage (sessionStep_outcome (x := ⟨slot.conn, s.impl⟩) hc hr hx)
  | true =>
    cases event with
    | read request =>
      simp only [sessionStep] at hx
      split at hx
      · rename_i hreading
        cases hx
        have hplain : slot.conn.session.Plain := by
          cases hs with
          | reading _ _ hm => exact hm
          | responding _ hr => rw [hr] at hreading; cases hreading
          | sendingHeader _ _ hr => rw [hr] at hreading; cases hreading
          | sendingPart _ _ hr => rw [hr] at hreading; cases hreading
          | waiting hr => rw [hr] at hreading; cases hreading
          | «over» _ hr => rw [hr] at hreading; cases hreading
        have hread : ClosedOnce ({ slot.conn with reading := false } : Connection) :=
          closedOnce_of_account hc rfl
        cases @handleRead_outcome _ (sessionHandlers setup (index + 1)) setup.session
            ⟨{ slot.conn with reading := false }, s.impl⟩ provided hread request with
        | other ho =>
          exact h.outcome hslot hstage (ho.after (x := ⟨slot.conn, s.impl⟩) rfl rfl)
        | refused kind hc' hh hno =>
          have hfull : (s.impl.admitStream setup).2 = s.impl := by
            unfold ServerImpl.admitStream at hno ⊢
            split
            · rfl
            · rename_i hroom
              simp [sessionHandlers, ServerImpl.admitStream, hroom] at hno
          exact h.outcome hslot hstage (.same hc' (hh.trans hfull))
        | admitted kind hkind hc' hh hyes =>
          have hroom : s.impl.activeStreamClients < setup.maxStreamClients := by
            by_contra hfull
            simp [sessionHandlers, ServerImpl.admitStream, not_lt.mp hfull] at hyes
          have hf : slot.conn.session.finished = false := by
            cases request with
            | none => cases hkind
            | some request =>
              rw [Option.bind_some] at hkind
              by_contra hfin
              simp [admitsFinished, hslot, hkind, hroom, Bool.not_eq_false _ ▸ hfin] at hk
          exact h.replace hslot (h.tallied.admitted hslot hstage hf hplain.streaming hc' hh hyes)
            fun hfin => by rw [hf] at hfin; cases hfin
      · cases hx
    | written | expire | waited | notify | cancel => cases hr

/-- Outside a stop or a start the phase is free to change. -/
theorem inv_phase (h : Server.Inv setup s) {phase : Phase} (hd : phase ≠ .draining)
    (hp : phase ≠ .stopped) : Server.Inv setup { s with phase := phase } := by
  have ht := h.tallied
  exact ⟨⟨ht.stage, ht.closed, ht.ids, ht.positive, ht.registered, ht.current, ht.connections,
    ht.streams, ht.connectionLimit, ht.streamLimit⟩, fun h => absurd h hd, fun h => absurd h hp⟩

theorem count_zero (hclosed : ∀ slot ∈ s.slots, slot.isOpen = false) :
    s.slots.countP Slot.isOpen = 0 ∧ s.slots.countP Slot.isStreaming = 0 := by
  have hopen : s.slots.countP Slot.isOpen = 0 := by
    rw [List.countP_eq_zero]
    intro slot hslot
    rw [hclosed slot hslot]
    exact Bool.false_ne_true
  have hle := Server.streaming_le_open (s := s)
  exact ⟨hopen, by omega⟩

theorem inv_startServer (h : Server.Inv setup s) (hp : s.phase = .stopped)
    (failure : Option StartFailure) : Server.Inv setup (s.startServer failure) := by
  unfold Server.startServer
  split
  · exact h
  · exact h
  · split
    · exact h
    · exact h.withAcceptor true s.impl.accepts
  · split
    · exact h
    · have hclosed := h.stopped hp
      obtain ⟨hopen, hstreaming⟩ := count_zero hclosed
      have ht := h.tallied
      refine ⟨⟨ht.stage, ht.closed, ht.ids, ht.positive, ht.registered, ?_, ?_, ?_,
        Int.natCast_nonneg _, Int.natCast_nonneg _⟩, fun h => (by cases h), fun h => by cases h⟩
      · intro slot hslot ho
        rw [hclosed slot hslot] at ho
        cases ho
      · change (0 : ℤ) = (s.slots.countP Slot.isOpen : ℕ)
        rw [hopen]
        rfl
      · change (0 : ℤ) = (s.slots.countP Slot.isStreaming : ℕ)
        rw [hstreaming]
        rfl

theorem inv_stopReturns (h : Server.Inv setup s) (hp : s.phase = .draining)
    (hk : abandonsLate s .stopReturns = false) :
    Server.Inv setup { s with
      impl := { s.impl with sessions := [], activeConnections := 0, activeStreamClients := 0 }
      phase := .stopped } := by
  have hclosed : ∀ slot ∈ s.slots, slot.isOpen = false := by
    intro slot hslot
    by_contra hopen
    have hopen : slot.isOpen = true := Bool.not_eq_false _ ▸ hopen
    have hlate := h.draining hp slot hslot hopen
    have hsome : abandonsLate s .stopReturns = true :=
      List.any_eq_true.mpr ⟨slot, hslot, by rw [hlate, hopen]; rfl⟩
    rw [hk] at hsome
    cases hsome
  obtain ⟨hopen, hstreaming⟩ := count_zero hclosed
  have hend := (h.clearSessions hclosed .stopped).tallied
  refine ⟨⟨hend.stage, hend.closed, hend.ids, hend.positive, hend.registered, hend.current, ?_, ?_,
    Int.natCast_nonneg _, Int.natCast_nonneg _⟩, fun h => (by cases h), fun _ => hclosed⟩
  · change (0 : ℤ) = (s.slots.countP Slot.isOpen : ℕ)
    rw [hopen]
    rfl
  · change (0 : ℤ) = (s.slots.countP Slot.isStreaming : ℕ)
    rw [hstreaming]
    rfl

theorem inv_step (h : Server.Inv setup s) {e : ServerEvent} (he : s.step setup e = some t)
    (hk : Orderly setup s e t) : Server.Inv setup t := by
  cases e with
  | startServer failure =>
    simp only [Server.step] at he
    split at he
    · rename_i hp
      cases he
      exact inv_startServer h hp failure
    · split at he
      · cases he
        exact h
      · cases he
  | stopServer =>
    simp only [Server.step] at he
    split at he
    · cases he
      exact inv_phase h (fun h => by cases h) (fun h => by cases h)
    · split at he
      · cases he
        exact h
      · cases he
  | stopOnIoThread =>
    simp only [Server.step] at he
    split at he
    · cases he
      exact h.stopOnIoThread
    · cases he
  | stopReturns =>
    simp only [Server.step] at he
    split at he
    · rename_i hp
      cases he
      exact inv_stopReturns h hp hk.2.2
    · cases he
  | accepted failed =>
    simp only [Server.step] at he
    split at he
    · rename_i hp
      cases he
      exact h.handleAccept failed hp.1
    · cases he
  | session index provided event =>
    simp only [Server.step] at he
    split at he
    · exact inv_session h hk.2.1 he
    · cases he
  | sweep kind frames =>
    simp only [Server.step] at he
    split at he
    · cases he
      exact (h.notifySessions _ h.tallied.positive kind frames).1
    · cases he

/-- With the counts, the registrations and the ends of sessions as invariant, the accounts are
right. -/
theorem Accounted.of_inv (h : Server.Inv setup s) : Accounted setup s := by
  have ht := h.tallied
  have hcurrent (p : Slot → Bool) (hp : ∀ slot, p slot = true → slot.isOpen = true) :
      s.slots.countP p = s.slots.countP fun slot => p slot && slot.run == s.run := by
    apply List.countP_congr
    intro slot hslot
    constructor
    · intro hpos
      rw [hpos, ht.current slot hslot (hp slot hpos)]
      simp
    · intro hboth
      exact (Bool.and_eq_true_iff.mp hboth).1
  refine ⟨?_, ht.connectionLimit, ?_, ht.streamLimit, ?_, ?_, ?_⟩
  · rw [ht.connections, openConnections, hcurrent Slot.isOpen fun _ h => h]
  · rw [ht.streams, openStreams, hcurrent Slot.isStreaming fun _ h =>
      (Bool.and_eq_true_iff.mp h).1]
  · intro slot hslot
    rw [(ht.closed slot hslot).closes]
    unfold Slot.isOpen
    cases slot.conn.session.finished with
    | false => rfl
    | true => rfl
  · intro slot hslot hopen
    exact (ht.stage slot hslot).isAlive (by simpa [Slot.isOpen] using hopen)
  · intro hp
    have hclosed := h.stopped hp
    obtain ⟨hopen, hstreaming⟩ := count_zero hclosed
    rw [ht.connections, ht.streams, hopen, hstreaming]
    exact ⟨rfl, rfl, hclosed⟩

/-- In every orderly run the counters are the numbers of open and streaming sessions of the run,
within their limits, and every session is closed once. -/
theorem connections_accounted (hs : Reach (· = {}) (Server.step setup) (Orderly setup) s) :
    Accounted setup s := by
  refine Accounted.of_inv (Reach.invariant (Server.Inv setup) ?_ ?_ hs)
  · rintro s rfl
    exact inv_constructed
  · intro s e t _ hinv he hk
    exact inv_step hinv he hk

def sampleServer : ServerSetup where
  maxConnections := 2
  maxStreamClients := 1
  session := sampleSession

/-- The session at `index` handles an event while frame 1 is the newest. -/
def handles (index : ℕ) (e : SessionEvent) : ServerEvent :=
  .session index (withFrame 1 e).1 e

/-- A client connects and asks for the color stream. -/
def streamed : List ServerEvent :=
  [.startServer none, .accepted false, handles 0 (.read (some colorRequest))]

theorem sampleServer_reach (ok : Server → ServerEvent → Server → Prop)
    (check : Server → ServerEvent → Bool) (test : Server → Bool) (events : List ServerEvent)
    (hcheck : ∀ s e t, check s e = true → ok s e t)
    (h : (runEvents (Server.step sampleServer) check {} events).any test = true) :
    ∃ s, Reach (· = {}) (Server.step sampleServer) ok s ∧ test s = true := by
  have h0 : Reach (· = {}) (Server.step sampleServer) ok ({} : Server) := .start rfl
  exact h0.exists_run (fun s e t hc _ => hcheck s e t hc) h

def isSweep : ServerEvent → Bool
  | .sweep _ _ => true
  | _ => false

theorem sweepsQuietly_of_not {s t : Server} {e : ServerEvent} (h : isSweep e = false) :
    SweepsQuietly s e t := by
  rintro kind frames rfl
  cases h

set_option maxRecDepth 100000 in
/-- A read and an accept that complete just before a stop break the counts: the finished session
takes a stream slot, and the late one closes on the account of the next server run. -/
theorem connections_miscounted :
    (∃ s, Reach (· = {}) (Server.step sampleServer) SweepsQuietly s ∧
      s.impl.activeStreamClients = 1 ∧ openStreams s = 0) ∧
    (∃ s, Reach (· = {}) (Server.step sampleServer) SweepsQuietly s ∧
      s.impl.activeConnections = 0 ∧ openConnections s = 1) := by
  constructor
  · obtain ⟨s, hs, htest⟩ := sampleServer_reach SweepsQuietly (fun _ e => !isSweep e)
      (fun s => s.impl.activeStreamClients == 1 && openStreams s == 0)
      [.startServer none, .accepted false, .stopServer, .stopOnIoThread,
        handles 0 (.read (some colorRequest))]
      (fun _ _ _ hc => sweepsQuietly_of_not (by simpa using hc)) (by decide +kernel)
    exact ⟨s, hs, by simpa using htest⟩
  · obtain ⟨s, hs, htest⟩ := sampleServer_reach SweepsQuietly (fun _ e => !isSweep e)
      (fun s => s.impl.activeConnections == 0 && openConnections s == 1)
      [.startServer none, .stopServer, .stopOnIoThread, .accepted false, .stopReturns,
        .startServer none, .accepted false, handles 0 (.read none)]
      (fun _ _ _ hc => sweepsQuietly_of_not (by simpa using hc)) (by decide +kernel)
    exact ⟨s, hs, by simpa using htest⟩

set_option maxRecDepth 100000 in
theorem connections_accounted_streamed : ∃ s : Server,
    s.impl.activeConnections = 1 ∧ s.impl.activeStreamClients = 1 ∧ Accounted sampleServer s := by
  obtain ⟨s, hs, htest⟩ := sampleServer_reach (Orderly sampleServer)
    (fun s e => !isSweep e && !admitsFinished sampleServer s e && !abandonsLate s e)
    (fun s => s.impl.activeConnections == 1 && s.impl.activeStreamClients == 1) streamed
    (fun s e t hc => by
      simp only [Bool.and_eq_true, Bool.not_eq_true'] at hc
      exact ⟨sweepsQuietly_of_not hc.1.1, hc.1.2, hc.2⟩) (by decide +kernel)
  simp only [Bool.and_eq_true, beq_iff_eq] at htest
  exact ⟨s, htest.1, htest.2, connections_accounted hs⟩

end NodusVision.Guarantees
