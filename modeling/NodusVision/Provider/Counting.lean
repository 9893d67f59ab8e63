import Mathlib.Data.List.Basic
import NodusVision.Provider.Server

/-! The counters of the server against the sessions it accepted. -/
namespace NodusVision.Provider
open Text Recording Transition

theorem countP_set_int {α : Type} (p : α → Bool) {l : List α} {i : ℕ} {a : α} (b : α)
    (h : l[i]? = some a) :
    ((l.set i b).countP p : ℤ) =
      l.countP p - (if p a then 1 else 0) + (if p b then 1 else 0) := by
  obtain ⟨hi, rfl⟩ := List.getElem?_eq_some_iff.mp h
  have hpos := List.boole_getElem_le_countP (p := p) (l := l) (i := i) hi
  rw [List.countP_set hi]
  cases ha : p l[i] with
  | false => cases p b <;> simp
  | true =>
    rw [ha] at hpos
    simp only [if_true] at hpos ⊢
    cases p b <;> simp only [if_true, Bool.false_eq_true, if_false] <;> omega

namespace Slot

def isOpen (slot : Slot) : Bool := !slot.conn.session.finished

/-- An open session that serves a stream. -/
def isStreaming (slot : Slot) : Bool := slot.isOpen && slot.conn.session.streaming

end Slot

namespace Server

/-- The counters are the numbers of open and of streaming sessions, and every open session can be
reached by a stop. -/
structure Tallied (setup : ServerSetup) (s : Server) : Prop where
  stage : ∀ slot ∈ s.slots, Stage slot.conn
  closed : ∀ slot ∈ s.slots, ClosedOnce slot.conn
  ids : s.impl.nextSessionId = s.slots.length
  positive : ∀ id ∈ s.impl.sessions, 0 < id
  registered : ∀ i slot, s.slots[i]? = some slot → slot.isOpen = true → i + 1 ∈ s.impl.sessions
  current : ∀ slot ∈ s.slots, slot.isOpen = true → slot.run = s.run
  connections : s.impl.activeConnections = s.slots.countP Slot.isOpen
  streams : s.impl.activeStreamClients = s.slots.countP Slot.isStreaming
  connectionLimit : s.impl.activeConnections ≤ setup.maxConnections
  streamLimit : s.impl.activeStreamClients ≤ setup.maxStreamClients

variable {setup : ServerSetup} {s t : Server}

theorem streaming_le_open : s.slots.countP Slot.isStreaming ≤ s.slots.countP Slot.isOpen := by
  apply List.countP_mono_left
  intro slot _ h
  exact (Bool.and_eq_true_iff.mp h).1

/-- The server after the session at `index` became `conn`. -/
def replace (s : Server) (index : ℕ) (slot : Slot) (x : Hosted ServerImpl) : Server :=
  { s with impl := x.host, slots := s.slots.set index { slot with conn := x.conn } }

/-- One session changed, and the server counted what changed. -/
theorem Tallied.replace (h : Tallied setup s) {index : ℕ} {slot : Slot} {x : Hosted ServerImpl}
    (hslot : s.slots[index]? = some slot) (hstage : Stage x.conn) (hclosed : ClosedOnce x.conn)
    (hids : x.host.nextSessionId = s.impl.nextSessionId)
    (hsub : ∀ id ∈ x.host.sessions, id ∈ s.impl.sessions)
    (hkept : ∀ id ∈ s.impl.sessions, id ≠ index + 1 → id ∈ x.host.sessions)
    (hopen : Slot.isOpen { slot with conn := x.conn } = true →
      slot.isOpen = true ∧ index + 1 ∈ x.host.sessions)
    (hconnections : x.host.activeConnections = s.impl.activeConnections -
      (if slot.isOpen then 1 else 0) +
      (if Slot.isOpen { slot with conn := x.conn } then 1 else 0))
    (hstreams : x.host.activeStreamClients = s.impl.activeStreamClients -
      (if slot.isStreaming then 1 else 0) +
      (if Slot.isStreaming { slot with conn := x.conn } then 1 else 0))
    (hlimit : x.host.activeConnections ≤ s.impl.activeConnections)
    (hstreamLimit : x.host.activeStreamClients ≤ setup.maxStreamClients) :
    Tallied setup (s.replace index slot x) := by
  have hmem : slot ∈ s.slots := List.mem_of_getElem? hslot
  have hset : ∀ other ∈ (s.replace index slot x).slots,
      other ∈ s.slots ∨ other = { slot with conn := x.conn } := fun other ho =>
    List.mem_or_eq_of_mem_set ho
  refine ⟨?_, ?_, ?_, ?_, ?_, ?_, ?_, ?_, hlimit.trans h.connectionLimit, hstreamLimit⟩
  · intro other ho
    rcases hset other ho with ho | rfl
    · exact h.stage other ho
    · exact hstage
  · intro other ho
    rcases hset other ho with ho | rfl
    · exact h.closed other ho
    · exact hclosed
  · change x.host.nextSessionId = (s.slots.set _ _).length
    rw [hids, h.ids, List.length_set]
  · intro id hid
    exact h.positive id (hsub id hid)
  · intro i other ho hopen'
    change (s.slots.set _ _)[i]? = some other at ho
    by_cases hi : index = i
    · subst hi
      rw [List.getElem?_set_self (List.getElem?_eq_some_iff.mp hslot).1] at ho
      cases ho
      exact (hopen hopen').2
    · rw [List.getElem?_set_ne hi] at ho
      exact hkept _ (h.registered i other ho hopen') (by omega)
  · intro other ho hopen'
    rcases hset other ho with ho | rfl
    · exact h.current other ho hopen'
    · exact h.current slot hmem (hopen hopen').1
  · change x.host.activeConnections = ((s.slots.set _ _).countP _ : ℕ)
    rw [countP_set_int _ _ hslot, hconnections, h.connections]
  · change x.host.activeStreamClients = ((s.slots.set _ _).countP _ : ℕ)
    rw [countP_set_int _ _ hslot, hstreams, h.streams]

section
variable {index : ℕ} {slot : Slot} {x : Hosted ServerImpl}

/-- A session that kept its account, on an unchanged server. -/
theorem Tallied.same (h : Tallied setup s) (hslot : s.slots[index]? = some slot)
    (hstage : Stage x.conn) (hc : x.conn.account = slot.conn.account) (hh : x.host = s.impl) :
    Tallied setup (s.replace index slot x) := by
  have hmem : slot ∈ s.slots := List.mem_of_getElem? hslot
  have hf : x.conn.session.finished = slot.conn.session.finished := congrArg Account.finished hc
  have hs : x.conn.session.streaming = slot.conn.session.streaming :=
    congrArg Account.streaming hc
  have hopen : Slot.isOpen { slot with conn := x.conn } = slot.isOpen := by
    simp [Slot.isOpen, hf]
  have hstreaming : Slot.isStreaming { slot with conn := x.conn } = slot.isStreaming := by
    simp [Slot.isStreaming, hopen, hs]
  refine h.replace hslot hstage (closedOnce_of_account (h.closed slot hmem) hc) ?_ ?_ ?_ ?_ ?_ ?_ ?_
    ?_
  · rw [hh]
  · intro id hid
    rw [hh] at hid
    exact hid
  · intro id hid _
    rw [hh]
    exact hid
  · intro ho
    rw [hopen] at ho
    rw [hh]
    exact ⟨ho, h.registered index slot hslot ho⟩
  · rw [hopen, hh]
    omega
  · rw [hstreaming, hh]
    omega
  · rw [hh]
  · rw [hh]
    exact h.streamLimit

/-- A session that closed, and whose closed handler ran. -/
theorem Tallied.close (h : Tallied setup s) (hslot : s.slots[index]? = some slot)
    (hstage : Stage x.conn) (hf : slot.conn.session.finished = false)
    (hc : x.conn.account = slot.conn.account.close)
    (hh : x.host = s.impl.closeSession (index + 1) slot.conn.session.streaming) :
    Tallied setup (s.replace index slot x) := by
  have hmem : slot ∈ s.slots := List.mem_of_getElem? hslot
  have hend : x.conn.session.finished = true := congrArg Account.finished hc
  have hopen : slot.isOpen = true := by simp [Slot.isOpen, hf]
  have hclosed : Slot.isOpen { slot with conn := x.conn } = false := by simp [Slot.isOpen, hend]
  have hnot : Slot.isStreaming { slot with conn := x.conn } = false := by
    simp [Slot.isStreaming, hclosed]
  have hstreaming : slot.isStreaming = slot.conn.session.streaming := by
    simp [Slot.isStreaming, hopen]
  have hpos : 0 < s.impl.activeConnections := by
    rw [h.connections]
    exact_mod_cast List.countP_pos_iff.mpr ⟨slot, hmem, hopen⟩
  have hconnections : x.host.activeConnections = s.impl.activeConnections - 1 := by
    rw [hh]
    simp [ServerImpl.closeSession, hpos]
  have hstreams : x.host.activeStreamClients = s.impl.activeStreamClients -
      (if slot.isStreaming then 1 else 0) := by
    rw [hh, hstreaming]
    cases hm : slot.conn.session.streaming with
    | false => simp [ServerImpl.closeSession]
    | true =>
      have hpos : 0 < s.impl.activeStreamClients := by
        rw [h.streams]
        exact_mod_cast List.countP_pos_iff.mpr ⟨slot, hmem, by rw [hstreaming, hm]⟩
      simp [ServerImpl.closeSession, hpos]
  refine h.replace hslot hstage ?_ ?_ ?_ ?_ ?_ ?_ ?_ ?_ ?_
  · have hold := h.closed slot hmem
    have hhandler : x.conn.session.hasClosedHandler = false :=
      congrArg Account.hasClosedHandler hc
    have hcloses : x.conn.closes = slot.conn.closes + 1 := congrArg Account.closes hc
    exact ⟨by rw [hhandler, hend]; rfl, by rw [hcloses, hend, hold.closes, hf]; rfl⟩
  · rw [hh]
    rfl
  · intro id hid
    rw [hh] at hid
    exact (List.mem_filter.mp hid).1
  · intro id hid hne
    rw [hh]
    simpa [ServerImpl.closeSession] using ⟨hid, hne⟩
  · intro ho
    rw [hclosed] at ho
    cases ho
  · rw [hconnections, hopen, hclosed]
    simp
  · rw [hstreams, hnot]
    simp
  · omega
  · have hlimit := h.streamLimit
    split at hstreams <;> omega

/-- An open session that was given a stream slot. -/
theorem Tallied.admitted (h : Tallied setup s) (hslot : s.slots[index]? = some slot)
    (hstage : Stage x.conn) (hf : slot.conn.session.finished = false)
    (hm : slot.conn.session.streaming = false) {kind : ProviderStreamKind}
    (hc : x.conn.account = slot.conn.account.opened kind)
    (hh : x.host = (s.impl.admitStream setup).2) (hyes : (s.impl.admitStream setup).1 = true) :
    Tallied setup (s.replace index slot x) := by
  have hmem : slot ∈ s.slots := List.mem_of_getElem? hslot
  have hstill : x.conn.session.finished = false := (congrArg Account.finished hc).trans hf
  have hnow : x.conn.session.streaming = true := congrArg Account.streaming hc
  have hopen : slot.isOpen = true := by simp [Slot.isOpen, hf]
  have hopen' : Slot.isOpen { slot with conn := x.conn } = true := by simp [Slot.isOpen, hstill]
  have hnot : slot.isStreaming = false := by simp [Slot.isStreaming, hm]
  have hstreaming : Slot.isStreaming { slot with conn := x.conn } = true := by
    simp [Slot.isStreaming, hopen', hnow]
  have hroom : s.impl.activeStreamClients < setup.maxStreamClients := by
    by_contra hfull
    rw [ServerImpl.admitStream, if_pos (by omega)] at hyes
    cases hyes
  have hhost : x.host =
      { s.impl with activeStreamClients := s.impl.activeStreamClients + 1 } := by
    rw [hh, ServerImpl.admitStream, if_neg (by omega)]
  refine h.replace hslot hstage ?_ ?_ ?_ ?_ ?_ ?_ ?_ ?_ ?_
  · have hold := h.closed slot hmem
    have hhandler : x.conn.session.hasClosedHandler = slot.conn.session.hasClosedHandler :=
      congrArg Account.hasClosedHandler hc
    have hcloses : x.conn.closes = slot.conn.closes := congrArg Account.closes hc
    exact ⟨by rw [hhandler, hstill, hold.handler, hf], by rw [hcloses, hstill, hold.closes, hf]⟩
  · rw [hhost]
  · intro id hid
    rw [hhost] at hid
    exact hid
  · intro id hid _
    rw [hhost]
    exact hid
  · intro _
    rw [hhost]
    exact ⟨hopen, h.registered index slot hslot hopen⟩
  · rw [hhost, hopen, hopen']
    simp
  · rw [hhost, hnot, hstreaming]
    simp
  · rw [hhost]
  · rw [hhost]
    exact hroom

/-- Every outcome of a step without a request is counted. -/
theorem Tallied.outcome (h : Tallied setup s) (hslot : s.slots[index]? = some slot)
    (hstage : Stage x.conn)
    (ho : Outcome (sessionHandlers setup (index + 1)) ⟨slot.conn, s.impl⟩ x) :
    Tallied setup (s.replace index slot x) := by
  cases ho with
  | same hc hh => exact h.same hslot hstage hc hh
  | closed hf hc hh => exact h.close hslot hstage hf hc hh

end

theorem withSession_eq {index : ℕ} {f : Hosted ServerImpl → Option (Hosted ServerImpl)}
    (h : s.withSession index f = some t) : ∃ slot x, s.slots[index]? = some slot ∧
      f ⟨slot.conn, s.impl⟩ = some x ∧ t = s.replace index slot x := by
  obtain ⟨slot, hslot, h⟩ := Option.bind_eq_some_iff.mp h
  obtain ⟨x, hx, rfl⟩ := Option.map_eq_some_iff.mp h
  exact ⟨slot, x, hslot, hx, rfl⟩

/-- The counts hold; a session that is open while the server drains came late, and none is open
when the server is stopped. -/
structure Inv (setup : ServerSetup) (s : Server) : Prop where
  tallied : Tallied setup s
  draining : s.phase = .draining → ∀ slot ∈ s.slots, slot.isOpen = true → slot.late = true
  stopped : s.phase = .stopped → ∀ slot ∈ s.slots, slot.isOpen = false

theorem Inv.replace (h : Inv setup s) {index : ℕ} {slot : Slot} {x : Hosted ServerImpl}
    (hslot : s.slots[index]? = some slot) (ht : Tallied setup (s.replace index slot x))
    (hf : slot.conn.session.finished = true → x.conn.session.finished = true) :
    Inv setup (s.replace index slot x) := by
  have hmem : slot ∈ s.slots := List.mem_of_getElem? hslot
  have hset : ∀ other ∈ (s.replace index slot x).slots,
      other ∈ s.slots ∨ other = { slot with conn := x.conn } := fun other ho =>
    List.mem_or_eq_of_mem_set ho
  have hopen : Slot.isOpen { slot with conn := x.conn } = true → slot.isOpen = true := by
    intro ho
    cases hfin : slot.conn.session.finished with
    | false => simp [Slot.isOpen, hfin]
    | true => simp [Slot.isOpen, hf hfin] at ho
  refine ⟨ht, ?_, ?_⟩
  · intro hp other ho hopen'
    rcases hset other ho with ho | rfl
    · exact h.draining hp other ho hopen'
    · exact h.draining hp slot hmem (hopen hopen')
  · intro hp other ho
    rcases hset other ho with ho | rfl
    · exact h.stopped hp other ho
    · have hclosed := h.stopped hp slot hmem
      by_contra hno
      rw [hopen (Bool.not_eq_false _ ▸ hno)] at hclosed
      cases hclosed

/-- A handler whose outcome the server counts. -/
theorem Inv.outcome (h : Inv setup s) {index : ℕ} {slot : Slot} {x : Hosted ServerImpl}
    (hslot : s.slots[index]? = some slot) (hstage : Stage x.conn)
    (ho : Outcome (sessionHandlers setup (index + 1)) ⟨slot.conn, s.impl⟩ x) :
    Inv setup (s.replace index slot x) :=
  h.replace hslot (h.tallied.outcome hslot hstage ho) ho.finished

/-- A function of one session that is run for a registered id. -/
theorem Inv.one (h : Inv setup s) {id : ℕ} (hid : 0 < id) {f : Hosted ServerImpl → Hosted ServerImpl}
    (hf : ∀ x : Hosted ServerImpl, Stage x.conn → ClosedOnce x.conn → Stage (f x).conn ∧
      Outcome (sessionHandlers setup id) x (f x)) :
    Inv setup ((s.withSession (id - 1) fun x => some (f x)).getD s) := by
  cases hs : s.withSession (id - 1) fun x => some (f x) with
  | none => exact h
  | some t =>
    obtain ⟨slot, x, hslot, hx, rfl⟩ := withSession_eq hs
    cases hx
    have hmem : slot ∈ s.slots := List.mem_of_getElem? hslot
    obtain ⟨hstage, ho⟩ := hf ⟨slot.conn, s.impl⟩ (h.tallied.stage slot hmem)
      (h.tallied.closed slot hmem)
    exact h.outcome hslot hstage (by rwa [Nat.sub_add_cancel hid])

theorem Inv.cancelOne (h : Inv setup s) {id : ℕ} (hid : 0 < id) :
    Inv setup (s.cancelOne setup id) := by
  refine h.one hid fun x hstage hclosed => ?_
  exact ⟨cancelSession_stage x.conn.waits hstage, cancelSession_outcome hclosed⟩

theorem phase_one {id : ℕ} {f : Hosted ServerImpl → Hosted ServerImpl} :
    ((s.withSession (id - 1) fun x => some (f x)).getD s).phase = s.phase := by
  cases hs : s.withSession (id - 1) fun x => some (f x) with
  | none => rfl
  | some t =>
    obtain ⟨_, _, _, _, rfl⟩ := withSession_eq hs
    rfl

/-- The session at this index, if there is one, is finished. -/
def IsClosed (s : Server) (index : ℕ) : Prop :=
  ∀ slot, s.slots[index]? = some slot → slot.isOpen = false

theorem isClosed_cancelOne (s : Server) (id : ℕ) : (s.cancelOne setup id).IsClosed (id - 1) := by
  intro slot hslot
  unfold cancelOne at hslot
  cases hs : s.withSession (id - 1)
      fun x => some (cancelSession (sessionHandlers setup id) x) with
  | none =>
    rw [hs] at hslot
    simp [withSession, show s.slots[id - 1]? = some slot from hslot] at hs
  | some t =>
    rw [hs] at hslot
    obtain ⟨old, x, hold, hx, rfl⟩ := withSession_eq hs
    cases hx
    simp only [Option.getD_some, Server.replace] at hslot
    rw [List.getElem?_set_self (List.getElem?_eq_some_iff.mp hold).1] at hslot
    cases hslot
    simp [Slot.isOpen, cancelSession_finished]

theorem IsClosed.cancelOne {index : ℕ} (h : s.IsClosed index) (id : ℕ) :
    (s.cancelOne setup id).IsClosed index := by
  by_cases hi : id - 1 = index
  · rw [← hi]
    exact isClosed_cancelOne s id
  · intro slot hslot
    unfold Server.cancelOne at hslot
    cases hs : s.withSession (id - 1)
        fun x => some (cancelSession (sessionHandlers setup id) x) with
    | none =>
      rw [hs] at hslot
      exact h slot hslot
    | some t =>
      rw [hs] at hslot
      obtain ⟨old, x, hold, hx, rfl⟩ := withSession_eq hs
      simp only [Option.getD_some, Server.replace] at hslot
      rw [List.getElem?_set_ne hi] at hslot
      exact h slot hslot

/-- Cancelling a list of sessions keeps the counts and closes each of them. -/
theorem Inv.cancelAll (ids : List ℕ) (h : Inv setup s) (hids : ∀ id ∈ ids, 0 < id) :
    Inv setup (ids.foldl (Server.cancelOne setup) s) ∧
      (∀ index, s.IsClosed index → (ids.foldl (Server.cancelOne setup) s).IsClosed index) ∧
      (∀ id ∈ ids, (ids.foldl (Server.cancelOne setup) s).IsClosed (id - 1)) ∧
      (ids.foldl (Server.cancelOne setup) s).phase = s.phase := by
  induction ids generalizing s with
  | nil => exact ⟨h, fun _ hc => hc, fun _ hm => (by cases hm), rfl⟩
  | cons id rest ih =>
    have hpos : 0 < id := hids id (List.mem_cons_self ..)
    obtain ⟨h1, h2, h3, h4⟩ :=
      ih (h.cancelOne hpos) fun other ho => hids other (List.mem_cons_of_mem _ ho)
    refine ⟨h1, fun index hc => h2 index (hc.cancelOne id), ?_, h4.trans phase_one⟩
    intro other ho
    rcases List.mem_cons.mp ho with rfl | ho
    · exact h2 _ (isClosed_cancelOne s other)
    · exact h3 other ho

/-- Outstanding accepts and the acceptor do not matter to the counts. -/
theorem Inv.withAcceptor (h : Inv setup s) (acceptorOpen : Bool) (accepts : ℕ) :
    Inv setup (s.withAcceptor acceptorOpen accepts) :=
  ⟨⟨h.tallied.1, h.tallied.2, h.tallied.3, h.tallied.4, h.tallied.5, h.tallied.6, h.tallied.7,
    h.tallied.8, h.tallied.9, h.tallied.10⟩, h.draining, h.stopped⟩

/-- Once no session is open, none is registered and any phase is fine. -/
theorem Inv.clearSessions (h : Inv setup s) (hclosed : ∀ slot ∈ s.slots, slot.isOpen = false)
    (phase : Phase) : Inv setup { s.clearSessions with phase := phase } := by
  have ht := h.tallied
  refine ⟨⟨ht.stage, ht.closed, ht.ids, fun id hid => (by cases hid), ?_, ht.current,
    ht.connections, ht.streams, ht.connectionLimit, ht.streamLimit⟩, ?_, fun _ => hclosed⟩
  · intro i slot hslot hopen
    rw [hclosed slot (List.mem_of_getElem? hslot)] at hopen
    cases hopen
  · intro _ slot hslot hopen
    rw [hclosed slot hslot] at hopen
    cases hopen

theorem Inv.stopOnIoThread (h : Inv setup s) :
    Inv setup { s.stopOnIoThread setup with phase := .draining } := by
  have hbegin := h.withAcceptor false s.impl.accepts
  have hids : ∀ id ∈ s.impl.sessions.filter (s.withAcceptor false s.impl.accepts).isHeld, 0 < id :=
    fun id hid => h.tallied.positive id (List.mem_filter.mp hid).1
  obtain ⟨hend, hkept, hcancelled, -⟩ := hbegin.cancelAll _ hids
  refine hend.clearSessions ?_ .draining
  -- An open session is registered and alive, so it was among the cancelled ones.
  intro slot hslot
  obtain ⟨i, hi⟩ := List.mem_iff_getElem?.mp hslot
  by_cases hopen : IsClosed s i
  · exact hkept i hopen slot hi
  · unfold IsClosed at hopen
    rw [not_forall] at hopen
    obtain ⟨old, hold⟩ := hopen
    obtain ⟨hold, hopen⟩ := Classical.not_imp.mp hold
    have hopen : old.isOpen = true := Bool.not_eq_false _ ▸ hopen
    have halive : old.conn.isAlive = true :=
      (h.tallied.stage old (List.mem_of_getElem? hold)).isAlive (by simpa [Slot.isOpen] using hopen)
    have hmem : i + 1 ∈ s.impl.sessions.filter (s.withAcceptor false s.impl.accepts).isHeld := by
      refine List.mem_filter.mpr ⟨h.tallied.registered i old hold hopen, ?_⟩
      simp [isHeld, Server.withAcceptor, hold, halive]
    exact hcancelled (i + 1) hmem slot hi

/-- Removing the id of a session that is gone. -/
theorem Inv.forget (h : Inv setup s) {id : ℕ} (hid : 0 < id) (hgone : s.isHeld id = false) :
    Inv setup { s with impl := { s.impl with sessions := s.impl.sessions.filter (· ≠ id) } } := by
  have ht := h.tallied
  refine ⟨⟨ht.stage, ht.closed, ht.ids, ?_, ?_, ht.current, ht.connections, ht.streams,
    ht.connectionLimit, ht.streamLimit⟩, h.draining, h.stopped⟩
  · intro other ho
    exact ht.positive other (List.mem_filter.mp ho).1
  · intro i slot hslot hopen
    refine List.mem_filter.mpr ⟨ht.registered i slot hslot hopen, ?_⟩
    have halive : slot.conn.isAlive = true :=
      (ht.stage slot (List.mem_of_getElem? hslot)).isAlive (by simpa [Slot.isOpen] using hopen)
    have hne : i + 1 ≠ id := by
      rintro rfl
      simp [isHeld, show s.slots[i]? = some slot from hslot, halive] at hgone
    simpa using hne

theorem Inv.notifySessions (ids : List ℕ) (h : Inv setup s) (hids : ∀ id ∈ ids, 0 < id)
    (kind : ProviderStreamKind) (frames : ℕ → Acquired) :
    Inv setup (ids.foldl (notifyOne setup kind frames) s) ∧
      (ids.foldl (notifyOne setup kind frames) s).phase = s.phase := by
  induction ids generalizing s with
  | nil => exact ⟨h, rfl⟩
  | cons id rest ih =>
    have hpos : 0 < id := hids id (List.mem_cons_self ..)
    have hone : Inv setup (s.notifyOne setup kind frames id) ∧
        (s.notifyOne setup kind frames id).phase = s.phase := by
      unfold notifyOne
      split
      · refine ⟨h.one hpos fun x hstage hclosed => ?_, phase_one⟩
        exact ⟨notifyStreamFrame_stage hstage, notifyStreamFrame_outcome hclosed kind _⟩
      · rename_i hgone
        exact ⟨h.forget hpos (Bool.not_eq_true _ ▸ hgone), rfl⟩
    obtain ⟨h1, h2⟩ := ih hone.1 fun other ho => hids other (List.mem_cons_of_mem _ ho)
    exact ⟨h1, h2.trans hone.2⟩

/-- A session is accepted while there is room. -/
theorem Inv.acceptSession (h : Inv setup s)
    (hroom : s.impl.activeConnections < setup.maxConnections) (hp : s.phase ≠ .stopped) :
    Inv setup s.acceptSession := by
  have ht := h.tallied
  have hnew : ∀ slot ∈ s.acceptSession.slots,
      slot ∈ s.slots ∨ slot = { run := s.run, late := s.phase == .draining } := by
    intro slot hslot
    rcases List.mem_append.mp hslot with hslot | hslot
    · exact .inl hslot
    · exact .inr (List.mem_singleton.mp hslot)
  refine ⟨⟨?_, ?_, ?_, ?_, ?_, ?_, ?_, ?_, ?_, ht.streamLimit⟩, ?_, fun hp' => absurd hp' hp⟩
  · intro slot hslot
    rcases hnew slot hslot with hslot | rfl
    · exact ht.stage slot hslot
    · exact stage_new
  · intro slot hslot
    rcases hnew slot hslot with hslot | rfl
    · exact ht.closed slot hslot
    · exact closedOnce_new
  · simp [Server.acceptSession, ht.ids]
  · intro id hid
    rcases List.mem_append.mp hid with hid | hid
    · exact ht.positive id hid
    · rw [List.mem_singleton.mp hid]
      exact Nat.succ_pos _
  · intro i slot hslot hopen
    by_cases hi : i < s.slots.length
    · have hold : s.slots[i]? = some slot := by
        rw [← hslot]
        exact (List.getElem?_append_left hi).symm
      exact List.mem_append_left _ (ht.registered i slot hold hopen)
    · have hlt := (List.getElem?_eq_some_iff.mp hslot).1
      have hi : i = s.slots.length := by
        simp only [Server.acceptSession, List.length_append, List.length_singleton] at hlt
        omega
      rw [hi, ← ht.ids]
      exact List.mem_append_right _ (List.mem_singleton_self _)
  · intro slot hslot hopen
    rcases hnew slot hslot with hslot | rfl
    · exact ht.current slot hslot hopen
    · rfl
  · simp [Server.acceptSession, ht.connections, Slot.isOpen]
  · simp [Server.acceptSession, ht.streams, Slot.isStreaming, Slot.isOpen]
  · change s.impl.activeConnections + 1 ≤ setup.maxConnections
    omega
  · intro hdraining slot hslot hopen
    rcases hnew slot hslot with hslot | rfl
    · exact h.draining hdraining slot hslot hopen
    · have hp' : s.phase = .draining := hdraining
      simpa using hp'

theorem Inv.acceptAgain (h : Inv setup s) :
    Inv setup (if s.impl.acceptorOpen then s.withAcceptor true (s.impl.accepts + 1) else s) := by
  split
  · exact h.withAcceptor true (s.impl.accepts + 1)
  · exact h

theorem Inv.handleAccept (h : Inv setup s) (failed : Bool) (hp : s.phase ≠ .stopped) :
    Inv setup (s.handleAccept setup failed) := by
  have hone := h.withAcceptor s.impl.acceptorOpen (s.impl.accepts - 1)
  refine Inv.acceptAgain ?_
  split
  · exact hone
  · rename_i hroom
    rw [Bool.not_eq_true, Bool.or_eq_false_iff, decide_eq_false_iff_not, not_le] at hroom
    exact hone.acceptSession hroom.2 hp

end Server

end NodusVision.Provider
