import NodusVision.Guarantees.Connections
import NodusVision.Provider.Sweep

/-! What a sweep of notifications does to the map of sessions. -/
namespace NodusVision.Guarantees
open Text Recording Provider Transition

section
variable {setup : ServerSetup} {kind : ProviderStreamKind} {frames : ℕ → Acquired} {s t : Server}

/-- Every live session was notified once, and the expired and the cancelled entries are gone. -/
structure IsSweep (s : Server) (swept : Server × List ℕ) : Prop where
  once : swept.2.Nodup
  visited : ∀ id, id ∈ swept.2 ↔ id ∈ s.impl.sessions ∧ s.isHeld id = true
  remaining : ∀ id, id ∈ swept.1.impl.sessions ↔ id ∈ s.impl.sessions ∧ s.isHeld id = true ∧
    ¬(s.isFinished id = false ∧ swept.1.isFinished id = true)

/-- The sweep is safe exactly when the callback throws into none of the sessions. -/
theorem sweep_iff (h : s.IsSessionMap) :
    (∃ swept, s.sweep setup kind frames = .ok swept ∧ IsSweep s swept) ↔
      ∀ id ∈ s.impl.sessions, s.isThrownInto kind frames id = false := by
  rw [Server.sweep_eq h]
  constructor
  · rintro ⟨swept, hswept, -⟩ id hid
    by_contra hthrown
    rw [if_pos] at hswept
    · cases hswept
    · exact List.any_eq_true.mpr ⟨id, hid, Bool.not_eq_false _ ▸ hthrown⟩
  · intro hquiet
    have hnone : ¬ (s.impl.sessions.any (s.isThrownInto kind frames) = true) := by
      rw [List.any_eq_true]
      rintro ⟨id, hid, hthrown⟩
      rw [hquiet id hid] at hthrown
      cases hthrown
    rw [if_neg hnone]
    refine ⟨_, rfl, ?_⟩
    constructor
    · exact h.nodup.filter _
    · intro id
      exact List.mem_filter
    · intro id
      rw [Server.notifySessions, Server.mem_foldl_notifyOne h.positive h.nodup hquiet]
      constructor
      · rintro ⟨hid, hheld⟩
        refine ⟨hid, hheld hid, ?_⟩
        rintro ⟨hopen, hfinished⟩
        have hsame := Server.isFinished_foldl_notifyOne setup h.positive h.nodup hquiet hid
        cases hopen.symm.trans (hsame.symm.trans hfinished)
      · rintro ⟨hid, hheld, -⟩
        exact ⟨hid, fun _ => hheld⟩

/-- The keys are different ids that were given out. -/
structure MapInv (s : Server) : Prop extends s.IsSessionMap where
  known : ∀ id ∈ s.impl.sessions, id ≤ s.impl.nextSessionId

/-- A handler of one session removes entries only. -/
structure OnlyRemoves (m : ServerImpl) (y : Hosted ServerImpl) : Prop where
  closed : ClosedOnce y.conn
  sessions : y.host.sessions.Sublist m.sessions
  next : y.host.nextSessionId = m.nextSessionId

theorem MapInv.replace (h : MapInv s) {index : ℕ} {slot : Slot} {x : Hosted ServerImpl}
    (hx : OnlyRemoves s.impl x) : MapInv (s.replace index slot x) := by
  constructor
  · constructor
    · exact h.nodup.sublist hx.sessions
    · intro id hid
      exact h.positive id (hx.sessions.subset hid)
    · intro other hother
      rcases List.mem_or_eq_of_mem_set hother with hother | rfl
      · exact h.closed other hother
      · exact hx.closed
  · intro id hid
    show id ≤ x.host.nextSessionId
    rw [hx.next]
    exact h.known id (hx.sessions.subset hid)

theorem onlyRemoves_outcome {id : ℕ} {x y : Hosted ServerImpl} (hx : ClosedOnce x.conn)
    (h : Outcome (sessionHandlers setup id) x y) : OnlyRemoves x.host y := by
  cases h with
  | same hc hh =>
    constructor
    · exact closedOnce_of_account hx hc
    · rw [hh]
    · rw [hh]
  | closed hf hc hh =>
    have hcloses := hx.closes
    rw [hf] at hcloses
    constructor
    · have hfinished : y.conn.session.finished = true := congrArg Account.finished hc
      have hhandler : y.conn.session.hasClosedHandler = false := congrArg Account.hasClosedHandler hc
      have hcount : y.conn.closes = x.conn.closes + 1 := congrArg Account.closes hc
      constructor
      · rw [hhandler, hfinished]
        rfl
      · rw [hcount, hcloses, hfinished]
        rfl
    · rw [hh]
      exact List.filter_sublist
    · rw [hh]
      rfl

theorem onlyRemoves_read {id : ℕ} {x y : Hosted ServerImpl} {requested : Option ProviderStreamKind}
    (hx : ClosedOnce x.conn) (h : ReadOutcome (sessionHandlers setup id) requested x y) :
    OnlyRemoves x.host y := by
  have hadmission : ∀ kind, ((sessionHandlers setup id).streamAdmission kind x.host).2.sessions =
      x.host.sessions ∧ ((sessionHandlers setup id).streamAdmission kind x.host).2.nextSessionId =
      x.host.nextSessionId := by
    intro kind
    simp only [sessionHandlers, ServerImpl.admitStream]
    split
    · exact ⟨rfl, rfl⟩
    · exact ⟨rfl, rfl⟩
  cases h with
  | other ho => exact onlyRemoves_outcome hx ho
  | refused kind hc hh =>
    constructor
    · exact closedOnce_of_account hx hc
    · rw [hh, (hadmission kind).1]
    · rw [hh, (hadmission kind).2]
  | admitted kind _ hc hh =>
    have hfinished : y.conn.session.finished = x.conn.session.finished := congrArg Account.finished hc
    have hhandler : y.conn.session.hasClosedHandler = x.conn.session.hasClosedHandler :=
      congrArg Account.hasClosedHandler hc
    have hcount : y.conn.closes = x.conn.closes := congrArg Account.closes hc
    constructor
    · constructor
      · rw [hhandler, hfinished, hx.handler]
      · rw [hcount, hfinished, hx.closes]
    · rw [hh, (hadmission kind).1]
    · rw [hh, (hadmission kind).2]

theorem MapInv.one (h : MapInv s) {id : ℕ} {f : Hosted ServerImpl → Hosted ServerImpl}
    (hf : ∀ x : Hosted ServerImpl, ClosedOnce x.conn → Outcome (sessionHandlers setup id) x (f x)) :
    MapInv ((s.withSession (id - 1) fun x => some (f x)).getD s) := by
  cases hs : s.withSession (id - 1) fun x => some (f x) with
  | none => exact h
  | some t =>
    obtain ⟨slot, x, hslot, hx, rfl⟩ := Server.withSession_eq hs
    cases hx
    have hclosed := h.closed slot (List.mem_of_getElem? hslot)
    exact h.replace (onlyRemoves_outcome (x := ⟨slot.conn, s.impl⟩) hclosed (hf _ hclosed))

theorem MapInv.notifyOne (h : MapInv s) (id : ℕ) : MapInv (s.notifyOne setup kind frames id) := by
  unfold Server.notifyOne
  split
  · exact h.one fun x hclosed => notifyStreamFrame_outcome hclosed kind _
  · constructor
    · exact ⟨h.nodup.filter _, fun i hi => h.positive i (List.mem_of_mem_filter hi), h.closed⟩
    · intro i hi
      exact h.known i (List.mem_of_mem_filter hi)

theorem MapInv.foldl {f : Server → ℕ → Server} (hf : ∀ s id, MapInv s → MapInv (f s id)) (h : MapInv s)
    (ids : List ℕ) : MapInv (ids.foldl f s) := by
  induction ids generalizing s with
  | nil => exact h
  | cons id rest ih => exact ih (hf s id h)

/-- Fields other than the map and the sessions do not matter. -/
theorem MapInv.same (h : MapInv s) (hsessions : t.impl.sessions = s.impl.sessions)
    (hnext : t.impl.nextSessionId = s.impl.nextSessionId) (hslots : t.slots = s.slots) : MapInv t := by
  constructor
  · exact ⟨hsessions ▸ h.nodup, hsessions ▸ h.positive, hslots ▸ h.closed⟩
  · rw [hsessions, hnext]
    exact h.known

/-- An empty map. -/
theorem MapInv.cleared (h : MapInv s) (hsessions : t.impl.sessions = []) (hslots : t.slots = s.slots) :
    MapInv t := by
  constructor
  · refine ⟨hsessions ▸ List.nodup_nil, ?_, hslots ▸ h.closed⟩
    rw [hsessions]
    nofun
  · rw [hsessions]
    nofun

theorem MapInv.acceptSession (h : MapInv s) : MapInv s.acceptSession := by
  constructor
  · constructor
    · show (s.impl.sessions ++ [s.impl.nextSessionId + 1]).Nodup
      rw [List.nodup_append]
      refine ⟨h.nodup, List.pairwise_singleton _ _, ?_⟩
      intro id hid other hother
      rw [List.mem_singleton.mp hother]
      have hknown := h.known id hid
      omega
    · intro id hid
      rcases List.mem_append.mp hid with hid | hid
      · exact h.positive id hid
      · rw [List.mem_singleton.mp hid]
        exact Nat.succ_pos _
    · intro slot hslot
      rcases List.mem_append.mp hslot with hslot | hslot
      · exact h.closed slot hslot
      · rw [List.mem_singleton.mp hslot]
        exact closedOnce_new
  · intro id hid
    show id ≤ s.impl.nextSessionId + 1
    rcases List.mem_append.mp hid with hid | hid
    · exact Nat.le_succ_of_le (h.known id hid)
    · rw [List.mem_singleton.mp hid]

theorem MapInv.acceptAgain (h : MapInv s) :
    MapInv (if s.impl.acceptorOpen then s.withAcceptor true (s.impl.accepts + 1) else s) := by
  split
  · exact h.same rfl rfl rfl
  · exact h

theorem mapInv_constructed : MapInv {} := by
  constructor
  · constructor
    · exact List.nodup_nil
    · intro id hid
      cases hid
    · intro slot hslot
      cases hslot
  · intro id hid
    cases hid

theorem MapInv.session (h : MapInv s) {index : ℕ} {provided : Provided} {event : SessionEvent}
    (he : s.withSession index (fun x =>
      sessionStep (sessionHandlers setup (index + 1)) setup.session provided x event) = some t) :
    MapInv t := by
  obtain ⟨slot, x, hslot, hx, rfl⟩ := Server.withSession_eq he
  have hclosed := h.closed slot (List.mem_of_getElem? hslot)
  cases hr : event.isRead with
  | false =>
    have ho := sessionStep_outcome (x := ⟨slot.conn, s.impl⟩) hclosed hr hx
    exact h.replace (onlyRemoves_outcome (x := ⟨slot.conn, s.impl⟩) hclosed ho)
  | true =>
    cases event with
    | read request =>
      simp only [sessionStep] at hx
      split at hx
      · cases hx
        have hread : ClosedOnce ({ slot.conn with reading := false } : Connection) :=
          closedOnce_of_account hclosed rfl
        exact h.replace (onlyRemoves_read (x := ⟨{ slot.conn with reading := false }, s.impl⟩) hread
          (handleRead_outcome hread request))
      · cases hx
    | written | expire | waited | notify | cancel => cases hr

theorem mapInv_step (h : MapInv s) {e : ServerEvent} (he : s.step setup e = some t) : MapInv t := by
  cases e with
  | startServer failure =>
    simp only [Server.step] at he
    split at he
    · cases he
      unfold Server.startServer
      split
      · exact h
      · exact h
      · split
        · exact h
        · exact h.same rfl rfl rfl
      · split
        · exact h
        · exact h.same rfl rfl rfl
    · split at he
      · cases he
        exact h
      · cases he
  | stopServer =>
    simp only [Server.step] at he
    split at he
    · cases he
      exact h.same rfl rfl rfl
    · split at he
      · cases he
        exact h
      · cases he
  | stopOnIoThread =>
    simp only [Server.step] at he
    split at he
    · cases he
      have hcancelled := MapInv.foldl (f := Server.cancelOne setup)
        (fun s id hs => hs.one fun x hclosed => cancelSession_outcome hclosed)
        (h.same (t := s.withAcceptor false s.impl.accepts) rfl rfl rfl)
        ((s.withAcceptor false s.impl.accepts).impl.sessions.filter
          (s.withAcceptor false s.impl.accepts).isHeld)
      exact hcancelled.cleared rfl rfl
    · cases he
  | stopReturns =>
    simp only [Server.step] at he
    split at he
    · cases he
      exact h.cleared rfl rfl
    · cases he
  | accepted failed =>
    simp only [Server.step] at he
    split at he
    · cases he
      have hone : MapInv (s.withAcceptor s.impl.acceptorOpen (s.impl.accepts - 1)) := h.same rfl rfl rfl
      apply MapInv.acceptAgain
      split
      · exact hone
      · exact hone.acceptSession
    · cases he
  | session index provided event =>
    simp only [Server.step] at he
    split at he
    · exact h.session he
    · cases he
  | sweep kind frames =>
    simp only [Server.step] at he
    split at he
    · cases he
      exact h.foldl (fun s id hs => hs.notifyOne id) s.impl.sessions
    · cases he

/-- In every run of the server the map is as the sweep needs it. -/
theorem sessionMap_reachable (hs : Reach (· = {}) (Server.step setup) anyStep s) : s.IsSessionMap := by
  apply MapInv.toIsSessionMap
  apply Reach.invariant MapInv _ _ hs
  · rintro s rfl
    exact mapInv_constructed
  · intro s e t _ hinv he _
    exact mapInv_step hinv he

end

/-- The callback throws for every session. -/
def noFrames : ℕ → Acquired := fun _ => .error ()

def sweepFault (s : Server) : Option SweepFault :=
  match s.sweep sampleServer .color noFrames with
  | .error fault => some fault
  | .ok _ => none

/-- A stream client has received frame 1 and waits. -/
def waitingStream : List ServerEvent := streamed ++ [handles 0 headerSent, handles 0 (partSent 1)]

set_option maxRecDepth 100000 in
/-- The callback throws into a stream that waits: the sweep increments the iterator of its entry. -/
theorem sweep_faults : ∃ s : Server, Reach (· = {}) (Server.step sampleServer) anyStep s ∧
    s.sweep sampleServer .color noFrames = .error .erasedIterator := by
  obtain ⟨s, hs, htest⟩ := sampleServer_reach anyStep (fun _ _ => true)
    (fun s => sweepFault s == some .erasedIterator) waitingStream (fun _ _ _ _ => trivial) (by decide +kernel)
  refine ⟨s, hs, ?_⟩
  rw [beq_iff_eq, sweepFault] at htest
  split at htest
  · rename_i fault hfault
    cases htest
    exact hfault
  · cases htest

/-- The callback has frame 2 for every session. -/
def nextFrames : ℕ → Acquired := fun _ => .ok (some (sampleFrame 2))

/-- A session is writing frame 2. -/
def isServed (s : Server) : Bool :=
  s.slots.any fun slot => slot.conn.writes.any fun
    | .part identity _ => identity == (samplePreview 2).identity
    | _ => false

/-- The waiting stream can be served. -/
def awaitsFrame (s : Server) : Bool :=
  s.impl.sessions == [1] && !s.isThrownInto .color nextFrames 1 &&
    s.isThrownInto .color noFrames 1 &&
    match s.sweep sampleServer .color nextFrames with
    | .ok swept => isServed swept.1
    | .error _ => false

set_option maxRecDepth 100000 in
/-- The stream that waits is served when the callback has a frame, and only then. -/
theorem sweep_iff_waiting : ∃ (s : Server) (swept : Server × List ℕ), s.impl.sessions = [1] ∧
    s.sweep sampleServer .color nextFrames = .ok swept ∧ IsSweep s swept ∧
    isServed swept.1 = true ∧
    ¬∃ swept, s.sweep sampleServer .color noFrames = .ok swept ∧ IsSweep s swept := by
  obtain ⟨s, hs, htest⟩ := sampleServer_reach anyStep (fun _ _ => true) awaitsFrame waitingStream
    (fun _ _ _ _ => trivial) (by decide +kernel)
  simp only [awaitsFrame, Bool.and_eq_true, beq_iff_eq, Bool.not_eq_true'] at htest
  obtain ⟨⟨⟨hmap, hquiet⟩, hthrown⟩, hserved⟩ := htest
  have hone {frames : ℕ → Acquired} (h : s.isThrownInto .color frames 1 = false) :
      ∀ id ∈ s.impl.sessions, s.isThrownInto .color frames id = false := by
    intro id hid
    rw [hmap] at hid
    rw [List.mem_singleton.mp hid]
    exact h
  obtain ⟨swept, hswept, hsweep⟩ := (sweep_iff (sessionMap_reachable hs)).mpr (hone hquiet)
  rw [hswept] at hserved
  refine ⟨s, swept, hmap, hswept, hsweep, hserved, fun hfault => ?_⟩
  have hnone := (sweep_iff (sessionMap_reachable hs)).mp hfault 1 (hmap ▸ List.mem_singleton_self 1)
  cases hthrown.symm.trans hnone

end NodusVision.Guarantees
