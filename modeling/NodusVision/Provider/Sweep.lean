import NodusVision.Provider.Accounts
import NodusVision.Provider.Server

/-! The sweep over the map of sessions with its iterator, which erasing its entry invalidates. -/
namespace NodusVision.Provider
open Text Recording

/-- The iterator is used after its entry was erased, or the sweep has no steps left. -/
inductive SweepFault where
  | erasedIterator
  | unfinished
  deriving DecidableEq

/-- The entry after that of a key; `none` is the end. -/
def nextEntry (sessions : List ℕ) (id : ℕ) : Option ℕ :=
  (sessions.dropWhile fun other => other ≠ id).tail.head?

/-- The callback throws into the notification of a session that would send a frame. -/
def throwsInto (kind : ProviderStreamKind) (frame : Acquired) (c : Connection) : Bool :=
  !c.session.finished && c.session.streaming && kind == c.session.streamKind &&
    !c.session.writeInProgress && c.session.initialStreamFrame.isNone && !frame.toBool

namespace Server

/-- The loop of `notifySessions` from an iterator, with the sessions that were notified so far. -/
def sweepFrom (setup : ServerSetup) (kind : ProviderStreamKind) (frames : ℕ → Acquired) :
    ℕ → Server → Option ℕ → List ℕ → Except SweepFault (Server × List ℕ)
  | _, s, none, visited => .ok (s, visited)
  | 0, _, some _, _ => .error .unfinished
  | fuel + 1, s, some id, visited =>
    -- `iterator->second.lock()`
    if id ∉ s.impl.sessions then .error .erasedIterator
    else if s.isHeld id then
      let s := s.notifyOne setup kind frames id
      -- `++iterator`
      if id ∉ s.impl.sessions then .error .erasedIterator
      else sweepFrom setup kind frames fuel s (nextEntry s.impl.sessions id) (visited ++ [id])
    else
      sweepFrom setup kind frames fuel (s.notifyOne setup kind frames id)
        (nextEntry s.impl.sessions id) visited

/-- No entry is visited twice, so there are enough steps for all of them. -/
def sweep (setup : ServerSetup) (kind : ProviderStreamKind) (frames : ℕ → Acquired) (s : Server) :
    Except SweepFault (Server × List ℕ) :=
  sweepFrom setup kind frames s.impl.sessions.length s s.impl.sessions.head? []

/-- The session of an id is over. -/
def isFinished (s : Server) (id : ℕ) : Bool :=
  s.slots[id - 1]?.any fun slot => slot.conn.session.finished

/-- The session is notified, and the callback throws. -/
def isThrownInto (kind : ProviderStreamKind) (frames : ℕ → Acquired) (s : Server) (id : ℕ) : Bool :=
  s.slots[id - 1]?.any fun slot => slot.conn.isAlive && throwsInto kind (frames id) slot.conn

/-- The keys of the map are different, and a session has its handler until it is over. -/
structure IsSessionMap (s : Server) : Prop where
  nodup : s.impl.sessions.Nodup
  positive : ∀ id ∈ s.impl.sessions, 0 < id
  closed : ∀ slot ∈ s.slots, ClosedOnce slot.conn

end Server

section
variable {S : Type} {h : Handlers S} {kind : ProviderStreamKind} {frame : Acquired} {x : Hosted S}

theorem writeFrame_finished (c : Connection) (frame : Option ProviderStreamFrame) :
    (c.writeFrame frame).session.finished = c.session.finished := by
  unfold Connection.writeFrame Connection.waitForStreamFrame
  split
  · split <;> rfl
  · split
    · split <;> rfl
    · rfl

/-- A notification leaves the session open and the server alone, unless the callback throws. -/
theorem notifyStreamFrame_open (hnot : throwsInto kind frame x.conn = false) :
    (notifyStreamFrame h kind frame x).host = x.host ∧
      (notifyStreamFrame h kind frame x).conn.session.finished = x.conn.session.finished := by
  unfold notifyStreamFrame
  split
  · exact ⟨rfl, rfl⟩
  · rename_i hgo
    split
    · exact ⟨rfl, rfl⟩
    · rename_i hwriting
      unfold writeLatestStreamFrame
      split
      · exact ⟨rfl, rfl⟩
      · split
        · exact ⟨rfl, writeFrame_finished _ _⟩
        · rename_i hinitial
          split
          · change x.conn.session.initialStreamFrame = none at hinitial
            simp only [Bool.or_eq_true, Bool.not_eq_eq_eq_not, Bool.not_true, bne_iff_ne, ne_eq,
              not_or, Bool.not_eq_true, Bool.not_eq_false, not_not] at hgo
            simp [throwsInto, hgo.1.1, hgo.1.2, hgo.2, hwriting, hinitial] at hnot
            cases hnot
          · exact ⟨rfl, writeFrame_finished _ _⟩

theorem notifyStreamFrame_thrown (hclosed : ClosedOnce x.conn)
    (hthrows : throwsInto kind frame x.conn = true) :
    (notifyStreamFrame h kind frame x).host = h.closedHandler true x.host := by
  simp only [throwsInto, Bool.and_eq_true, Bool.not_eq_eq_eq_not, Bool.not_true, beq_iff_eq,
    Option.isNone_iff_eq_none] at hthrows
  obtain ⟨⟨⟨⟨⟨hopen, hstreaming⟩, rfl⟩, hwriting⟩, hinitial⟩, hframe⟩ := hthrows
  have hhandler := hclosed.handler
  cases frame with
  | ok frame => cases hframe
  | error e =>
    rw [hopen] at hhandler
    simp [notifyStreamFrame, writeLatestStreamFrame, cancelSession, Hosted.update, Connection.cancelTimer,
      Connection.fetch, hopen, hstreaming, hwriting, hinitial, hhandler]

end

namespace Server
variable {setup : ServerSetup} {kind : ProviderStreamKind} {frames : ℕ → Acquired} {s : Server} {id : ℕ}

theorem notifyOne_held (setup : ServerSetup) (kind : ProviderStreamKind) (frames : ℕ → Acquired)
    (hheld : s.isHeld id = true) : ∃ slot, s.slots[id - 1]? = some slot ∧
    slot.conn.isAlive = true ∧
    s.notifyOne setup kind frames id =
      { s with
        impl := (notifyStreamFrame (sessionHandlers setup id) kind (frames id) ⟨slot.conn, s.impl⟩).host
        slots := s.slots.set (id - 1) { slot with
          conn := (notifyStreamFrame (sessionHandlers setup id) kind (frames id)
            ⟨slot.conn, s.impl⟩).conn } } := by
  obtain ⟨slot, hslot, halive⟩ := (Option.any_eq_true _ _).mp hheld
  refine ⟨slot, hslot, halive, ?_⟩
  rw [notifyOne, if_pos hheld, withSession, hslot]
  rfl

theorem notifyOne_expired (hheld : s.isHeld id = false) : s.notifyOne setup kind frames id =
    { s with impl := { s.impl with sessions := s.impl.sessions.filter (· ≠ id) } } := by
  rw [notifyOne, if_neg (by rw [hheld]; exact Bool.false_ne_true)]

/-- The other sessions are left alone. -/
theorem notifyOne_slots {other : ℕ} (hid : 0 < id) (hother : 0 < other) (hne : other ≠ id) :
    (s.notifyOne setup kind frames id).slots[other - 1]? = s.slots[other - 1]? := by
  cases hheld : s.isHeld id with
  | true =>
    obtain ⟨slot, hslot, -, heq⟩ := notifyOne_held setup kind frames hheld
    rw [heq]
    exact List.getElem?_set_ne (by omega)
  | false => rw [notifyOne_expired hheld]

theorem notifyOne_open (setup : ServerSetup) (hheld : s.isHeld id = true) (hnot : isThrownInto kind frames s id = false) :
    (s.notifyOne setup kind frames id).impl.sessions = s.impl.sessions ∧
      (s.notifyOne setup kind frames id).isFinished id = s.isFinished id := by
  obtain ⟨slot, hslot, halive, heq⟩ := notifyOne_held setup kind frames hheld
  have hquiet : throwsInto kind (frames id) slot.conn = false := by
    simpa [isThrownInto, hslot, halive] using hnot
  obtain ⟨hhost, hfinished⟩ := notifyStreamFrame_open (h := sessionHandlers setup id)
    (x := ⟨slot.conn, s.impl⟩) hquiet
  have hbound := (List.getElem?_eq_some_iff.mp hslot).1
  rw [heq]
  constructor
  · rw [hhost]
  · simp only [isFinished]
    rw [List.getElem?_set_self hbound, hslot]
    exact hfinished

theorem notifyOne_thrown (setup : ServerSetup) (hclosed : ∀ slot, s.slots[id - 1]? = some slot → ClosedOnce slot.conn)
    (hthrown : isThrownInto kind frames s id = true) :
    s.isHeld id = true ∧ id ∉ (s.notifyOne setup kind frames id).impl.sessions := by
  obtain ⟨slot, hslot, hthrows⟩ := (Option.any_eq_true _ _).mp hthrown
  obtain ⟨halive, hthrows⟩ := Bool.and_eq_true_iff.mp hthrows
  have hheld : s.isHeld id = true := by
    rw [isHeld, hslot]
    exact halive
  obtain ⟨slot', hslot', -, heq⟩ := notifyOne_held setup kind frames hheld
  cases hslot.symm.trans hslot'
  have hhost := notifyStreamFrame_thrown (h := sessionHandlers setup id) (x := ⟨slot.conn, s.impl⟩)
    (hclosed slot hslot) hthrows
  refine ⟨hheld, ?_⟩
  rw [heq]
  dsimp only
  rw [hhost]
  simp [sessionHandlers, ServerImpl.closeSession]

theorem nextEntry_append {done rest : List ℕ} (hnodup : (done ++ id :: rest).Nodup) :
    nextEntry (done ++ id :: rest) id = rest.head? := by
  have hdone : ∀ other ∈ done, decide (other ≠ id) = true := by
    intro other hother
    have hne := (List.nodup_append.mp hnodup).2.2 other hother id List.mem_cons_self
    simpa using hne
  rw [nextEntry, List.dropWhile_append_of_pos hdone]
  simp

/-- The sweep over the rest of the map, from its first entry. -/
theorem sweepFrom_rest {fuel : ℕ} {done rest visited : List ℕ}
    (hsessions : s.impl.sessions = done ++ rest) (hnodup : (done ++ rest).Nodup)
    (hpositive : ∀ id ∈ rest, 0 < id) (hfuel : rest.length ≤ fuel)
    (hclosed : ∀ id ∈ rest, ∀ slot, s.slots[id - 1]? = some slot → ClosedOnce slot.conn) :
    sweepFrom setup kind frames fuel s rest.head? visited =
      if rest.any (isThrownInto kind frames s) then .error .erasedIterator
      else .ok (rest.foldl (notifyOne setup kind frames) s, visited ++ rest.filter s.isHeld) := by
  induction rest generalizing s fuel done visited with
  | nil => simp [sweepFrom]
  | cons id rest ih =>
    cases fuel with
    | zero => cases hfuel
    | succ fuel =>
      have hid := hpositive id List.mem_cons_self
      have hmem : id ∈ s.impl.sessions := by
        rw [hsessions]
        simp
      have hrest : ∀ other ∈ rest, 0 < other ∧ other ≠ id := by
        intro other hother
        have hne := (List.nodup_cons.mp (List.nodup_append.mp hnodup).2.1).1
        refine ⟨hpositive other (List.mem_cons_of_mem id hother), ?_⟩
        rintro rfl
        exact hne hother
      have hslots : ∀ other ∈ rest, (s.notifyOne setup kind frames id).slots[other - 1]? =
          s.slots[other - 1]? := fun other hother =>
        notifyOne_slots hid (hrest other hother).1 (hrest other hother).2
      -- what is known of the rest is not changed by the notification
      have hthrown : rest.any (isThrownInto kind frames (s.notifyOne setup kind frames id)) =
          rest.any (isThrownInto kind frames s) := by
        have hsame : ∀ other ∈ rest, isThrownInto kind frames (s.notifyOne setup kind frames id) other =
            isThrownInto kind frames s other := by
          intro other hother
          rw [isThrownInto, isThrownInto, hslots other hother]
        rw [Bool.eq_iff_iff, List.any_eq_true, List.any_eq_true]
        constructor
        · rintro ⟨other, hother, hthrows⟩
          exact ⟨other, hother, hsame other hother ▸ hthrows⟩
        · rintro ⟨other, hother, hthrows⟩
          exact ⟨other, hother, (hsame other hother).symm ▸ hthrows⟩
      have hheldRest : rest.filter (s.notifyOne setup kind frames id).isHeld = rest.filter s.isHeld := by
        apply List.filter_congr
        intro other hother
        rw [isHeld, isHeld, hslots other hother]
      have hclosedRest : ∀ other ∈ rest, ∀ slot,
          (s.notifyOne setup kind frames id).slots[other - 1]? = some slot → ClosedOnce slot.conn := by
        intro other hother slot hslot
        rw [hslots other hother] at hslot
        exact hclosed other (List.mem_cons_of_mem id hother) slot hslot
      have hnext : nextEntry s.impl.sessions id = rest.head? := by
        rw [hsessions]
        exact nextEntry_append hnodup
      rw [List.head?_cons, sweepFrom, if_neg (not_not.mpr hmem), List.any_cons, List.foldl_cons]
      cases hheld : s.isHeld id with
      | true =>
        rw [if_pos rfl, List.filter_cons_of_pos hheld]
        cases hthrows : isThrownInto kind frames s id with
        | true =>
          have hgone := (notifyOne_thrown setup (hclosed id List.mem_cons_self) hthrows).2
          rw [if_pos hgone]
          rfl
        | false =>
          have hsame := (notifyOne_open setup hheld hthrows).1
          have hkept : (s.notifyOne setup kind frames id).impl.sessions = (done ++ [id]) ++ rest := by
            rw [hsame, hsessions, List.append_assoc]
            rfl
          rw [if_neg (by rw [hsame]; exact not_not.mpr hmem), hsame, hnext, Bool.false_or,
            ih hkept (by simpa using hnodup)
              (fun other hother => (hrest other hother).1) (Nat.le_of_succ_le_succ hfuel) hclosedRest,
            hthrown, hheldRest, List.append_assoc]
          rfl
      | false =>
        have hquiet : isThrownInto kind frames s id = false := by
          cases hthrows : isThrownInto kind frames s id with
          | false => rfl
          | true =>
            have hheld' := (notifyOne_thrown setup (hclosed id List.mem_cons_self) hthrows).1
            cases hheld.symm.trans hheld'
        have hremoved : (s.notifyOne setup kind frames id).impl.sessions = done ++ rest := by
          have hdone : ∀ other ∈ done, decide (other ≠ id) = true := by
            intro other hother
            simpa using (List.nodup_append.mp hnodup).2.2 other hother id List.mem_cons_self
          rw [notifyOne_expired hheld]
          show s.impl.sessions.filter _ = _
          rw [hsessions, List.filter_append, List.filter_cons_of_neg (by simp),
            List.filter_eq_self.mpr hdone,
            List.filter_eq_self.mpr fun other hother => by simpa using (hrest other hother).2]
        rw [if_neg Bool.false_ne_true, List.filter_cons_of_neg (by rw [hheld]; exact Bool.false_ne_true),
          hnext, hquiet, Bool.false_or, ih hremoved (hnodup.sublist (by simp))
            (fun other hother => (hrest other hother).1) (Nat.le_of_succ_le_succ hfuel) hclosedRest,
          hthrown, hheldRest]

/-- The sweep is a fault if the callback throws into a session, and else notifies the held ones. -/
theorem sweep_eq (h : IsSessionMap s) : s.sweep setup kind frames =
    if s.impl.sessions.any (isThrownInto kind frames s) then .error .erasedIterator
    else .ok (s.notifySessions setup kind frames, s.impl.sessions.filter s.isHeld) := by
  have hclosed : ∀ id ∈ s.impl.sessions, ∀ slot, s.slots[id - 1]? = some slot → ClosedOnce slot.conn :=
    fun id _ slot hslot => h.closed slot (List.mem_of_getElem? hslot)
  exact sweepFrom_rest (List.nil_append _).symm h.nodup h.positive le_rfl hclosed

theorem foldl_notifyOne_slots {ids : List ℕ} {other : ℕ} (hpositive : ∀ id ∈ ids, 0 < id)
    (hother : 0 < other) (hne : other ∉ ids) :
    (ids.foldl (notifyOne setup kind frames) s).slots[other - 1]? = s.slots[other - 1]? := by
  induction ids generalizing s with
  | nil => rfl
  | cons id rest ih =>
    rw [List.mem_cons, not_or] at hne
    rw [List.foldl_cons, ih (fun i hi => hpositive i (List.mem_cons_of_mem id hi)) hne.2]
    exact notifyOne_slots (hpositive id List.mem_cons_self) hother hne.1

/-- The entries that a quiet sweep leaves are the old ones, but for the expired. -/
theorem mem_foldl_notifyOne {ids : List ℕ} (hpositive : ∀ id ∈ ids, 0 < id) (hnodup : ids.Nodup)
    (hquiet : ∀ id ∈ ids, isThrownInto kind frames s id = false) {id : ℕ} :
    id ∈ (ids.foldl (notifyOne setup kind frames) s).impl.sessions ↔
      id ∈ s.impl.sessions ∧ (id ∈ ids → s.isHeld id = true) := by
  induction ids generalizing s with
  | nil => simp
  | cons first rest ih =>
    obtain ⟨hfirst, hrest⟩ := List.nodup_cons.mp hnodup
    have hslots : ∀ other ∈ rest, (s.notifyOne setup kind frames first).slots[other - 1]? =
        s.slots[other - 1]? := by
      intro other hother
      apply notifyOne_slots (hpositive first List.mem_cons_self)
      · exact hpositive other (List.mem_cons_of_mem first hother)
      · rintro rfl
        exact hfirst hother
    have hquietRest : ∀ other ∈ rest,
        isThrownInto kind frames (s.notifyOne setup kind frames first) other = false := by
      intro other hother
      rw [isThrownInto, hslots other hother]
      exact hquiet other (List.mem_cons_of_mem first hother)
    have hheldRest : id ∈ rest → (s.notifyOne setup kind frames first).isHeld id = s.isHeld id := by
      intro hmem
      rw [isHeld, isHeld, hslots id hmem]
    rw [List.foldl_cons, ih (fun i hi => hpositive i (List.mem_cons_of_mem first hi)) hrest hquietRest]
    cases hheld : s.isHeld first with
    | true =>
      rw [(notifyOne_open setup hheld (hquiet first List.mem_cons_self)).1]
      constructor
      · rintro ⟨hmem, himp⟩
        refine ⟨hmem, fun hids => ?_⟩
        rcases List.mem_cons.mp hids with rfl | hids
        · exact hheld
        · exact hheldRest hids ▸ himp hids
      · rintro ⟨hmem, himp⟩
        exact ⟨hmem, fun hids => (hheldRest hids).symm ▸ himp (List.mem_cons_of_mem first hids)⟩
    | false =>
      have hsessions : id ∈ (s.notifyOne setup kind frames first).impl.sessions ↔
          id ∈ s.impl.sessions ∧ id ≠ first := by
        rw [notifyOne_expired hheld]
        simp
      rw [hsessions]
      constructor
      · rintro ⟨⟨hmem, hne⟩, himp⟩
        refine ⟨hmem, fun hids => ?_⟩
        rcases List.mem_cons.mp hids with rfl | hids
        · exact absurd rfl hne
        · exact hheldRest hids ▸ himp hids
      · rintro ⟨hmem, himp⟩
        refine ⟨⟨hmem, ?_⟩, fun hids => (hheldRest hids).symm ▸ himp (List.mem_cons_of_mem first hids)⟩
        rintro rfl
        cases hheld.symm.trans (himp List.mem_cons_self)

/-- A quiet sweep closes no session. -/
theorem isFinished_foldl_notifyOne (setup : ServerSetup) {ids : List ℕ} (hpositive : ∀ id ∈ ids, 0 < id) (hnodup : ids.Nodup)
    (hquiet : ∀ id ∈ ids, isThrownInto kind frames s id = false) {id : ℕ} (hid : id ∈ ids) :
    (ids.foldl (notifyOne setup kind frames) s).isFinished id = s.isFinished id := by
  induction ids generalizing s with
  | nil => cases hid
  | cons first rest ih =>
    obtain ⟨hfirst, hrest⟩ := List.nodup_cons.mp hnodup
    have hpositiveFirst := hpositive first List.mem_cons_self
    have hpositiveRest := fun i hi => hpositive i (List.mem_cons_of_mem first hi)
    rw [List.foldl_cons]
    rcases List.mem_cons.mp hid with rfl | hmem
    · rw [isFinished, foldl_notifyOne_slots hpositiveRest hpositiveFirst hfirst]
      cases hheld : s.isHeld id with
      | true => exact (notifyOne_open setup hheld (hquiet id List.mem_cons_self)).2
      | false => rw [notifyOne_expired hheld, isFinished]
    · have hslots : ∀ other ∈ rest, (s.notifyOne setup kind frames first).slots[other - 1]? =
          s.slots[other - 1]? := by
        intro other hother
        apply notifyOne_slots hpositiveFirst (hpositiveRest other hother)
        rintro rfl
        exact hfirst hother
      rw [ih hpositiveRest hrest _ hmem, isFinished, isFinished, hslots id hmem]
      intro other hother
      rw [isThrownInto, hslots other hother]
      exact hquiet other (List.mem_cons_of_mem first hother)

end Server

end NodusVision.Provider
