import Mathlib.Data.List.Forall2
import NodusVision.Provider.Stages

/-! The waits of the idle timer, and what happened since each of them was armed. -/
namespace NodusVision.Provider
open Text Recording Transition

/-- A notification that the session acts on. -/
def isProcessed (c : Connection) : SessionEvent → Bool
  | .notify kind => !c.session.finished && c.session.streaming && kind == c.session.streamKind
  | _ => false

/-- The handler of an expired wait closed the session. -/
def closesByTimer (c : Connection) (e : SessionEvent) (d : Connection) : Bool :=
  match e with
  | .waited .expired => !c.session.finished && d.session.finished
  | _ => false

/-- A session, for each of its waits whether a notification was processed or a write was started since
it was armed, and whether such a wait closed the session. -/
structure Timed (S : Type) where
  hosted : Hosted S
  superseded : List Bool := []
  closedStale : Bool := false

section
variable {S : Type} (h : Handlers S) (setup : SessionSetup)

namespace Timed

/-- What is known of the outstanding waits, once the handler of one of them runs. -/
def remaining (t : Timed S) : SessionEvent → List Bool
  | .waited wait => t.superseded.eraseIdx (t.hosted.conn.waits.idxOf wait)
  | _ => t.superseded

def supersedes (c : Connection) (e : SessionEvent) (d : Connection) : Bool :=
  isProcessed c e || decide (c.started.length < d.started.length)

def observe (t : Timed S) (e : SessionEvent) (y : Hosted S) : Timed S where
  hosted := y
  superseded :=
    (t.remaining e).map (fun superseded => superseded || supersedes t.hosted.conn e y.conn) ++
      List.replicate (y.conn.waits.length - (t.remaining e).length) false
  closedStale := t.closedStale || closesByTimer t.hosted.conn e y.conn &&
    t.superseded.getD (t.hosted.conn.waits.idxOf .expired) true

def step (t : Timed S) (e : Provided × SessionEvent) : Option (Timed S) :=
  (sessionStep h setup e.1 t.hosted e.2).map (t.observe e.2)

/-- A session that was just accepted. -/
def IsAccepted (t : Timed S) : Prop := ∃ host, t = { hosted := ⟨{}, host⟩ }

end Timed

end

/-- The waits are over, and only their handlers are to run. -/
def Quiet (waits : List Wait) : Prop := ∀ w ∈ waits, w = .cancelled

theorem Quiet.cancel {waits : List Wait} (h : Quiet waits) : waits.map Wait.cancel = waits := by
  have hsame : waits.map Wait.cancel = waits.map id := by
    apply List.map_congr_left
    intro w hw
    rw [h w hw]
    rfl
  rw [hsame, List.map_id]

theorem quiet_cancel {waits : List Wait} (h : .expired ∉ waits) : Quiet (waits.map Wait.cancel) := by
  intro w hw
  obtain ⟨v, hv, rfl⟩ := List.mem_map.mp hw
  cases v with
  | armed => rfl
  | expired => exact absurd hv h
  | cancelled => rfl

/-- A wait that is not over was not superseded. -/
def Fresh (wait : Wait) (superseded : Bool) : Prop := wait = .cancelled ∨ superseded = false

theorem fresh_of_quiet {waits : List Wait} {flags : List Bool} (h : Quiet waits)
    (hlength : waits.length = flags.length) : List.Forall₂ Fresh waits flags := by
  induction waits generalizing flags with
  | nil =>
    rw [List.eq_nil_of_length_eq_zero hlength.symm]
    exact .nil
  | cons w rest ih =>
    cases flags with
    | nil => cases hlength
    | cons flag flags =>
      apply List.Forall₂.cons
      · exact .inl (h w List.mem_cons_self)
      · exact ih (fun v hv => h v (List.mem_cons_of_mem w hv)) (Nat.succ.inj hlength)

theorem fresh_map {waits : List Wait} {flags : List Bool} (f : Wait → Wait)
    (hf : f .cancelled = .cancelled) (h : List.Forall₂ Fresh waits flags) :
    List.Forall₂ Fresh (waits.map f) flags := by
  rw [List.forall₂_map_left_iff]
  apply h.imp
  rintro w flag (rfl | hflag)
  · exact .inl hf
  · exact .inr hflag

theorem fresh_erase {waits : List Wait} {flags : List Bool} (w : Wait)
    (h : List.Forall₂ Fresh waits flags) :
    List.Forall₂ Fresh (waits.erase w) (flags.eraseIdx (waits.idxOf w)) := by
  induction h with
  | nil => exact .nil
  | @cons v flag rest flags hfirst hrest ih =>
    by_cases hw : v = w
    · subst hw
      rw [List.erase_cons_head, List.idxOf_cons_self]
      exact hrest
    · rw [List.erase_cons_tail (by simpa using hw), List.idxOf_cons_ne _ hw]
      exact .cons hfirst ih

theorem fresh_expired {waits : List Wait} {flags : List Bool} (h : List.Forall₂ Fresh waits flags)
    (hw : .expired ∈ waits) : flags.getD (waits.idxOf .expired) true = false := by
  induction h with
  | nil => cases hw
  | @cons v flag rest flags hfirst hrest ih =>
    by_cases hv : v = .expired
    · subst hv
      rw [List.idxOf_cons_self]
      rcases hfirst with hfirst | hfirst
      · cases hfirst
      · exact hfirst
    · rw [List.idxOf_cons_ne _ hv]
      rcases List.mem_cons.mp hw with hw | hw
      · exact absurd hw.symm hv
      · exact ih hw

/-- All but the last of the waits are over, and the session waits for the last one. -/
inductive Settles (n : ℕ) (c : Connection) : Prop
  | quiet (hq : Quiet c.waits) (hn : c.waits.length = n)
  | armed (old : List Wait) (hq : Quiet old) (hn : old.length = n) (hw : c.waits = old ++ [.armed])
      (hb : c.session.writeInProgress = false) (hm : c.session.streaming = true)

namespace Settles
variable {n : ℕ} {c : Connection} {S : Type} {h : Handlers S} {setup : SessionSetup}

theorem waitForStreamFrame (hq : Quiet c.waits) (hn : c.waits.length = n)
    (hb : c.session.writeInProgress = false) (hm : c.session.streaming = true) :
    Settles n c.waitForStreamFrame := by
  unfold Connection.waitForStreamFrame
  split
  · exact .quiet hq hn
  · refine .armed c.waits hq hn ?_ hb hm
    simp only [Connection.cancelTimer, hq.cancel]

theorem writeFrame (hq : Quiet c.waits) (hn : c.waits.length = n)
    (hb : c.session.writeInProgress = false) (hm : c.session.streaming = true)
    (frame : Option ProviderStreamFrame) : Settles n (c.writeFrame frame) := by
  unfold Connection.writeFrame
  split
  · exact waitForStreamFrame hq hn hb hm
  · split
    · exact waitForStreamFrame hq hn hb hm
    · exact .quiet hq hn

theorem cancelSession {x : Hosted S} (hq : Quiet x.conn.waits) (hn : x.conn.waits.length = n) :
    Settles n (cancelSession h x).conn := by
  have hwaits : (Provider.cancelSession h x).conn.waits = x.conn.waits := by
    unfold Provider.cancelSession
    split
    · rfl
    · simp only
      split
      · exact hq.cancel
      · exact hq.cancel
  exact .quiet (hwaits ▸ hq) (hwaits ▸ hn)

theorem writeLatestStreamFrame {x : Hosted S} (hq : Quiet x.conn.waits) (hn : x.conn.waits.length = n)
    (hb : x.conn.session.writeInProgress = false) (hm : x.conn.session.streaming = true)
    (frame : Acquired) : Settles n (writeLatestStreamFrame h frame x).conn := by
  unfold Provider.writeLatestStreamFrame
  split
  · exact .quiet hq hn
  · split
    · exact writeFrame (c := { x.conn with session := { x.conn.session with initialStreamFrame := none } })
        hq hn hb hm _
    · split
      · exact cancelSession (x := x.update Connection.fetch) hq hn
      · exact writeFrame (c := x.conn.fetch) hq hn hb hm _

theorem startStream {x : Hosted S} (hq : Quiet x.conn.waits) (hn : x.conn.waits.length = n)
    (kind : ProviderStreamKind) (version : ℕ) (frame : Acquired) :
    Settles n (startStream h setup kind version frame x).conn := by
  unfold Provider.startStream
  split
  · exact .quiet hq hn
  · split
    · exact .quiet hq hn
    · split
      · exact .quiet hq hn
      · simp only
        split
        · exact .quiet hq hn
        · exact .quiet hq hn

theorem handleRead {x : Hosted S} (hq : Quiet x.conn.waits) (hn : x.conn.waits.length = n)
    (request : Option HttpRequest) (provided : Provided) :
    Settles n (handleRead h setup request provided x).conn := by
  unfold Provider.handleRead
  cases request with
  | none => exact cancelSession hq hn
  | some request =>
    have hx : ∀ c, c = (x.update fun c =>
        if isOriginDenied setup request then c
        else { c with session := { c.session with
          allowedOrigin := request.origin.getD c.session.allowedOrigin } }).conn →
        Quiet c.waits ∧ c.waits.length = n := by
      rintro c rfl
      simp only [Hosted.update]
      split
      · exact ⟨hq, hn⟩
      · exact ⟨hq, hn⟩
    obtain ⟨hq, hn⟩ := hx _ rfl
    simp only
    split
    · exact .quiet hq hn
    · exact .quiet hq hn
    · exact startStream hq hn _ _ _
    · split
      · exact .quiet hq hn
      · exact .quiet hq hn

theorem handleWritten {x : Hosted S} (hq : Quiet x.conn.waits) (hn : x.conn.waits.length = n)
    {write : Write} (hm : write.identity.isSome = true ∨ (∃ m, write = .header m) →
      x.conn.session.streaming = true) (failed : Bool) (frame : Acquired) :
    Settles n (handleWritten h write failed frame x).conn := by
  unfold Provider.handleWritten
  cases write with
  | response m => exact cancelSession hq hn
  | header m =>
    have hm := hm (.inr ⟨m, rfl⟩)
    simp only [handleStreamHeaderWritten]
    split
    · exact cancelSession hq hn
    · apply writeLatestStreamFrame
      · exact hq
      · exact hn
      · rfl
      · exact hm
  | part identity bytes =>
    have hm := hm (.inl rfl)
    simp only [handleStreamPartWritten]
    split
    · exact cancelSession hq hn
    · split
      · apply writeLatestStreamFrame
        · exact hq
        · exact hn
        · rfl
        · exact hm
      · apply waitForStreamFrame
        · exact hq
        · exact hn
        · rfl
        · exact hm

end Settles

end NodusVision.Provider
