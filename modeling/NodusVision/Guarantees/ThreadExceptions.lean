import NodusVision.Application.Threads

/-! Exceptions stay inside the threads of the application and of the recorder, as long as the
accessors that the encoder calls return. -/
namespace NodusVision.Guarantees
open Text Provider Pilot Program Transition Application
open Recording (FrameIdentity VideoFrameView)
open Storage (Exception)
open ThreadOp (call)

/-- The call threw. -/
def Throws {α : Type} (r : Except Exception α) : Prop := ∃ e, r = .error e

/-- The answer of the call is an exception. -/
def CallFails : (o : ThreadOp) → o.Res → Prop
  | .frameView _ _, r => Throws r
  | .encodeRgbJpeg _ _, r => Throws r
  | .readFrame, r => Throws r
  | .takeFrame, r => Throws r
  | .checkFrame _ _, r => Throws r
  | .writeFrame _, r => Throws r
  | .notifyStreamFrame _, r => Throws r
  | .requireFinalizeWithinDeadline, r => Throws r
  | .appendFrame _ _, r => Throws r
  | .finalizeStage _, r => Throws r
  | _, _ => False

/-- The kind of preview that a call of the encoder is for. -/
def previewKind : ThreadOp → Option PreviewKind
  | .frameView kind _ | .encodeRgbJpeg kind _ | .notifyStreamFrame kind => some kind
  | _ => none

/-- After the failed call, the second one neither stores a frame nor touches the previews, but
that the encoder goes on to the other kind of preview. -/
def LeavesAlone (failed : ThreadOp) : ThreadOp → Prop
  | .publishFrame _ | .invalidateGeneration _ => False
  | .publishPreview kind _ => ∃ other, previewKind failed = some other ∧ other ≠ kind
  | _ => True

/-- What is left of a pass after a failed call leaves frames and previews alone. -/
def FailsQuietly {L : Type} (o : ThreadOp) (r : o.Res) (p : ThreadProg L) : Prop :=
  CallFails o r → p.Uses (LeavesAlone o) (fun _ => True) fun _ => True

/-- A failed call of the thread, and what is left of its pass, leave frames and previews alone. -/
def Undisturbed {L : Type} (setup : ThreadSetup) (p : Thread ThreadOp.Res Exception L)
    (body : L → ThreadProg (Option L)) (s : ThreadWorld) : Prop :=
  ∀ c o, p.next = some o → CallFails o (s.exec setup o c).1 →
    (p.step (ThreadWorld.exec setup) body c s).2.store = s.store ∧
    (p.step (ThreadWorld.exec setup) body c s).2.cache = s.cache ∧
    (p.step (ThreadWorld.exec setup) body c s).1.pass.Uses (LeavesAlone o) (fun _ => True)
      fun _ => True

/-- No exception has left a thread; the loops of the encoder and of the capture thread are left
on a requested stop only, and each of their passes ends; a failed call disturbs nothing. -/
structure Contained (setup : ThreadSetup) (s : Threads) : Prop where
  encoder : s.encoder.isTerminated = false
  capture : s.capture.isTerminated = false
  recorder : s.recorder.isTerminated = false
  encodes : s.encoder = .returned → s.world.stopRequested = true
  captures : s.capture = .returned → s.world.stopRequested = true
  passes : s.encoder.pass.Within 14 ∧ s.capture.pass.Within 14 ∧ s.recorder.pass.Within 14
  encoderFails : Undisturbed setup s.encoder encoderPass s.world
  captureFails : Undisturbed setup s.capture capturePass s.world
  recorderFails : Undisturbed setup s.recorder recorderPass s.world

/-- The encoder thread meets no accessor that throws. -/
def viewsReturn (s : Threads) (event : Threads.Event) (_ : Threads) : Prop :=
  ∀ c kind frame, event = .encoder c → s.encoder.next = some (.frameView kind frame) →
    ¬ Throws c.view

section Calls
variable {setup : ThreadSetup}

theorem exec_stopRequested (o : ThreadOp) (c : ThreadChoice) (s : ThreadWorld) :
    (s.exec setup o c).2.stopRequested = s.stopRequested := by
  cases o with
  | trySubmitFrame frame => cases frame <;> rfl
  | updateProviderState state =>
    simp only [ThreadWorld.exec]
    split <;> rfl
  | _ => rfl

/-- A call that fails stores no frame and touches no preview. -/
theorem exec_fails {o : ThreadOp} {c : ThreadChoice} {s : ThreadWorld}
    (h : CallFails o (s.exec setup o c).1) :
    (s.exec setup o c).2.store = s.store ∧ (s.exec setup o c).2.cache = s.cache := by
  cases o with
  | publishFrame frame => exact h.elim
  | publishPreview kind preview => exact h.elim
  | invalidateGeneration captureGeneration => exact h.elim
  | trySubmitFrame frame => exact h.elim
  | updateProviderState state => exact h.elim
  | _ => exact ⟨rfl, rfl⟩

theorem undisturbed {L : Type} {p : Thread ThreadOp.Res Exception L}
    {body : L → ThreadProg (Option L)} (h : p.pass.Continues FailsQuietly) (s : ThreadWorld) :
    Undisturbed setup p body s := by
  intro c o ho hfails
  cases p with
  | returned => cases ho
  | terminated e => cases ho
  | running p =>
    cases p with
    | pure next => cases ho
    | throw e => cases ho
    | op o' k =>
      cases ho
      obtain ⟨hstore, hcache⟩ := exec_fails hfails
      exact ⟨hstore, hcache, (h _).1 hfails⟩

/-- The flag of the application stays up once it is up. -/
def stopKept : Interference ThreadWorld where
  rely s t := s.stopRequested = true → t.stopRequested = true
  guar s t := s.stopRequested = true → t.stopRequested = true
  rely_refl _ := id
  rely_trans h k := k ∘ h

theorem guar_exec (o : ThreadOp) (c : ThreadChoice) (s : ThreadWorld) :
    stopKept.guar s (s.exec setup o c).2 := by
  intro h
  rw [exec_stopRequested]
  exact h

end Calls

/-- The environment lets the accessor return. -/
def ViewReturns (c : ThreadChoice) : Prop := ∃ view, c.view = .ok view

def anyChoice (_ : ThreadChoice) : Prop := True

def stopIsRequested (s : ThreadWorld) : Prop := s.stopRequested = true

def anyWorld (_ : ThreadWorld) : Prop := True

/-- A pass that no exception leaves, and that leaves the loop in `leaves` only. -/
abbrev PassSafe {L : Type} (setup : ThreadSetup) (admits : ThreadChoice → Prop)
    (leaves : ThreadWorld → Prop) (p : ThreadProg (Option L)) (s : ThreadWorld) : Prop :=
  p.Safe (ThreadWorld.exec setup) stopKept admits (fun next t => next = none → leaves t)
    (fun _ _ => False) s

section Passes
variable {setup : ThreadSetup}

theorem encodePreview_uses (kind : PreviewKind) (view : Option VideoFrameView) :
    (encodePreview kind view).Uses (fun _ => True) (fun _ => True) fun _ => False := by
  cases view with
  | none => trivial
  | some view =>
    apply (Prog.uses_any _).tryCatch
    intro e _
    exact ⟨trivial, fun _ => trivial⟩

theorem encoderPass_safe (locals : FrameIdentity) (s : ThreadWorld) :
    PassSafe setup ViewReturns stopIsRequested (encoderPass locals) s := by
  have hany : ∀ (kind : PreviewKind) (view : Option VideoFrameView)
      (rest : ThreadProg (Option FrameIdentity)),
      (∀ s, PassSafe setup ViewReturns stopIsRequested rest s) →
      ∀ s, PassSafe setup ViewReturns stopIsRequested
        ((encodePreview kind view).bind fun _ => rest) s := by
    intro kind view rest hrest s
    apply Prog.Safe.bind
    apply (encodePreview_uses kind view).safe guar_exec
    · intro _ _ t
      exact hrest t
    · intro e he
      exact he.elim
  intro t _ c _
  constructor
  · exact guar_exec _ _ _
  cases hstop : t.stopRequested with
  | true =>
    simp only [ThreadWorld.exec, hstop]
    intro u hu _
    exact hu hstop
  | false =>
    simp only [ThreadWorld.exec, hstop]
    intro t _ c _
    constructor
    · exact guar_exec _ _ _
    generalize (t.exec setup (.waitForFrameAfter locals) c).1 = latest
    cases latest with
    | none => exact fun u _ hnext => nomatch hnext
    | some frame =>
      intro t _ c _
      constructor
      · exact guar_exec _ _ _
      intro t _ c hc
      constructor
      · exact guar_exec _ _ _
      obtain ⟨color, hcolor⟩ := hc
      show PassSafe setup _ _ ((Prog.ofExcept c.view).bind _) t
      rw [hcolor]
      apply hany
      intro t t' _ c hc
      constructor
      · exact guar_exec _ _ _
      obtain ⟨depth, hdepth⟩ := hc
      show PassSafe setup _ _ ((Prog.ofExcept c.view).bind _) t'
      rw [hdepth]
      apply hany
      exact fun s t _ hnext => nomatch hnext

/-- The handler of the capture thread goes on with the next pass. -/
theorem captureHandler_uses :
    captureHandler.Uses (fun _ => True) (fun next => next = some ()) fun _ => False := by
  constructor
  · trivial
  intro (stopped : Bool)
  cases stopped with
  | true => exact rfl
  | false =>
    constructor
    · trivial
    intro _
    constructor
    · trivial
    intro (degraded : Bool)
    cases degraded with
    | true => exact ⟨trivial, fun _ => rfl⟩
    | false => exact rfl

theorem capturePass_safe (locals : Unit) (s : ThreadWorld) :
    PassSafe setup anyChoice stopIsRequested (capturePass locals) s := by
  intro t _ c _
  constructor
  · exact guar_exec _ _ _
  cases hstop : t.stopRequested with
  | true =>
    simp only [ThreadWorld.exec, hstop]
    intro u hu _
    exact hu hstop
  | false =>
    simp only [ThreadWorld.exec, hstop]
    have hbody : (do
        let frame ← call .readFrame >>= Prog.ofExcept
        call (.publishFrame frame)
        call (.trySubmitFrame frame)
        return some () : ThreadProg (Option Unit)).Uses
        (fun _ => True) (fun next => next = some ()) fun _ => True := by
      constructor
      · trivial
      intro (frame : Except Exception (Option CapturedFrame))
      cases frame with
      | error e => trivial
      | ok frame => exact ⟨trivial, fun _ => ⟨trivial, fun _ => rfl⟩⟩
    apply (hbody.tryCatch fun _ _ => captureHandler_uses).safe guar_exec
    · intro next hnext u hnone
      rw [hnext] at hnone
      cases hnone
    · intro e he
      exact he.elim

theorem recorderPass_uses (locals : Unit) :
    (recorderPass locals).Uses (fun _ => True) (fun _ => True) fun _ => False := by
  apply (Prog.uses_any _).tryCatch
  intro e _
  exact ⟨trivial, fun _ => trivial⟩

theorem recorderPass_safe (locals : Unit) (s : ThreadWorld) :
    PassSafe setup anyChoice anyWorld (recorderPass locals) s := by
  apply (recorderPass_uses locals).safe guar_exec
  · intro _ _ u _
    trivial
  · intro e he
    exact he.elim

/-! The length of a pass -/

theorem within_answer {α : Type} (r : Except Exception α) :
    (Prog.ofExcept r : ThreadProg α).Within 0 := by
  cases r <;> trivial

theorem encodePreview_within (kind : PreviewKind) (view : Option VideoFrameView) :
    (encodePreview kind view).Within 4 := by
  cases view with
  | none => trivial
  | some view =>
    have hbody : (do
        let jpeg ← call (.encodeRgbJpeg kind view) >>= Prog.ofExcept
        let stored ← call (.publishPreview kind { identity := view.identity, jpeg })
        if stored then call (.notifyStreamFrame kind) >>= Prog.ofExcept
        else pure () : ThreadProg Unit).Within 3 := by
      apply Prog.Within.bind (m := 1) (n := 2)
      · exact fun r => within_answer r
      · intro jpeg
        apply Prog.within_op
        intro (stored : Bool)
        cases stored with
        | true => exact fun r => within_answer r
        | false => trivial
    exact hbody.tryCatch (n := 1) fun _ => Prog.within_op fun _ => trivial

theorem encoderPass_within (locals : FrameIdentity) : (encoderPass locals).Within 14 := by
  apply Prog.within_op
  intro (stopped : Bool)
  cases stopped with
  | true => trivial
  | false =>
    apply Prog.within_op
    intro (latest : Option CapturedFrame)
    cases latest with
    | none => trivial
    | some frame =>
      apply Prog.within_op
      intro _
      have hdepth (depth : Option VideoFrameView) : ((encodePreview .depth depth).bind fun _ =>
          (.pure (some frame.identity) : ThreadProg (Option FrameIdentity))).Within 4 :=
        (encodePreview_within .depth depth).bind (n := 0) fun _ => trivial
      have hafter : (do
          let depth ← call (.frameView .depth frame) >>= Prog.ofExcept
          encodePreview .depth depth
          return some frame.identity : ThreadProg (Option FrameIdentity)).Within 5 := by
        apply Prog.Within.bind (m := 1) (n := 4)
        · exact fun r => within_answer r
        · exact hdepth
      show (((call (.frameView .color frame)).bind Prog.ofExcept).bind _).Within (1 + 10)
      apply Prog.Within.bind
      · exact fun r => within_answer r
      intro color
      exact ((encodePreview_within .color color).bind fun _ => hafter).mono (by omega)

theorem captureHandler_within : captureHandler.Within 4 := by
  apply Prog.within_op
  intro (stopped : Bool)
  cases stopped with
  | true => trivial
  | false =>
    apply Prog.within_op
    intro _
    apply Prog.within_op
    intro (degraded : Bool)
    cases degraded with
    | true => exact Prog.within_op fun _ => trivial
    | false => trivial

theorem capturePass_within (locals : Unit) : (capturePass locals).Within 14 := by
  apply Prog.within_op
  intro (stopped : Bool)
  cases stopped with
  | true => trivial
  | false =>
    have hbody : (do
        let frame ← call .readFrame >>= Prog.ofExcept
        call (.publishFrame frame)
        call (.trySubmitFrame frame)
        return some () : ThreadProg (Option Unit)).Within 3 := by
      apply Prog.Within.bind (m := 1) (n := 2)
      · exact fun r => within_answer r
      · exact fun frame => Prog.within_op fun _ => Prog.within_op fun _ => trivial
    exact (hbody.tryCatch fun _ => captureHandler_within).mono (by omega)

theorem finalizeArtifacts_within : finalizeArtifacts.Within 12 := by
  have hlate : requireFinalizeWithinDeadline.Within 1 := fun r => within_answer r
  have hstage (stage : FinalizeStage) : (finalizeStage stage).Within 1 := fun r => within_answer r
  apply hlate.bind (n := 11)
  intro _
  apply (hstage _).bind (n := 10)
  intro _
  apply hlate.bind (n := 9)
  intro _
  apply (hstage _).bind (n := 8)
  intro _
  apply hlate.bind (n := 7)
  intro _
  apply (hstage _).bind (n := 6)
  intro _
  apply (hstage _).bind (n := 5)
  intro _
  apply hlate.bind (n := 4)
  intro _
  apply (hstage _).bind (n := 3)
  intro _
  apply hlate.bind (n := 2)
  intro _
  apply (hstage _).bind (n := 1)
  exact fun _ _ => trivial

theorem recorderPass_within (locals : Unit) : (recorderPass locals).Within 14 := by
  apply Prog.Within.tryCatch (m := 13) (n := 1)
  · apply Prog.Within.bind (m := 1) (n := 12)
    · exact fun r => within_answer r
    intro taken
    cases taken with
    | waiting => trivial
    | leaving => exact finalizeArtifacts_within.bind (n := 0) fun _ => trivial
    | frame frame =>
      apply Prog.Within.bind (m := 1) (n := 11)
      · exact fun r => within_answer r
      intro _
      apply Prog.Within.bind (m := 1) (n := 10)
      · exact fun r => within_answer r
      intro color
      apply Prog.Within.bind (m := 1) (n := 9)
      · exact fun r => within_answer r
      intro view
      apply Prog.Within.bind (m := 1) (n := 8)
      · exact fun r => within_answer r
      intro index
      apply Prog.Within.bind (m := 1) (n := 7)
      · exact fun r => within_answer r
      intro _
      exact Prog.within_op fun _ => trivial
  · intro e
    exact Prog.within_op fun _ => trivial

/-! What is left after a failed call -/

/-- A call that cannot fail has nothing to leave alone. -/
theorem failsQuietly_of_not {L : Type} {o : ThreadOp} {r : o.Res} {p : ThreadProg L}
    (h : ¬ CallFails o r) : FailsQuietly o r p := fun hfails => (h hfails).elim

def isView : ThreadOp → Bool
  | .frameView _ _ => true
  | _ => false

/-- A failed call for one kind of preview, after which only the other kind is published. -/
def FailsFor {L : Type} (kind : PreviewKind) (o : ThreadOp) (r : o.Res) (p : ThreadProg L) : Prop :=
  CallFails o r → isView o = false ∧ previewKind o = some kind ∧
    p.Uses (LeavesAlone o) (fun _ => True) fun _ => True

/-- Nothing catches what an accessor throws. -/
def LeavesThread {L : Type} : (o : ThreadOp) → o.Res → ThreadProg L → Prop
  | .frameView _ _, r, p => ∀ e, r = .error e → p = .throw e
  | _, _, _ => True

theorem leavesThread_of_not {L : Type} {o : ThreadOp} {r : o.Res} {p : ThreadProg L}
    (h : CallFails o r → isView o = false) : LeavesThread o r p := by
  cases o with
  | frameView kind frame =>
    intro e he
    cases h ⟨e, he⟩
  | _ => trivial

/-- How the encoder goes on after a call. -/
def EncoderContinues {L : Type} (o : ThreadOp) (r : o.Res) (p : ThreadProg L) : Prop :=
  FailsQuietly o r p ∧ LeavesThread o r p

theorem encodePreview_leavesAlone {failed : ThreadOp} {kind other : PreviewKind}
    (hfailed : previewKind failed = some other) (hne : other ≠ kind) (view : Option VideoFrameView) :
    (encodePreview kind view).Uses (LeavesAlone failed) (fun _ => True) fun _ => True := by
  have hpublish : ∀ preview, LeavesAlone failed (.publishPreview kind preview) :=
    fun _ => ⟨other, hfailed, hne⟩
  have herror : ∀ what, LeavesAlone failed (.setLastError what) := fun _ => trivial
  cases view with
  | none => trivial
  | some view =>
    constructor
    · trivial
    intro (jpeg : Except Exception ByteString)
    cases jpeg with
    | error e => exact ⟨herror _, fun _ => trivial⟩
    | ok jpeg =>
      constructor
      · exact hpublish _
      intro (stored : Bool)
      cases stored with
      | false => trivial
      | true =>
        constructor
        · trivial
        intro (notified : Except Exception Unit)
        cases notified with
        | error e => exact ⟨herror _, fun _ => trivial⟩
        | ok notified => trivial

theorem encodePreview_continues (kind : PreviewKind) (view : Option VideoFrameView) :
    (encodePreview kind view).Continues (FailsFor kind) := by
  have hhandler (o : ThreadOp) : (call (.setLastError (Encoding.encodingFailed kind))).Uses
      (LeavesAlone o) (fun _ => True) fun _ => True := ⟨trivial, fun _ => trivial⟩
  have hquiet : (call (.setLastError (Encoding.encodingFailed kind))).Continues (FailsFor kind) :=
    fun _ => ⟨fun hfails => hfails.elim, trivial⟩
  cases view with
  | none => trivial
  | some view =>
    intro (jpeg : Except Exception ByteString)
    cases jpeg with
    | error e => exact ⟨fun _ => ⟨rfl, rfl, hhandler _⟩, hquiet⟩
    | ok jpeg =>
      constructor
      · rintro ⟨e, he⟩
        cases he
      intro (stored : Bool)
      constructor
      · intro hfails
        exact hfails.elim
      cases stored with
      | false => trivial
      | true =>
        intro (notified : Except Exception Unit)
        cases notified with
        | error e => exact ⟨fun _ => ⟨rfl, rfl, hhandler _⟩, hquiet⟩
        | ok notified =>
          constructor
          · rintro ⟨e, he⟩
            cases he
          · trivial

/-- One kind of preview, and a rest of the pass that is quiet about it. -/
theorem encodePreview_bind_continues {L : Type} {kind : PreviewKind} {rest : ThreadProg L}
    (hrest : rest.Continues EncoderContinues)
    (hquiet : ∀ failed, previewKind failed = some kind →
      rest.Uses (LeavesAlone failed) (fun _ => True) fun _ => True)
    (view : Option VideoFrameView) :
    ((encodePreview kind view).bind fun _ => rest).Continues EncoderContinues := by
  apply (encodePreview_continues kind view).bind
  · intro o r q hq
    constructor
    · intro hfails
      obtain ⟨-, hkind, huses⟩ := hq hfails
      exact huses.bind _ fun _ _ => hquiet o hkind
    · exact leavesThread_of_not fun hfails => (hq hfails).1
  · exact fun _ => hrest

/-- A call of an accessor: what it throws ends the pass. -/
theorem frameView_continues {L : Type} {kind : PreviewKind} {frame : CapturedFrame}
    {rest : Option VideoFrameView → ThreadProg L}
    (hrest : ∀ view, (rest view).Continues EncoderContinues) :
    (((call (.frameView kind frame)).bind Prog.ofExcept).bind rest).Continues EncoderContinues := by
  intro (view : Except Exception (Option VideoFrameView))
  cases view with
  | error e =>
    constructor
    · constructor
      · exact fun _ => trivial
      · intro e' he
        cases he
        rfl
    · trivial
  | ok view =>
    constructor
    · constructor
      · rintro ⟨e, he⟩
        cases he
      · intro e he
        cases he
    · exact hrest view

/-- A call that cannot fail -/
theorem call_continues {L : Type} {o : ThreadOp} {k : o.Res → ThreadProg L}
    (ho : ∀ r, ¬ CallFails o r) (hk : ∀ r, (k r).Continues EncoderContinues) :
    (Prog.op o k).Continues EncoderContinues := by
  intro r
  constructor
  · constructor
    · exact failsQuietly_of_not (ho r)
    · exact leavesThread_of_not fun hfails => (ho r hfails).elim
  · exact hk r

theorem encoderPass_continues (locals : FrameIdentity) :
    (encoderPass locals).Continues EncoderContinues := by
  apply call_continues fun _ => id
  intro (stopped : Bool)
  cases stopped with
  | true => trivial
  | false =>
    apply call_continues fun _ => id
    intro (latest : Option CapturedFrame)
    cases latest with
    | none => trivial
    | some frame =>
      have hdepth : (do
          let depth ← call (.frameView .depth frame) >>= Prog.ofExcept
          encodePreview .depth depth
          return some frame.identity : ThreadProg (Option FrameIdentity)).Continues
          EncoderContinues := by
        apply frameView_continues
        intro depth
        apply encodePreview_bind_continues
        · trivial
        · exact fun _ _ => trivial
      apply call_continues fun _ => id
      intro _
      apply frameView_continues
      intro color
      apply encodePreview_bind_continues hdepth
      intro failed hfailed
      constructor
      · trivial
      intro (depth : Except Exception (Option VideoFrameView))
      cases depth with
      | error e => trivial
      | ok depth =>
        apply (encodePreview_leavesAlone hfailed (by decide) depth).bind
        exact fun _ _ => trivial

/-- A call that no failure would be disturbed by. -/
def IsApart (o : ThreadOp) : Prop := ∀ failed, LeavesAlone failed o

theorem continues_of_apart {L : Type} {p : ThreadProg L}
    (h : p.Uses IsApart (fun _ => True) fun _ => True) : p.Continues FailsQuietly := by
  induction p with
  | pure a => trivial
  | throw e => trivial
  | op o k ih =>
    intro r
    constructor
    · exact fun _ => (h.2 r).mono (fun _ ho => ho o) (fun _ => id) fun _ => id
    · exact ih r (h.2 r)

theorem captureHandler_apart : captureHandler.Uses IsApart (fun _ => True) fun _ => True := by
  constructor
  · exact fun _ => trivial
  intro (stopped : Bool)
  cases stopped with
  | true => trivial
  | false =>
    constructor
    · exact fun _ => trivial
    intro _
    constructor
    · exact fun _ => trivial
    intro (degraded : Bool)
    cases degraded with
    | true => exact ⟨fun _ => trivial, fun _ => trivial⟩
    | false => trivial

theorem capturePass_continues (locals : Unit) : (capturePass locals).Continues FailsQuietly := by
  intro (stopped : Bool)
  constructor
  · exact failsQuietly_of_not id
  cases stopped with
  | true => trivial
  | false =>
    intro (frame : Except Exception (Option CapturedFrame))
    cases frame with
    | error e =>
      have hhandler := captureHandler_apart
      constructor
      · exact fun _ => hhandler.mono (fun _ ho => ho _) (fun _ => id) fun _ => id
      · exact continues_of_apart hhandler
    | ok frame =>
      constructor
      · rintro ⟨e, he⟩
        cases he
      intro _
      constructor
      · exact failsQuietly_of_not id
      intro _
      constructor
      · exact failsQuietly_of_not id
      · trivial

theorem apart_answer {α : Type} (r : Except Exception α) :
    (Prog.ofExcept r : ThreadProg α).Uses IsApart (fun _ => True) fun _ => True := by
  cases r <;> trivial

theorem apart_bind {α β : Type} {p : ThreadProg α} {f : α → ThreadProg β}
    (hp : p.Uses IsApart (fun _ => True) fun _ => True)
    (hf : ∀ a, (f a).Uses IsApart (fun _ => True) fun _ => True) :
    (p.bind f).Uses IsApart (fun _ => True) fun _ => True := hp.bind _ fun a _ => hf a

theorem finalizeArtifacts_apart :
    finalizeArtifacts.Uses IsApart (fun _ => True) fun _ => True := by
  have hlate : requireFinalizeWithinDeadline.Uses IsApart (fun _ => True) fun _ => True :=
    ⟨fun _ => trivial, fun r => apart_answer r⟩
  have hstage (stage : FinalizeStage) :
      (finalizeStage stage).Uses IsApart (fun _ => True) fun _ => True :=
    ⟨fun _ => trivial, fun r => apart_answer r⟩
  apply apart_bind hlate
  intro _
  apply apart_bind (hstage _)
  intro _
  apply apart_bind hlate
  intro _
  apply apart_bind (hstage _)
  intro _
  apply apart_bind hlate
  intro _
  apply apart_bind (hstage _)
  intro _
  apply apart_bind (hstage _)
  intro _
  apply apart_bind hlate
  intro _
  apply apart_bind (hstage _)
  intro _
  apply apart_bind hlate
  intro _
  apply apart_bind (hstage _)
  exact fun _ => ⟨fun _ => trivial, fun _ => trivial⟩

/-- No call of the worker is about the frame store or the previews. -/
theorem recorderPass_apart (locals : Unit) :
    (recorderPass locals).Uses IsApart (fun _ => True) fun _ => True := by
  apply Prog.Uses.tryCatch
  · apply apart_bind
    · exact ⟨fun _ => trivial, fun r => apart_answer r⟩
    intro taken
    cases taken with
    | waiting => trivial
    | leaving => exact apart_bind finalizeArtifacts_apart fun _ => trivial
    | frame frame =>
      apply apart_bind
      · exact ⟨fun _ => trivial, fun r => apart_answer r⟩
      intro _
      apply apart_bind
      · exact ⟨fun _ => trivial, fun r => apart_answer r⟩
      intro color
      apply apart_bind
      · exact ⟨fun _ => trivial, fun r => apart_answer r⟩
      intro view
      apply apart_bind
      · exact ⟨fun _ => trivial, fun r => apart_answer r⟩
      intro index
      apply apart_bind
      · exact ⟨fun _ => trivial, fun r => apart_answer r⟩
      intro _
      exact ⟨fun _ => trivial, fun _ => trivial⟩
  · exact fun _ _ => ⟨fun _ => trivial, fun _ => trivial⟩

theorem recorderPass_continues (locals : Unit) : (recorderPass locals).Continues FailsQuietly :=
  continues_of_apart (recorderPass_apart locals)

end Passes

/-! Runs -/

/-- What holds in every state that the threads reach while no accessor throws in the encoder. -/
structure ThreadsInv (setup : ThreadSetup) (s : Threads) : Prop where
  encoder : s.encoder.Safe (ThreadWorld.exec setup) stopKept ViewReturns stopIsRequested s.world
  capture : s.capture.Safe (ThreadWorld.exec setup) stopKept anyChoice stopIsRequested s.world
  recorder : s.recorder.Safe (ThreadWorld.exec setup) stopKept anyChoice anyWorld s.world
  encoderWithin : s.encoder.pass.Within 14
  captureWithin : s.capture.pass.Within 14
  recorderWithin : s.recorder.pass.Within 14
  encoderContinues : s.encoder.pass.Continues EncoderContinues
  captureContinues : s.capture.pass.Continues FailsQuietly
  recorderContinues : s.recorder.pass.Continues FailsQuietly

section Runs
variable {setup : ThreadSetup} {s t : Threads}

theorem ThreadsInv.contained (h : ThreadsInv setup s) : Contained setup s where
  encoder := h.encoder.isTerminated
  capture := h.capture.isTerminated
  recorder := h.recorder.isTerminated
  encodes hs := by
    have hsafe := h.encoder
    rw [hs] at hsafe
    exact hsafe.of_returned
  captures hs := by
    have hsafe := h.capture
    rw [hs] at hsafe
    exact hsafe.of_returned
  passes := ⟨h.encoderWithin, h.captureWithin, h.recorderWithin⟩
  encoderFails := undisturbed (h.encoderContinues.mono fun _ _ _ hq => hq.1) s.world
  captureFails := undisturbed h.captureContinues s.world
  recorderFails := undisturbed h.recorderContinues s.world

theorem ThreadsInv.of_initial (h : s.IsInitial) : ThreadsInv setup s := by
  obtain ⟨-, -, -, hencoder, hcapture, hrecorder⟩ := h
  constructor
  · rw [hencoder]
    exact encoderPass_safe _ _
  · rw [hcapture]
    exact capturePass_safe () _
  · rw [hrecorder]
    exact fun _ _ => trivial
  · rw [hencoder]
    exact encoderPass_within _
  · rw [hcapture]
    exact capturePass_within ()
  · rw [hrecorder]
    trivial
  · rw [hencoder]
    exact encoderPass_continues _
  · rw [hcapture]
    exact capturePass_continues ()
  · rw [hrecorder]
    trivial

/-- A change of memory that keeps the flag up; the threads stay where they are. -/
theorem ThreadsInv.world (h : ThreadsInv setup s) {world : ThreadWorld}
    (hworld : stopKept.rely s.world world) : ThreadsInv setup { s with world } :=
  { h with
    encoder := h.encoder.rely hworld
    capture := h.capture.rely hworld
    recorder := h.recorder.rely hworld }

/-- Only an accessor looks at the view of a choice. -/
theorem exec_view {o : ThreadOp} (ho : isView o = false) (c : ThreadChoice) (world : ThreadWorld)
    (view : Except Exception (Option VideoFrameView)) :
    world.exec setup o { c with view } = world.exec setup o c := by
  cases o with
  | frameView kind frame => cases ho
  | trySubmitFrame frame => cases frame <;> rfl
  | _ => rfl

/-- A step without a throwing accessor is one with an environment that lets accessors return. -/
theorem exists_viewReturns {c : ThreadChoice} {p : Thread ThreadOp.Res Exception FrameIdentity}
    {world : ThreadWorld}
    (h : ∀ kind frame, p.next = some (.frameView kind frame) → ¬ Throws c.view) :
    ∃ c', ViewReturns c' ∧ p.step (ThreadWorld.exec setup) encoderPass c world =
      p.step (ThreadWorld.exec setup) encoderPass c' world := by
  cases hview : c.view with
  | ok view => exact ⟨c, ⟨view, hview⟩, rfl⟩
  | error e =>
    refine ⟨{ c with view := .ok none }, ⟨none, rfl⟩, ?_⟩
    cases p with
    | returned => rfl
    | terminated e => rfl
    | running p =>
      cases p with
      | pure next => cases next <;> rfl
      | throw e => rfl
      | op o k =>
        have ho : isView o = false := by
          cases o with
          | frameView kind frame => exact (h kind frame rfl ⟨e, hview⟩).elim
          | _ => rfl
        show (Thread.running (k (world.exec setup o c).1), _) = _
        rw [← exec_view ho c world (.ok none)]
        rfl

theorem ThreadsInv.step (h : ThreadsInv setup s) {event : Threads.Event}
    (he : s.step setup event = some t) (hok : viewsReturn s event t) : ThreadsInv setup t := by
  unfold Threads.step at he
  split at he
  · cases he
  cases event with
  | encoder c =>
    obtain ⟨c', hc', hstep⟩ := @exists_viewReturns setup c s.encoder s.world
      fun kind frame hnext => hok c kind frame rfl hnext
    simp only [Threads.act, hstep] at he
    cases he
    obtain ⟨hguar, hsafe⟩ := h.encoder.step (fun _ => id) encoderPass_safe hc'
    exact { h with
      encoder := hsafe
      capture := h.capture.rely hguar
      recorder := h.recorder.rely hguar
      encoderWithin := Thread.within_step encoderPass_within h.encoderWithin
      encoderContinues := Thread.continues_step encoderPass_continues h.encoderContinues }
  | capture c =>
    cases he
    obtain ⟨hguar, hsafe⟩ := h.capture.step (c := c) (fun _ => id) capturePass_safe trivial
    exact { h with
      encoder := h.encoder.rely hguar
      capture := hsafe
      recorder := h.recorder.rely hguar
      captureWithin := Thread.within_step capturePass_within h.captureWithin
      captureContinues := Thread.continues_step capturePass_continues h.captureContinues }
  | recorder c =>
    cases he
    obtain ⟨hguar, hsafe⟩ := h.recorder.step (c := c) (fun _ => id) recorderPass_safe trivial
    exact { h with
      encoder := h.encoder.rely hguar
      capture := h.capture.rely hguar
      recorder := hsafe
      recorderWithin := Thread.within_step recorderPass_within h.recorderWithin
      recorderContinues := Thread.continues_step recorderPass_continues h.recorderContinues }
  | requestStop =>
    cases he
    exact h.world fun _ => rfl
  | startRecording =>
    simp only [Threads.act, Threads.startRecording] at he
    split at he
    · cases he
      exact { h with
        encoder := h.encoder.rely id
        capture := h.capture.rely id
        recorder := recorderPass_safe () _
        recorderWithin := recorderPass_within ()
        recorderContinues := recorderPass_continues () }
    · cases he
  | stopRecording =>
    simp only [Threads.act, Threads.stopRecording] at he
    split at he
    · cases he
      exact h.world id
    · cases he
  | elapse duration =>
    cases he
    exact h.world id

theorem threads_inv (h : Reach Threads.IsInitial (Threads.step setup) viewsReturn s) :
    ThreadsInv setup s :=
  h.invariant (ThreadsInv setup) (fun _ => ThreadsInv.of_initial)
    fun _ _ _ _ hs he hok => hs.step he hok

end Runs

/-- What an accessor throws is about to leave the encoder thread. -/
theorem encoder_throws {setup : ThreadSetup} {s : Threads} (h : ThreadsInv setup s)
    {c : ThreadChoice} {kind : PreviewKind} {frame : CapturedFrame} {e : Exception}
    (hnext : s.encoder.next = some (.frameView kind frame)) (hview : c.view = .error e) :
    (s.encoder.step (ThreadWorld.exec setup) encoderPass c s.world).1 = .running (.throw e) := by
  have hcontinues := h.encoderContinues
  cases hencoder : s.encoder with
  | returned =>
    rw [hencoder] at hnext
    cases hnext
  | terminated e' =>
    rw [hencoder] at hnext
    cases hnext
  | running p =>
    rw [hencoder] at hnext hcontinues
    cases p with
    | pure next => cases hnext
    | throw e' => cases hnext
    | op o k =>
      cases hnext
      have hleaves := (hcontinues c.view).1.2 e hview
      exact congrArg Thread.running hleaves

/-- While no accessor throws in the encoder thread, exceptions stay inside the threads; an accessor
that throws there is about to leave it. -/
theorem exceptions_contained {setup : ThreadSetup} {s : Threads}
    (h : Reach Threads.IsInitial (Threads.step setup) viewsReturn s) :
    Contained setup s ∧ ∀ event t, s.step setup event = some t → ¬ viewsReturn s event t →
      ∃ e, t.encoder = .running (.throw e) := by
  have hinv := threads_inv h
  constructor
  · exact hinv.contained
  · intro event t he hthrows
    unfold viewsReturn at hthrows
    push Not at hthrows
    obtain ⟨c, kind, frame, rfl, hnext, e, hview⟩ := hthrows
    unfold Threads.step at he
    split at he
    · cases he
    · cases he
      exact ⟨e, encoder_throws hinv hnext hview⟩

/-- One second of recording at most -/
def recordingSetup : ThreadSetup where
  queueCapacityFrames := 2
  maxDurationMs := 1000
  finalizeTimeoutMs := 1000
  hasPilot := true

def newThreads : Threads where
  world := {}
  encoder := .running (encoderPass {})
  capture := .running (capturePass ())
  recorder := .returned

def capturedView : VideoFrameView where
  width := 2
  height := 2
  strideBytes := 6
  format := .rgb8
  hasOwner := true
  hasData := true
  identity := { captureGeneration := 1, frameNumber := 1 }

def capturedFrame : CapturedFrame where
  identity := capturedView.identity
  colorFrameView := .ok (some capturedView)
  depthPreviewFrameView := .ok none

def cameraLost : Exception := .runtimeError "camera"

/-- One frame is captured; then a read, the encoding of the frame and its writing all throw. -/
def failingCalls : List Threads.Event :=
  [.startRecording, .capture {}, .capture { frame := some capturedFrame }, .capture {}, .capture {},
    .capture {}, .capture {}, .capture { throws := some cameraLost }, .capture {}, .capture {},
    .capture {}, .capture {}, .encoder {}, .encoder {}, .encoder {},
    .encoder { view := .ok (some capturedView) }, .encoder { throws := some cameraLost }, .encoder {},
    .recorder {}, .recorder {}, .recorder { view := .ok (some capturedView) }, .recorder {},
    .recorder { throws := some cameraLost }, .recorder {}, .recorder {}]

theorem initial_newThreads : newThreads.IsInitial := ⟨rfl, rfl, rfl, rfl, rfl, rfl⟩

theorem exceptions_contained_failing :
    ∃ s : Threads, (s.world.recorder.state = .faulted ∧ s.world.health.state = .degraded ∧
      s.world.store.latestFrame.isSome = true) ∧ Contained recordingSetup s := by
  have hok : ∀ event ∈ failingCalls, ∀ s t, viewsReturn s event t := by
    intro event hevent s t c kind frame hc hnext
    subst hc
    have hview : c.view = .ok none ∨ c.view = .ok (some capturedView) := by
      simp only [failingCalls, List.mem_cons, List.not_mem_nil, or_false, Threads.Event.encoder.injEq,
        reduceCtorEq, false_or] at hevent
      rcases hevent with rfl | rfl | rfl | rfl | rfl | rfl
      · exact .inl rfl
      · exact .inl rfl
      · exact .inl rfl
      · exact .inr rfl
      · exact .inl rfl
      · exact .inl rfl
    rintro ⟨e, he⟩
    rcases hview with hview | hview
    · rw [hview] at he
      cases he
    · rw [hview] at he
      cases he
  have hrun : (runEvents (Threads.step recordingSetup) (fun _ _ => true) newThreads failingCalls).any
      (fun s => s.world.recorder.state = .faulted ∧ s.world.health.state = .degraded ∧
        s.world.store.latestFrame.isSome = true) = true := by decide
  obtain ⟨s, hs, ht⟩ := (Reach.start initial_newThreads).exists_run_all hok hrun
  exact ⟨s, of_decide_eq_true ht, (exceptions_contained hs).1⟩

/-- A frame is captured, and its color accessor throws in the encoder thread. -/
def throwingView : List Threads.Event :=
  [.capture {}, .capture { frame := some capturedFrame }, .capture {}, .encoder {}, .encoder {},
    .encoder {}, .encoder { view := .error cameraLost }, .encoder {}]

/-- The exception of an accessor leaves the encoder thread. -/
theorem exception_leaves_encoder :
    ∃ s, Reach Threads.IsInitial (Threads.step recordingSetup) anyStep s ∧
      ¬ Contained recordingSetup s := by
  have hrun : (runEvents (Threads.step recordingSetup) (fun _ _ => true) newThreads throwingView).any
      (fun s => s.encoder.isTerminated) = true := by decide
  have hstart : Reach Threads.IsInitial (Threads.step recordingSetup) anyStep newThreads :=
    .start initial_newThreads
  obtain ⟨s, hs, hleft⟩ := hstart.exists_run_all (fun _ _ _ _ => trivial) hrun
  refine ⟨s, hs, ?_⟩
  intro hcontained
  rw [hcontained.encoder] at hleft
  cases hleft

end NodusVision.Guarantees
