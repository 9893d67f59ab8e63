import NodusVision.Pilot.Messages
import NodusVision.Pilot.RequestSession
import NodusVision.Transition.Reach

/-! The requests that the HTTP transport executes one after the other on one I/O context. -/
namespace NodusVision.Pilot.Http
open Text Transition

/-- Where the thread in `executeRequest` stands. -/
inductive ExecutePhase where
  | idle
  | running
  | drained
  deriving DecidableEq

/-- The requests so far in order. `returned` is what `executeRequest` returned for them, and `issued` are
those that were active when a cancellation was requested. -/
structure PilotHttpTransport where
  sessions : List RequestSession := []
  activeSession : Option ℕ := none
  phase : ExecutePhase := .idle
  returned : List PilotHttpResult := []
  issued : List ℕ := []
  deriving DecidableEq

inductive TransportEvent where
  | execute (request : PilotHttpRequest)
  | cancelRequest
  | deliver (index : ℕ) (delivery : Delivery)
  | runReturns
  | executeReturns

/-- The check of the constructor of a session, with `http::string_to_verb`, before anything is started. -/
def isRequestValid (isVerb : ByteString → Bool) (request : PilotHttpRequest) : Bool :=
  isVerb request.method && request.target.head? == some 47

namespace PilotHttpTransport

/-- The value of the variable that the completion of the active session assigns to. -/
def result (s : PilotHttpTransport) : PilotHttpResult :=
  ((s.activeSession.bind fun index => s.sessions[index]?).bind fun session =>
    session.results.getLast?).getD {}

/-- The I/O context runs until nothing is outstanding. A cancellation that is posted after that waits
for the next request. -/
def step (isVerb : ByteString → Bool) (s : PilotHttpTransport) :
    TransportEvent → Option PilotHttpTransport
  | .execute request =>
    if s.phase = .idle then
      if isRequestValid isVerb request then
        some { s with
          sessions := s.sessions ++ [RequestSession.startRequest {}]
          activeSession := some s.sessions.length
          phase := .running }
      else some s
    else none
  | .cancelRequest =>
    match s.activeSession with
    | some index =>
      some { s with
        sessions := s.sessions.modify index RequestSession.post
        issued := s.issued ++ [index] }
    | none => some s
  | .deliver index delivery =>
    if s.phase = .running then
      (s.sessions[index]?.bind fun session => session.deliver delivery).map fun session =>
        { s with sessions := s.sessions.set index session }
    else none
  | .runReturns =>
    if s.phase = .running ∧ ∀ session ∈ s.sessions, session.outstanding = [] then
      some { s with phase := .drained }
    else none
  | .executeReturns =>
    if s.phase = .drained then
      some { s with activeSession := none, phase := .idle, returned := s.returned ++ [s.result] }
    else none

/-- All the work of the I/O context. -/
def work (s : PilotHttpTransport) : ℕ := (s.sessions.map RequestSession.work).sum

end PilotHttpTransport

/-- The last session is the active one until its result is returned; those before it are over. -/
structure TransportInv (s : PilotHttpTransport) : Prop where
  sessions : ∀ session ∈ s.sessions, SessionInv session
  count : s.sessions.length = s.returned.length + if s.phase = .idle then 0 else 1
  active : s.activeSession = if s.phase = .idle then none else some s.returned.length
  past : ∀ (i : ℕ) (session : RequestSession), s.sessions[i]? = some session →
    i < s.returned.length ∨ s.phase = .drained → session.finished = true
  once : ∀ (i : ℕ) (result : PilotHttpResult), s.returned[i]? = some result →
    ∃ session : RequestSession, s.sessions[i]? = some session ∧ session.results = [result]
  issued : ∀ (i : ℕ) (session : RequestSession), s.sessions[i]? = some session → session.isCancelled → i ∈ s.issued

theorem transportInv_constructed : TransportInv {} := by
  constructor
  · intro session h
    cases h
  · rfl
  · rfl
  · intro i session h
    cases h
  · intro i result h
    cases h
  · intro i session h
    cases h

section
variable {isVerb : ByteString → Bool} {s t : PilotHttpTransport}

/-- One session changed and kept its result. -/
theorem TransportInv.set (h : TransportInv s) {index : ℕ} {old new : RequestSession}
    {issued : List ℕ} (hold : s.sessions[index]? = some old) (hinv : SessionInv new)
    (hkept : old.finished = true → new.finished = true ∧ new.results = old.results)
    (hissued : ∀ i ∈ s.issued, i ∈ issued)
    (hcancel : new.isCancelled → old.isCancelled ∨ index ∈ issued) :
    TransportInv { s with sessions := s.sessions.set index new, issued := issued } := by
  have hget : ∀ i session, (s.sessions.set index new)[i]? = some session →
      (i = index ∧ session = new) ∨ s.sessions[i]? = some session := by
    intro i session hsession
    by_cases hi : index = i
    · subst hi
      rw [List.getElem?_set_self (List.getElem?_eq_some_iff.mp hold).1] at hsession
      cases hsession
      exact .inl ⟨rfl, rfl⟩
    · rw [List.getElem?_set_ne hi] at hsession
      exact .inr hsession
  constructor
  · intro session hmem
    rcases List.mem_or_eq_of_mem_set hmem with hmem | rfl
    · exact h.sessions session hmem
    · exact hinv
  · show (s.sessions.set index new).length = _
    rw [List.length_set]
    exact h.count
  · exact h.active
  · intro i session hsession hover
    rcases hget i session hsession with ⟨rfl, rfl⟩ | hsame
    · exact (hkept (h.past i old hold hover)).1
    · exact h.past i session hsame hover
  · intro i result hresult
    obtain ⟨session, hsession, hresults⟩ := h.once i result hresult
    show ∃ session, (s.sessions.set index new)[i]? = some session ∧ _
    by_cases hi : index = i
    · subst hi
      cases hold.symm.trans hsession
      have hbound := (List.getElem?_eq_some_iff.mp hresult).1
      have hfinished := h.past index old hold (.inl hbound)
      refine ⟨new, ?_, ?_⟩
      · rw [List.getElem?_set_self (List.getElem?_eq_some_iff.mp hold).1]
      · rw [(hkept hfinished).2, hresults]
    · refine ⟨session, ?_, hresults⟩
      rw [List.getElem?_set_ne hi]
      exact hsession
  · intro i session hsession hcancelled
    show i ∈ issued
    rcases hget i session hsession with ⟨rfl, rfl⟩ | hsame
    · rcases hcancel hcancelled with hbefore | hnow
      · exact hissued i (h.issued i old hold hbefore)
      · exact hnow
    · exact hissued i (h.issued i session hsame hcancelled)

theorem TransportInv.execute (h : TransportInv s) (hphase : s.phase = .idle) :
    TransportInv { s with
      sessions := s.sessions ++ [RequestSession.startRequest {}]
      activeSession := some s.sessions.length
      phase := .running } := by
  have hcount := h.count
  rw [hphase, if_pos rfl] at hcount
  have hget : ∀ i session, (s.sessions ++ [RequestSession.startRequest {}])[i]? = some session →
      s.sessions[i]? = some session ∨ (i = s.returned.length ∧ session = RequestSession.startRequest {}) := by
    intro i session hsession
    by_cases hi : i < s.sessions.length
    · rw [List.getElem?_append_left hi] at hsession
      exact .inl hsession
    · have hbound := (List.getElem?_eq_some_iff.mp hsession).1
      rw [List.length_append, List.length_singleton] at hbound
      have hlast : i = s.sessions.length := by omega
      rw [hlast, List.getElem?_concat_length] at hsession
      cases hsession
      exact .inr ⟨by omega, rfl⟩
  constructor
  · intro session hmem
    rcases List.mem_append.mp hmem with hmem | hmem
    · exact h.sessions session hmem
    · rw [List.mem_singleton.mp hmem]
      exact sessionInv_start
  · show (s.sessions ++ [_]).length = s.returned.length + 1
    rw [List.length_append, List.length_singleton]
    omega
  · show some s.sessions.length = some s.returned.length
    rw [hcount]
    rfl
  · intro i session hsession hover
    rcases hover with hover | hover
    · rcases hget i session hsession with hold | ⟨rfl, -⟩
      · exact h.past i session hold (.inl hover)
      · exact absurd hover (Nat.lt_irrefl _)
    · cases hover
  · intro i result hresult
    obtain ⟨session, hsession, hresults⟩ := h.once i result hresult
    refine ⟨session, ?_, hresults⟩
    show (s.sessions ++ [_])[i]? = _
    rw [List.getElem?_append_left (List.getElem?_eq_some_iff.mp hsession).1]
    exact hsession
  · intro i session hsession hcancelled
    rcases hget i session hsession with hold | ⟨-, rfl⟩
    · exact h.issued i session hold hcancelled
    · rcases hcancelled with hlog | houtstanding
      · cases hlog
      · have hnone : ¬ .cancel ∈ (RequestSession.startRequest {}).outstanding := by decide
        exact absurd houtstanding hnone

theorem TransportInv.step (h : TransportInv s) {e : TransportEvent} (he : s.step isVerb e = some t) :
    TransportInv t := by
  cases e with
  | execute request =>
    simp only [PilotHttpTransport.step] at he
    split at he
    · rename_i hphase
      split at he
      · cases he
        exact h.execute hphase
      · cases he
        exact h
    · cases he
  | cancelRequest =>
    simp only [PilotHttpTransport.step] at he
    split at he
    · rename_i index hactive
      cases he
      have hposted := h.active
      rw [hactive] at hposted
      split at hposted
      · cases hposted
      · rename_i hphase
        cases hposted
        have hcount := h.count
        rw [if_neg hphase] at hcount
        have hold := List.getElem?_eq_getElem (l := s.sessions) (i := s.returned.length) (by omega)
        have hmodify : s.sessions.modify s.returned.length RequestSession.post =
            s.sessions.set s.returned.length (RequestSession.post (s.sessions.get ⟨s.returned.length, by omega⟩)) := by
          rw [List.modify_eq_set_getElem?, hold]
          rfl
        rw [hmodify]
        apply h.set hold (sessionInv_post (h.sessions _ (List.getElem_mem _)))
        · intro hfinished
          exact ⟨hfinished, rfl⟩
        · intro i hi
          exact List.mem_append_left _ hi
        · intro _
          exact .inr (List.mem_append_right _ (List.mem_singleton_self _))
    · cases he
      exact h
  | deliver index delivery =>
    simp only [PilotHttpTransport.step] at he
    split at he
    · obtain ⟨new, hnew, rfl⟩ := Option.map_eq_some_iff.mp he
      obtain ⟨old, hold, hdeliver⟩ := Option.bind_eq_some_iff.mp hnew
      have hinv := h.sessions old (List.mem_of_getElem? hold)
      apply h.set hold (sessionInv_deliver hinv hdeliver)
      · exact deliver_finished hinv hdeliver
      · intro i hi
        exact hi
      · intro hcancel
        exact .inl (deliver_isCancelled hinv hdeliver hcancel)
    · cases he
  | runReturns =>
    simp only [PilotHttpTransport.step] at he
    split at he
    · rename_i hrun
      cases he
      have hcount := h.count
      have hactive := h.active
      rw [hrun.1] at hcount hactive
      constructor
      · exact h.sessions
      · exact hcount
      · exact hactive
      · intro i session hsession _
        have hinv := h.sessions session (List.mem_of_getElem? hsession)
        by_contra hopen
        obtain ⟨operation, hmem, -⟩ := hinv.stage (Bool.not_eq_true _ ▸ hopen)
        rw [hrun.2 session (List.mem_of_getElem? hsession)] at hmem
        cases hmem
      · exact h.once
      · exact h.issued
    · cases he
  | executeReturns =>
    simp only [PilotHttpTransport.step] at he
    split at he
    · rename_i hphase
      cases he
      have hcount := h.count
      have hactive := h.active
      rw [hphase] at hcount hactive
      rw [if_neg (by decide)] at hcount hactive
      obtain ⟨last, hlast⟩ : ∃ last, s.sessions[s.returned.length]? = some last :=
        ⟨_, List.getElem?_eq_getElem (by omega)⟩
      have hinv := h.sessions last (List.mem_of_getElem? hlast)
      obtain ⟨first, hfirst⟩ := hinv.answered (h.past _ last hlast (.inr hphase))
      have hresults := hinv.results
      rw [hfirst] at hresults
      have hresult : s.result = first := by
        unfold PilotHttpTransport.result
        rw [hactive, Option.bind_some, hlast, Option.bind_some, hresults]
        rfl
      constructor
      · exact h.sessions
      · show s.sessions.length = (s.returned ++ [s.result]).length + 0
        rw [List.length_append, List.length_singleton]
        omega
      · rfl
      · intro i session hsession hover
        exact h.past i session hsession (.inr hphase)
      · intro i result hi
        by_cases hlt : i < s.returned.length
        · rw [List.getElem?_append_left hlt] at hi
          exact h.once i result hi
        · have hbound := (List.getElem?_eq_some_iff.mp hi).1
          rw [List.length_append, List.length_singleton] at hbound
          have heq : i = s.returned.length := by omega
          rw [heq, List.getElem?_concat_length] at hi
          cases hi
          rw [heq]
          refine ⟨_, hlast, ?_⟩
          rw [hresults, hresult]
          rfl
      · exact h.issued
    · cases he

end

end NodusVision.Pilot.Http
