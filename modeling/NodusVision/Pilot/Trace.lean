import NodusVision.Pilot.Client

/-! What a trace of the client says about sessions: the newest exchange comes first. -/
namespace NodusVision.Pilot
open Text

/-- The most recent accepted registration. -/
def latestRegistration : List Exchange → Option PilotRegistrationResponse
  | [] => none
  | e :: rest =>
    match e with
    | .registered response => some response
    | _ => latestRegistration rest

/-- The catalog answers accepted since the latest registration. -/
def acceptedCatalogs : List Exchange → List PilotCatalogAcceptedResponse
  | [] => []
  | e :: rest =>
    match e with
    | .registered _ => []
    | .catalogAccepted response => response :: acceptedCatalogs rest
    | _ => acceptedCatalogs rest

/-- The sequence number of a lifecycle write. -/
def PilotMessage.sequence? : PilotMessage → Option ℕ
  | .heartbeat _ sequence => some sequence
  | .stateUpdate _ sequence _ => some sequence
  | _ => none

/-- The sequence numbers of the lifecycle writes since the latest registration. -/
def sequences : List Exchange → List ℕ
  | [] => []
  | e :: rest =>
    match e with
    | .registered _ => []
    | .sent message => message.sequence?.toList ++ sequences rest
    | _ => sequences rest

/-- The state that an accepted request carries; an acceptance follows its request. -/
def carriedState : List Exchange → Option PilotCommonState
  | .sent (.register request) :: _ => some request.initialState
  | .sent (.stateUpdate _ _ state) :: _ => some state
  | _ => none

/-- The last state accepted by Pilot in its session. -/
def acceptedState : List Exchange → Option PilotCommonState
  | [] => none
  | e :: rest =>
    match e with
    | .registered _ => carriedState rest
    | .lifecycleAccepted => (carriedState rest).or (acceptedState rest)
    | _ => acceptedState rest

/-- The session of the latest registration, unless it was discarded since. -/
def liveSession : List Exchange → Option ByteString
  | [] => none
  | e :: rest =>
    match e with
    | .registered response => some response.sessionId
    | .sent (.register _) => none
    | .catalogReplaced => none
    | .lifecycleFailed => none
    | _ => liveSession rest

/-- The sessions that disconnects were sent for. -/
def disconnects : List Exchange → List ByteString
  | [] => []
  | e :: rest =>
    match e with
    | .sent (.disconnect sessionId) => sessionId :: disconnects rest
    | _ => disconnects rest

/-- What a request of the client has to be when it is sent after the exchanges `rest`: one of a session
goes to the session of the latest registration, a publication is the same one whenever it is sent, and a
lifecycle write carries the next sequence number and comes after an accepted catalog. -/
def PilotMessage.Follows (setup : ClientSetup) (identity : ClientIdentity) (rest : List Exchange) :
    PilotMessage → Prop
  | .catalog sessionId publicationId descriptors =>
    ∃ response, latestRegistration rest = some response ∧
      PilotMessage.catalog sessionId publicationId descriptors =
        catalogMessage setup identity response.sessionId
  | .heartbeat sessionId sequence =>
    ∃ response, latestRegistration rest = some response ∧ sessionId = response.sessionId ∧
      sequence = (sequences rest).length + 1 ∧ acceptedCatalogs rest ≠ []
  | .stateUpdate sessionId sequence _ =>
    ∃ response, latestRegistration rest = some response ∧ sessionId = response.sessionId ∧
      sequence = (sequences rest).length + 1 ∧ acceptedCatalogs rest ≠ []
  | _ => True

/-- Every request in the trace follows what comes before it. -/
def Orderly (setup : ClientSetup) (identity : ClientIdentity) (exchanges : List Exchange) : Prop :=
  ∀ message rest, .sent message :: rest <:+ exchanges → message.Follows setup identity rest

section
variable {setup : ClientSetup} {identity : ClientIdentity} {exchanges : List Exchange}

theorem Orderly.nil : Orderly setup identity [] := by
  intro message rest h
  have := List.suffix_nil.mp h
  cases this

theorem Orderly.sent (h : Orderly setup identity exchanges) {message : PilotMessage}
    (hm : message.Follows setup identity exchanges) :
    Orderly setup identity (.sent message :: exchanges) := by
  intro other rest hs
  rcases List.suffix_cons_iff.mp hs with heq | hs
  · cases heq
    exact hm
  · exact h other rest hs

/-- Any other exchange asks for nothing. -/
theorem Orderly.noted (h : Orderly setup identity exchanges) {exchange : Exchange}
    (hne : ∀ message, exchange ≠ .sent message) :
    Orderly setup identity (exchange :: exchanges) := by
  intro other rest hs
  rcases List.suffix_cons_iff.mp hs with heq | hs
  · cases heq
    exact absurd rfl (hne other)
  · exact h other rest hs

theorem Orderly.of_suffix (h : Orderly setup identity exchanges) {rest : List Exchange}
    (hs : rest <:+ exchanges) : Orderly setup identity rest :=
  fun message tail ht => h message tail (ht.trans hs)

theorem range'_snoc_reverse (n : ℕ) :
    (List.range' 1 (n + 1)).reverse = (n + 1) :: (List.range' 1 n).reverse := by
  rw [List.range'_concat, List.reverse_append]
  simp [Nat.add_comm]

/-- In an orderly trace the lifecycle writes of a registration are numbered 1, 2, 3, … -/
theorem Orderly.sequences_eq (h : Orderly setup identity exchanges) :
    sequences exchanges = (List.range' 1 (sequences exchanges).length).reverse := by
  induction exchanges with
  | nil => rfl
  | cons exchange rest ih =>
    have ih := ih (h.of_suffix (List.suffix_cons ..))
    cases exchange with
    | registered response => rfl
    | sent message =>
      have hm := h message rest (List.suffix_refl _)
      cases message with
      | heartbeat sessionId sequence =>
        obtain ⟨_, _, _, rfl, _⟩ := hm
        have : sequences (.sent (.heartbeat sessionId ((sequences rest).length + 1)) :: rest) =
            ((sequences rest).length + 1) :: sequences rest := rfl
        rw [this, List.length_cons, range'_snoc_reverse, ← ih]
      | stateUpdate sessionId sequence state =>
        obtain ⟨_, _, _, rfl, _⟩ := hm
        have : sequences (.sent (.stateUpdate sessionId ((sequences rest).length + 1) state) :: rest) =
            ((sequences rest).length + 1) :: sequences rest := rfl
        rw [this, List.length_cons, range'_snoc_reverse, ← ih]
      | register request => exact ih
      | catalog sessionId publicationId descriptors => exact ih
      | disconnect sessionId => exact ih
    | catalogAccepted response => exact ih
    | catalogReplaced => exact ih
    | lifecycleAccepted => exact ih
    | lifecycleFailed => exact ih

end

end NodusVision.Pilot
