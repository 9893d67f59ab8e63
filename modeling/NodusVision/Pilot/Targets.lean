import NodusVision.Pilot.Messages
import NodusVision.Text.UrlPath

/-! The targets of the requests to Pilot, and the resources that they address. -/
namespace NodusVision.Pilot
open Text

theorem hexValue_upperHexDigit {n : ℕ} (h : n < 16) : hexValue (upperHexDigit n) = some n := by
  have hall : ∀ n : Fin 16, hexValue (upperHexDigit n) = some n.val := by decide
  exact hall ⟨n, h⟩

theorem upperHexDigit_ne_slash {n : ℕ} (h : n < 16) : upperHexDigit n ≠ 47 := by
  have hall : ∀ n : Fin 16, upperHexDigit n ≠ 47 := by decide
  exact hall ⟨n, h⟩

theorem isUnreserved_ne {c reserved : UInt8} (h : isUnreserved c = true)
    (hreserved : isUnreserved reserved = false) : c ≠ reserved := by
  rintro rfl
  cases h.symm.trans hreserved

theorem slash_not_mem_encodePathByte (c : UInt8) : 47 ∉ encodePathByte c := by
  have hlow : c.toNat % 16 < 16 := by omega
  have hhigh : c.toNat / 16 < 16 := by
    have := c.toNat_lt
    omega
  unfold encodePathByte
  split
  · rename_i hc
    have hne := @isUnreserved_ne c 47 hc (by decide)
    rw [List.mem_singleton]
    exact hne.symm
  · simp only [List.mem_cons, List.not_mem_nil, or_false, not_or]
    exact ⟨by decide, (upperHexDigit_ne_slash hhigh).symm, (upperHexDigit_ne_slash hlow).symm⟩

theorem slash_not_mem_encodePathSegment (input : ByteString) : 47 ∉ encodePathSegment input := by
  intro h
  obtain ⟨c, -, hc⟩ := List.mem_flatMap.mp h
  exact slash_not_mem_encodePathByte c hc

theorem percentDecode_encodePathByte (c : UInt8) (rest : ByteString) :
    percentDecode (encodePathByte c ++ rest) = (percentDecode rest).map (c :: ·) := by
  unfold encodePathByte
  split
  · rename_i hc
    exact percentDecode_cons (isUnreserved_ne hc (by decide)) rest
  · have hlow : c.toNat % 16 < 16 := by omega
    have hhigh : c.toNat / 16 < 16 := by
      have := c.toNat_lt
      omega
    have hvalue : 16 * (c.toNat / 16) + c.toNat % 16 = c.toNat := by omega
    show percentDecode (37 :: _ :: _ :: rest) = _
    rw [percentDecode, hexValue_upperHexDigit hhigh, hexValue_upperHexDigit hlow, Option.bind_some,
      Option.bind_some, hvalue, UInt8.ofNat_toNat]

theorem isPchar_of_isUnreserved {c : UInt8} (h : isUnreserved c = true) : isPchar c = true := by
  unfold isUnreserved at h
  unfold isPchar
  simp only [Bool.or_eq_true, beq_iff_eq] at h ⊢
  rcases h with (((((h | h) | h) | rfl) | rfl) | rfl) | rfl
  · exact .inl (.inl (.inl (.inl h)))
  · exact .inl (.inl (.inl (.inr h)))
  · exact .inl (.inl (.inr h))
  all_goals exact .inr (by decide)

theorem isSegment_encodePathByte (c : UInt8) (rest : ByteString) :
    isSegment (encodePathByte c ++ rest) = isSegment rest := by
  unfold encodePathByte
  split
  · rename_i hc
    have hcons := isSegment_cons (isUnreserved_ne hc (by decide)) rest
    rw [isPchar_of_isUnreserved hc, Bool.true_and] at hcons
    exact hcons
  · have hlow : c.toNat % 16 < 16 := by omega
    have hhigh : c.toNat / 16 < 16 := by
      have := c.toNat_lt
      omega
    show isSegment (37 :: _ :: _ :: rest) = _
    rw [isSegment, hexValue_upperHexDigit hhigh, hexValue_upperHexDigit hlow]
    rfl

/-- The encoding of every byte string is a segment. -/
theorem isSegment_encodePathSegment (input : ByteString) : isSegment (encodePathSegment input) = true := by
  induction input with
  | nil => rfl
  | cons c input ih =>
    have hcons : encodePathSegment (c :: input) = encodePathByte c ++ encodePathSegment input :=
      List.flatMap_cons
    rw [hcons, isSegment_encodePathByte, ih]

/-- Every byte string survives the encoding. -/
theorem percentDecode_encodePathSegment (input : ByteString) :
    percentDecode (encodePathSegment input) = some input := by
  induction input with
  | nil => rfl
  | cons c input ih =>
    have hcons : encodePathSegment (c :: input) = encodePathByte c ++ encodePathSegment input :=
      List.flatMap_cons
    rw [hcons, percentDecode_encodePathByte, ih, Option.map_some]

theorem encodePathSegment_injective : Function.Injective encodePathSegment := by
  intro a b h
  have hdecode := percentDecode_encodePathSegment a
  rw [h, percentDecode_encodePathSegment b] at hdecode
  exact (Option.some.inj hdecode).symm

/-- The dot segments are not encoded, and nothing else is encoded as one. -/
theorem isDotSegment_encodePathSegment (input : ByteString) :
    isDotSegment (encodePathSegment input) = isDotSegment input := by
  have hone : encodePathSegment [46] = [46] := by decide
  have htwo : encodePathSegment [46, 46] = [46, 46] := by decide
  have hiff : isDotSegment (encodePathSegment input) = true ↔ isDotSegment input = true := by
    unfold isDotSegment
    simp only [Bool.or_eq_true, beq_iff_eq]
    constructor
    · rintro (h | h)
      · exact .inl (encodePathSegment_injective (h.trans hone.symm))
      · exact .inr (encodePathSegment_injective (h.trans htwo.symm))
    · rintro (rfl | rfl)
      · exact .inl hone
      · exact .inr htwo
  exact Bool.eq_iff_iff.mpr hiff

theorem encodePathSegment_eq_nil {input : ByteString} : encodePathSegment input = [] ↔ input = [] := by
  constructor
  · intro h
    exact encodePathSegment_injective h
  · rintro rfl
    rfl

/-- The session that a request belongs to. -/
def PilotMessage.sessionId? : PilotMessage → Option ByteString
  | .register _ => none
  | .catalog sessionId _ _ => some sessionId
  | .heartbeat sessionId _ => some sessionId
  | .stateUpdate sessionId _ _ => some sessionId
  | .disconnect sessionId => some sessionId

def PilotMessage.operation : PilotMessage → ByteString
  | .register _ => ascii "register"
  | .catalog .. => ascii "endpoint-catalog"
  | .heartbeat .. => ascii "heartbeat"
  | .stateUpdate .. => ascii "state"
  | .disconnect _ => ascii "disconnect"

theorem operation_ne_register {message : PilotMessage} {sessionId : ByteString}
    (h : message.sessionId? = some sessionId) : message.operation ≠ ascii "register" := by
  cases message with
  | register => cases h
  | catalog | heartbeat | stateUpdate | disconnect =>
    simp only [PilotMessage.operation]
    decide

/-- The resource that a request is meant for, below the base URL. -/
def PilotMessage.resource (message : PilotMessage) : List ByteString :=
  [ascii "api", ascii "v1", ascii "components"] ++ message.sessionId?.toList ++ [message.operation]

/-- The segments of the targets that the program writes. -/
def fixedSegments : List ByteString :=
  [ascii "api", ascii "v1", ascii "components", ascii "register", ascii "endpoint-catalog",
    ascii "heartbeat", ascii "state", ascii "disconnect"]

theorem fixedSegments_plain : ∀ segment ∈ fixedSegments,
    encodePathSegment segment = segment ∧ isDotSegment segment = false ∧ segment ≠ [] := by
  decide

theorem operation_mem (message : PilotMessage) : message.operation ∈ fixedSegments := by
  unfold PilotMessage.operation fixedSegments
  cases message <;> simp

theorem encodePathSegment_operation (message : PilotMessage) :
    encodePathSegment message.operation = message.operation :=
  (fixedSegments_plain _ (operation_mem message)).1

theorem isDotSegment_operation (message : PilotMessage) : isDotSegment message.operation = false :=
  (fixedSegments_plain _ (operation_mem message)).2.1

theorem PilotMessage.target_eq (message : PilotMessage) :
    message.target = (message.resource.map encodePathSegment).flatMap (47 :: ·) := by
  have hapi := (fixedSegments_plain (ascii "api") (by decide)).1
  have hversion := (fixedSegments_plain (ascii "v1") (by decide)).1
  have hcomponents := (fixedSegments_plain (ascii "components") (by decide)).1
  unfold PilotMessage.resource
  rw [List.map_append, List.map_append, List.map_singleton, encodePathSegment_operation]
  simp only [List.map_cons, List.map_nil, hapi, hversion, hcomponents]
  cases message with
  | register request => rfl
  | catalog sessionId | heartbeat sessionId | stateUpdate sessionId | disconnect sessionId =>
    simp [PilotMessage.target, sessionPath, PilotMessage.sessionId?, PilotMessage.operation, ascii]

/-- The segments of the request target, as it is sent. -/
def PilotMessage.sentSegments (basePath : ByteString) (message : PilotMessage) : List ByteString :=
  urlSegments (basePath ++ message.target)

/-- The resource that a server finds at the target. -/
def PilotMessage.addressed (basePath : ByteString) (message : PilotMessage) :
    List (Option ByteString) :=
  (removeDotSegments (message.sentSegments basePath)).map percentDecode

theorem PilotMessage.sentSegments_eq (basePath : ByteString) (message : PilotMessage) :
    message.sentSegments basePath =
      urlSegments basePath ++ message.resource.map encodePathSegment := by
  unfold PilotMessage.sentSegments
  rw [message.target_eq]
  apply urlSegments_append
  intro segment hsegment
  obtain ⟨input, -, rfl⟩ := List.mem_map.mp hsegment
  exact slash_not_mem_encodePathSegment input

theorem map_percentDecode_encode (segments : List ByteString) :
    (segments.map encodePathSegment).map percentDecode = segments.map some := by
  rw [List.map_map]
  apply List.map_congr_left
  intro segment _
  exact percentDecode_encodePathSegment segment

/-- The resource is found where it is meant, unless the session id is a dot segment. -/
theorem PilotMessage.addressed_eq {basePath : ByteString} {message : PilotMessage}
    (h : ∀ sessionId ∈ message.sessionId?, isDotSegment sessionId = false) :
    message.addressed basePath =
      (keptSegments (urlSegments basePath)).map percentDecode ++ message.resource.map some := by
  have hdots : ∀ segment ∈ message.resource.map encodePathSegment, isDotSegment segment = false := by
    intro segment hsegment
    obtain ⟨input, hinput, rfl⟩ := List.mem_map.mp hsegment
    rw [isDotSegment_encodePathSegment]
    unfold PilotMessage.resource at hinput
    rcases List.mem_append.mp hinput with hinput | hoperation
    · rcases List.mem_append.mp hinput with hfixed | hsession
      · have hall : ∀ fixed ∈ [ascii "api", ascii "v1", ascii "components"],
            isDotSegment fixed = false := by decide
        exact hall input hfixed
      · exact h input (Option.mem_toList.mp hsession)
    · rw [List.mem_singleton.mp hoperation]
      exact isDotSegment_operation message
  have hne : message.resource.map encodePathSegment ≠ [] := by
    unfold PilotMessage.resource
    simp
  unfold PilotMessage.addressed
  rw [message.sentSegments_eq, removeDotSegments_append hne hdots, List.map_append,
    map_percentDecode_encode]

/-- The segments before the operation that are left when the session id is a dot segment. -/
def leftOfDot (sessionId : ByteString) : List ByteString :=
  if sessionId = [46] then [ascii "api", ascii "v1", ascii "components"]
  else [ascii "api", ascii "v1"]

theorem leftOfDot_subset (sessionId : ByteString) :
    ∀ segment ∈ leftOfDot sessionId, segment ∈ fixedSegments := by
  unfold leftOfDot
  split
  · decide
  · decide

theorem percentDecode_fixed {segment : ByteString} (h : segment ∈ fixedSegments) :
    percentDecode segment = some segment := by
  have hdecode := percentDecode_encodePathSegment segment
  rwa [(fixedSegments_plain segment h).1] at hdecode

theorem PilotMessage.addressed_of_dot {basePath sessionId : ByteString} {message : PilotMessage}
    (hsession : message.sessionId? = some sessionId) (hdot : isDotSegment sessionId = true) :
    message.addressed basePath =
      (keptSegments (urlSegments basePath)).map percentDecode ++
        (leftOfDot sessionId ++ [message.operation]).map some := by
  have hplain : ∀ segment ∈ [ascii "api", ascii "v1", ascii "components"],
      isDotSegment segment = false := by decide
  have hlast : ∀ segment ∈ [message.operation], isDotSegment segment = false := by
    intro segment hsegment
    rw [List.mem_singleton.mp hsegment]
    exact isDotSegment_operation message
  unfold isDotSegment at hdot
  rw [Bool.or_eq_true, beq_iff_eq, beq_iff_eq] at hdot
  have hencode : encodePathSegment sessionId = sessionId := by
    rcases hdot with rfl | rfl <;> decide
  have hsegments : message.sentSegments basePath =
      urlSegments basePath ++ [ascii "api", ascii "v1", ascii "components"] ++ [sessionId] ++
        [message.operation] := by
    have hfixed : [ascii "api", ascii "v1", ascii "components"].map encodePathSegment =
        [ascii "api", ascii "v1", ascii "components"] := by decide
    rw [message.sentSegments_eq]
    unfold PilotMessage.resource
    rw [hsession, Option.toList_some, List.map_append, List.map_append, hfixed, List.map_singleton,
      List.map_singleton, hencode, encodePathSegment_operation]
    simp only [List.append_assoc]
  have hleft : keptSegments (urlSegments basePath ++ [ascii "api", ascii "v1", ascii "components"] ++
      [sessionId]) = keptSegments (urlSegments basePath) ++ leftOfDot sessionId := by
    rcases hdot with rfl | rfl
    · rw [keptSegments_dot, keptSegments_append hplain]
      rfl
    · rw [keptSegments_dotdot, keptSegments_append hplain, List.dropLast_append_of_ne_nil (by simp)]
      rfl
  have hdecode : (leftOfDot sessionId ++ [message.operation]).map percentDecode =
      (leftOfDot sessionId ++ [message.operation]).map some := by
    apply List.map_congr_left
    intro segment hsegment
    apply percentDecode_fixed
    rcases List.mem_append.mp hsegment with hleft | hoperation
    · exact leftOfDot_subset sessionId segment hleft
    · rw [List.mem_singleton.mp hoperation]
      exact operation_mem message
  unfold PilotMessage.addressed
  rw [hsegments, removeDotSegments_append (List.cons_ne_nil _ _) hlast, hleft, List.append_assoc,
    List.map_append, hdecode]

end NodusVision.Pilot
