import NodusVision.Text.Json

/-! The segments of a URL path and their bytes, the removal of its dot segments, and percent-decoding. -/
namespace NodusVision.Text

/-- The segments of a path that is empty or starts with a slash. -/
def urlSegments (path : ByteString) : List ByteString := (path.splitOnP (· == 47)).tail

def isDotSegment (segment : ByteString) : Bool := segment == [46] || segment == [46, 46]

/-- The output of the removal of dot segments, the newest first. -/
def dotStep (output : List ByteString) (segment : ByteString) : List ByteString :=
  if segment = [46] then output else if segment = [46, 46] then output.tail else segment :: output

/-- A dot segment at the end leaves an empty one. -/
def removeDotSegments (segments : List ByteString) : List ByteString :=
  let output := segments.foldl dotStep []
  (if segments.getLast?.any isDotSegment then [] :: output else output).reverse

def hexValue (digit : UInt8) : Option ℕ :=
  if 48 ≤ digit ∧ digit ≤ 57 then some (digit.toNat - 48)
  else if 65 ≤ digit ∧ digit ≤ 70 then some (digit.toNat - 55)
  else if 97 ≤ digit ∧ digit ≤ 102 then some (digit.toNat - 87)
  else none

def percentDecode : ByteString → Option ByteString
  | 37 :: high :: low :: rest =>
    (hexValue high).bind fun h => (hexValue low).bind fun l =>
      (percentDecode rest).map (UInt8.ofNat (16 * h + l) :: ·)
  | 37 :: _ => none
  | [] => some []
  | c :: rest => (percentDecode rest).map (c :: ·)

/-- The bytes that a `pchar` may be, unless it is percent-encoded. -/
def isPchar (c : UInt8) : Bool :=
  (97 ≤ c && c ≤ 122) || (65 ≤ c && c ≤ 90) || (48 ≤ c && c ≤ 57) || c == 39 ||
    (ascii "-._~!$&()*+,;=:@").contains c

/-- `*pchar` -/
def isSegment : ByteString → Bool
  | 37 :: high :: low :: rest =>
    (hexValue high).isSome && (hexValue low).isSome && isSegment rest
  | [] => true
  | c :: rest => isPchar c && isSegment rest

theorem isSegment_cons {c : UInt8} (hc : c ≠ 37) (rest : ByteString) :
    isSegment (c :: rest) = (isPchar c && isSegment rest) := by
  rw [isSegment]
  intro _ _ _ heq _
  exact hc heq

/-- No slash follows a slash or ends the path. -/
def SlashesApart (path : ByteString) : Prop := path.getLast? ≠ some 47 ∧ ¬ [47, 47] <:+: path

theorem tail_append_of_ne_nil {α : Type} {front back : List α} (h : front ≠ []) :
    (front ++ back).tail = front.tail ++ back := by
  cases front with
  | nil => exact absurd rfl h
  | cons a front => rfl

theorem urlSegments_append_slash (path rest : ByteString) :
    urlSegments (path ++ 47 :: rest) = urlSegments path ++ rest.splitOnP (· == 47) := by
  have hslash : ((47 : UInt8) == 47) = true := rfl
  have hsplit := List.splitOnP_append_cons (p := (· == (47 : UInt8))) path rest hslash
  unfold urlSegments
  rw [hsplit, tail_append_of_ne_nil (List.splitOnP_ne_nil _ path)]

theorem splitOnP_slash_singleton {segment : ByteString} (h : 47 ∉ segment) :
    segment.splitOnP (· == 47) = [segment] := by
  apply List.splitOnP_eq_singleton
  intro c hc
  rw [beq_eq_false_iff_ne]
  intro heq
  exact h (heq ▸ hc)

/-- The segments of a path that is continued by segments without slashes. -/
theorem urlSegments_append (path : ByteString) {segments : List ByteString}
    (h : ∀ segment ∈ segments, 47 ∉ segment) :
    urlSegments (path ++ segments.flatMap (47 :: ·)) = urlSegments path ++ segments := by
  induction segments generalizing path with
  | nil => rw [List.flatMap_nil, List.append_nil, List.append_nil]
  | cons segment segments ih =>
    have hsegment := splitOnP_slash_singleton (h segment List.mem_cons_self)
    have hrest : ∀ s ∈ segments, 47 ∉ s := fun s hs => h s (List.mem_cons_of_mem segment hs)
    rw [List.flatMap_cons, ← List.append_assoc, ih (path ++ 47 :: segment) hrest,
      urlSegments_append_slash, hsegment, List.append_assoc, List.singleton_append]

theorem empty_segment_of_tail {path : ByteString} (h : [] ∈ urlSegments path) :
    path.getLast? = some 47 ∨ [47, 47] <:+: path := by
  induction path with
  | nil => cases h
  | cons c rest ih =>
    have hextend (h : rest.getLast? = some 47 ∨ [47, 47] <:+: rest) :
        (c :: rest).getLast? = some 47 ∨ [47, 47] <:+: c :: rest := by
      rcases h with hlast | hinfix
      · left
        rw [List.getLast?_cons, hlast, Option.getD_some]
      · right
        exact List.infix_cons hinfix
    unfold urlSegments at h
    rw [List.splitOnP_cons_eq_if_modifyHead] at h
    by_cases hc : c = 47
    · subst hc
      have hslash : ((47 : UInt8) == 47) = true := rfl
      rw [if_pos hslash, List.tail_cons] at h
      cases rest with
      | nil => exact .inl rfl
      | cons d rest =>
        by_cases hd : d = 47
        · subst hd
          exact .inr ⟨[], rest, rfl⟩
        · -- The first of the segments starts with `d`.
          apply hextend
          apply ih
          have hd' : ¬ (d == 47) = true := by simpa using hd
          rw [List.splitOnP_cons_eq_if_modifyHead, if_neg hd'] at h
          unfold urlSegments
          rw [List.splitOnP_cons_eq_if_modifyHead, if_neg hd']
          cases hsplit : rest.splitOnP (· == 47) with
          | nil => exact absurd hsplit (List.splitOnP_ne_nil _ rest)
          | cons first others =>
            rw [hsplit, List.modifyHead_cons] at h
            rcases List.mem_cons.mp h with hfirst | hothers
            · cases hfirst
            · exact hothers
    · have hc' : ¬ (c == 47) = true := by simpa using hc
      rw [if_neg hc', List.tail_modifyHead] at h
      exact hextend (ih h)

/-- A path has an empty segment exactly when two slashes meet or one ends it. -/
theorem no_empty_segment_iff {path : ByteString} :
    [] ∉ urlSegments path ↔ SlashesApart path := by
  constructor
  · intro h
    constructor
    · intro hlast
      obtain ⟨front, rfl⟩ := List.getLast?_eq_some_iff.mp hlast
      rw [urlSegments_append_slash] at h
      exact h (List.mem_append_right _ List.mem_cons_self)
    · rintro ⟨front, back, rfl⟩
      have hassoc : front ++ [47, 47] ++ back = front ++ 47 :: ([] ++ 47 :: back) := by simp
      have hslash : ((47 : UInt8) == 47) = true := rfl
      rw [hassoc, urlSegments_append_slash,
        List.splitOnP_append_cons (p := (· == (47 : UInt8))) [] back hslash] at h
      exact h (List.mem_append_right _ (List.mem_append_left _ List.mem_cons_self))
  · rintro ⟨hlast, hinfix⟩ h
    rcases empty_segment_of_tail h with h | h
    · exact hlast h
    · exact hinfix h

theorem dotStep_of_not_dot {output : List ByteString} {segment : ByteString}
    (h : isDotSegment segment = false) : dotStep output segment = segment :: output := by
  unfold isDotSegment at h
  rw [Bool.or_eq_false_iff, beq_eq_false_iff_ne, beq_eq_false_iff_ne] at h
  unfold dotStep
  rw [if_neg h.1, if_neg h.2]

theorem foldl_dotStep {segments output : List ByteString}
    (h : ∀ segment ∈ segments, isDotSegment segment = false) :
    segments.foldl dotStep output = segments.reverse ++ output := by
  induction segments generalizing output with
  | nil => rfl
  | cons segment segments ih =>
    have hrest : ∀ s ∈ segments, isDotSegment s = false :=
      fun s hs => h s (List.mem_cons_of_mem segment hs)
    rw [List.foldl_cons, dotStep_of_not_dot (h segment List.mem_cons_self), ih hrest,
      List.reverse_cons, List.append_assoc, List.singleton_append]

/-- What the removal leaves of segments that are continued. -/
def keptSegments (front : List ByteString) : List ByteString := (front.foldl dotStep []).reverse

/-- Segments that are no dot segments survive after any front. -/
theorem keptSegments_append {front back : List ByteString}
    (h : ∀ segment ∈ back, isDotSegment segment = false) :
    keptSegments (front ++ back) = keptSegments front ++ back := by
  unfold keptSegments
  rw [List.foldl_append, foldl_dotStep h, List.reverse_append, List.reverse_reverse]

theorem keptSegments_dot (front : List ByteString) :
    keptSegments (front ++ [[46]]) = keptSegments front := by
  unfold keptSegments
  rw [List.foldl_append]
  rfl

theorem keptSegments_dotdot (front : List ByteString) :
    keptSegments (front ++ [[46, 46]]) = (keptSegments front).dropLast := by
  unfold keptSegments
  rw [List.foldl_append, List.dropLast_reverse]
  rfl

theorem removeDotSegments_append {front back : List ByteString} (hne : back ≠ [])
    (h : ∀ segment ∈ back, isDotSegment segment = false) :
    removeDotSegments (front ++ back) = keptSegments front ++ back := by
  have hlast : ((front ++ back).getLast?.any isDotSegment) = false := by
    rw [List.getLast?_append_of_ne_nil _ hne]
    cases hlast : back.getLast? with
    | none => rfl
    | some last => exact h last (List.mem_of_getLast? hlast)
  have hkept := @keptSegments_append front back h
  unfold keptSegments at hkept
  unfold removeDotSegments
  simp only [hlast, Bool.false_eq_true, if_false]
  exact hkept

theorem percentDecode_cons {c : UInt8} (hc : c ≠ 37) (rest : ByteString) :
    percentDecode (c :: rest) = (percentDecode rest).map (c :: ·) := by
  rw [percentDecode]
  · intro _ _ _ heq _
    exact hc heq
  · intro heq
    exact hc heq

end NodusVision.Text
