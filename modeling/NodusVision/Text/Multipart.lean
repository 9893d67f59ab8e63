import NodusVision.Text.Framing
import NodusVision.Text.JsonLexing

/-! The parts of a `multipart/x-mixed-replace` stream: a boundary, header fields, and as many bytes
as `Content-Length` says. -/
namespace NodusVision.Text

def lineEnd : ByteString := [13, 10]

structure Part where
  fields : List (ByteString × ByteString)
  content : ByteString
  deriving DecidableEq

/-- A header line without its end. -/
def writeField (field : ByteString × ByteString) : ByteString := field.1 ++ ascii ": " ++ field.2

def writePart (boundary : ByteString) (part : Part) : ByteString :=
  ascii "--" ++ boundary ++ lineEnd ++ part.fields.flatMap (fun field => writeField field ++ lineEnd) ++
    lineEnd ++ part.content ++ lineEnd

/-- The lines up to an empty one; `line` is the front of the first of them. -/
def readLines (line : ByteString) : Reader UInt8 (List ByteString)
  | 13 :: 10 :: rest =>
    if line = [] then some ([], rest)
    else (readLines [] rest).map fun lines => (line :: lines.1, lines.2)
  | b :: rest => readLines (line ++ [b]) rest
  | [] => none

/-- The name ends at the first colon. -/
def readField (line : ByteString) : Option (ByteString × ByteString) :=
  ((literal (ascii ": ")).run (line.dropWhile (· != 58))).map fun value =>
    (line.takeWhile (· != 58), value.2)

def readNat (digits : ByteString) : Option ℕ :=
  if isIntegerPart digits && digits.all isJsonDigit then some (readDigits digits) else none

def readInt : ByteString → Option ℤ
  | 45 :: digits => (readNat digits).map fun n => -n
  | digits => (readNat digits).map fun n => n

def contentLength (fields : List (ByteString × ByteString)) : Option ℕ :=
  (fields.lookup (ascii "Content-Length")).bind readNat

def readPart (boundary : ByteString) : Reader UInt8 Part := do
  literal (ascii "--" ++ boundary ++ lineEnd)
  let lines ← readLines []
  let fields ← (lines.mapM readField : Option _)
  let length ← contentLength fields
  let content ← takeExact length
  literal lineEnd
  pure ⟨fields, content⟩

theorem readNat_jsonNat (n : ℕ) : readNat (jsonNat n) = some n := by
  unfold readNat
  rw [if_pos (by
    rw [isIntegerPart_jsonNat, Bool.true_and, List.all_eq_true]
    exact isJsonDigit_jsonNat n), readDigits_jsonNat]

theorem readInt_jsonInt (n : ℤ) : readInt (jsonInt n) = some n := by
  cases n with
  | ofNat n =>
    have hsign : ∀ digits, jsonNat n ≠ 45 :: digits := by
      intro digits h
      have hdigit : isJsonDigit 45 = true :=
        isJsonDigit_jsonNat n 45 (h ▸ List.mem_cons_self)
      cases hdigit
    show readInt (jsonNat n) = _
    unfold readInt
    split
    · rename_i digits h
      exact absurd h (hsign digits)
    · rw [readNat_jsonNat]
      rfl
  | negSucc n =>
    show readInt (45 :: jsonNat (n + 1)) = _
    rw [readInt, readNat_jsonNat]
    rfl

/-- A field that fills one line: the name has no colon, and neither has a carriage return. -/
structure FieldClean (field : ByteString × ByteString) : Prop where
  name : ∀ b ∈ field.1, b ≠ 13 ∧ b ≠ 58
  value : ∀ b ∈ field.2, b ≠ 13

theorem readField_writeField {field : ByteString × ByteString} (h : FieldClean field) :
    readField (writeField field) = some field := by
  have hname : ∀ b ∈ field.1, (b != 58) = true := fun b hb => bne_iff_ne.mpr (h.name b hb).2
  have hline : writeField field = field.1 ++ 58 :: 32 :: field.2 := by
    unfold writeField
    rw [List.append_assoc]
    rfl
  have hdrop : (field.1 ++ 58 :: 32 :: field.2).dropWhile (· != 58) = 58 :: 32 :: field.2 := by
    rw [List.dropWhile_append_of_pos hname]
    rfl
  have htake : (field.1 ++ 58 :: 32 :: field.2).takeWhile (· != 58) = field.1 := by
    rw [List.takeWhile_append_of_pos hname]
    exact List.append_nil _
  unfold readField
  rw [hline, hdrop, htake]
  exact congrArg _ (literal_append (ascii ": ") field.2)

theorem readLines_byte {line : ByteString} {b : UInt8} {rest : ByteString}
    (h : b = 13 → rest.head? ≠ some 10) : readLines line (b :: rest) = readLines (line ++ [b]) rest := by
  rw [readLines]
  rintro tail rfl rfl
  exact h rfl rfl

theorem extends_readLines (line : ByteString) : Extends (readLines line) := by
  intro text lines rest h more
  change readLines line text = _ at h
  change readLines line (text ++ more) = _
  induction line, text using readLines.induct generalizing lines with
  | case1 tail =>
    rw [readLines, if_pos rfl] at h
    cases h
    rw [List.cons_append, List.cons_append, readLines, if_pos rfl]
  | case2 line tail hline ih =>
    rw [readLines, if_neg hline] at h
    obtain ⟨⟨others, left⟩, hothers, heq⟩ := Option.map_eq_some_iff.mp h
    cases heq
    rw [List.cons_append, List.cons_append, readLines, if_neg hline, ih hothers]
    rfl
  | case3 line b tail hend ih =>
    rw [readLines_byte (fun hb hhead => ?_)] at h
    · cases tail with
      | nil => cases h
      | cons c tail =>
        rw [List.cons_append, readLines_byte (fun hb hhead => ?_)]
        · exact ih h
        · exact hend tail hb (by rw [Option.some.inj hhead])
    · obtain ⟨others, rfl⟩ := List.head?_eq_some_iff.mp hhead
      exact hend others hb rfl
  | case4 line => cases h

/-- A line without a carriage return is read up to its end. -/
theorem readLines_append {line text : ByteString} (rest : ByteString) (h : ∀ b ∈ text, b ≠ 13) :
    readLines line (text ++ rest) = readLines (line ++ text) rest := by
  induction text generalizing line with
  | nil => rw [List.nil_append, List.append_nil]
  | cons b text ih =>
    rw [List.cons_append, readLines_byte fun hb => absurd hb (h b List.mem_cons_self),
      ih fun c hc => h c (List.mem_cons_of_mem b hc), List.append_assoc, List.singleton_append]

theorem readLines_lines {lines : List ByteString} (rest : ByteString)
    (h : ∀ line ∈ lines, line ≠ [] ∧ ∀ b ∈ line, b ≠ 13) :
    (readLines []).run (lines.flatMap (· ++ lineEnd) ++ lineEnd ++ rest) = some (lines, rest) := by
  induction lines with
  | nil =>
    show readLines [] (13 :: 10 :: rest) = _
    rw [readLines, if_pos rfl]
  | cons line lines ih =>
    obtain ⟨hne, hclean⟩ := h line List.mem_cons_self
    have hlines := ih fun other hother => h other (List.mem_cons_of_mem line hother)
    have hline : readLines [] (line ++ (lineEnd ++ (lines.flatMap (· ++ lineEnd) ++ lineEnd ++ rest))) =
        some (line :: lines, rest) := by
      rw [readLines_append _ hclean, List.nil_append]
      refine (if_neg hne).trans ?_
      exact congrArg _ hlines
    show readLines [] _ = _
    rw [List.flatMap_cons]
    simpa only [List.append_assoc] using hline

theorem mapM_readField {fields : List (ByteString × ByteString)}
    (h : ∀ field ∈ fields, FieldClean field) :
    (fields.map writeField).mapM readField = some fields := by
  induction fields with
  | nil => rfl
  | cons field fields ih =>
    rw [List.map_cons, List.mapM_cons, readField_writeField (h field List.mem_cons_self),
      ih fun other hother => h other (List.mem_cons_of_mem field hother)]
    rfl

theorem framing_readPart (boundary : ByteString) : Framing (readPart boundary) where
  extend := by
    refine (extends_literal _).bind fun _ => (extends_readLines []).bind fun lines => ?_
    refine (extends_lift _).bind fun fields => (extends_lift _).bind fun length => ?_
    exact (extends_takeExact length).bind fun content => (extends_literal lineEnd).bind fun _ =>
      extends_pure _
  nil := rfl

/-- The length that the header names is the length of the content. -/
structure PartClean (part : Part) : Prop where
  fields : ∀ field ∈ part.fields, FieldClean field
  length : contentLength part.fields = some part.content.length

theorem writeField_clean {field : ByteString × ByteString} (h : FieldClean field) :
    writeField field ≠ [] ∧ ∀ b ∈ writeField field, b ≠ 13 := by
  unfold writeField
  refine ⟨by simp [ascii], fun b hb => ?_⟩
  rcases List.mem_append.mp hb with hb | hb
  · rcases List.mem_append.mp hb with hb | hb
    · exact (h.name b hb).1
    · rintro rfl
      revert hb
      decide
  · exact h.value b hb

theorem readPart_writePart (boundary : ByteString) {part : Part} (h : PartClean part) :
    (readPart boundary).run (writePart boundary part) = some (part, []) := by
  have hlines : (readLines []).run (part.fields.flatMap (fun field => writeField field ++ lineEnd) ++
      lineEnd ++ (part.content ++ (lineEnd ++ []))) =
      some (part.fields.map writeField, part.content ++ (lineEnd ++ [])) := by
    rw [← List.flatMap_map (f := writeField) (g := fun line => line ++ lineEnd)]
    apply readLines_lines
    intro line hline
    obtain ⟨field, hfield, rfl⟩ := List.mem_map.mp hline
    exact writeField_clean (h.fields field hfield)
  have htext : writePart boundary part = (ascii "--" ++ boundary ++ lineEnd) ++
      (part.fields.flatMap (fun field => writeField field ++ lineEnd) ++ lineEnd ++
        (part.content ++ (lineEnd ++ []))) := by
    simp only [writePart, List.append_assoc, List.append_nil]
  unfold readPart
  rw [htext, run_bind_some (literal_append _ _), run_bind_some hlines,
    run_bind_some (run_lift_some (mapM_readField h.fields)), run_bind_some (run_lift_some h.length),
    run_bind_some (takeExact_append _ _), run_bind_some (literal_append lineEnd [])]
  rfl

end NodusVision.Text
