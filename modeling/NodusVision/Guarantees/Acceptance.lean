import NodusVision.Config.Agreement
import NodusVision.Guarantees.PilotContract

/-! Whether the parser accepts the texts that conform to the schema and the rules. -/
namespace NodusVision.Guarantees
open Text Program Config

section
variable (parse : JsonParser) (rounding : Rounding) (jsonText : ByteString)

/-- The text is a document that conforms. -/
def Conforms : Prop := ∃ root, parse jsonText = some (.object root) ∧ conformsToSchema root = true

/-- A configuration for a text that conforms, and a `std::invalid_argument` for every other. -/
structure AcceptanceMatches : Prop where
  accepts : Conforms parse jsonText → Succeeds (parseVisionConfig parse rounding jsonText)
  rejects : ¬ Conforms parse jsonText →
    ∃ what, parseVisionConfig parse rounding jsonText = .error (.invalidArgument what)

end

section
variable {parse : JsonParser} {rounding : Rounding} {jsonText : ByteString}

/-- The parser matches when it accepts what conforms and throws nothing else. -/
theorem acceptanceMatches_iff : AcceptanceMatches parse rounding jsonText ↔
    (Conforms parse jsonText ↔ Succeeds (parseVisionConfig parse rounding jsonText)) ∧
      Refuses (parseVisionConfig parse rounding jsonText) := by
  constructor
  · intro h
    have hsucceeds : Succeeds (parseVisionConfig parse rounding jsonText) → Conforms parse jsonText := by
      rintro ⟨config, hconfig⟩
      by_contra hnot
      obtain ⟨what, hwhat⟩ := h.rejects hnot
      rw [hconfig] at hwhat
      cases hwhat
    refine ⟨⟨h.accepts, hsucceeds⟩, ?_⟩
    intro e he
    by_cases hconforms : Conforms parse jsonText
    · obtain ⟨config, hconfig⟩ := h.accepts hconforms
      rw [hconfig] at he
      cases he
    · obtain ⟨what, hwhat⟩ := h.rejects hconforms
      rw [hwhat] at he
      cases he
      exact trivial
  · rintro ⟨hiff, hrefuses⟩
    refine ⟨hiff.mp, ?_⟩
    intro hnot
    rcases succeeds_or_error (parseVisionConfig parse rounding jsonText) with hsucceeds | ⟨e, he⟩
    · exact absurd (hiff.mpr hsucceeds) hnot
    · have hinvalid := hrefuses e he
      cases e with
      | invalidArgument what => exact ⟨what, he⟩
      | _ => exact hinvalid.elim

/-- A text that is no object does not conform and is refused. -/
theorem not_object_matches (h : ∀ root, parse jsonText ≠ some (.object root)) :
    AcceptanceMatches parse rounding jsonText := by
  have hnot : ¬ Conforms parse jsonText := by
    rintro ⟨root, hroot, -⟩
    exact h root hroot
  have hnone : (parse jsonText).bind JsonValue.asObject = none := by
    cases hparse : parse jsonText with
    | none => rfl
    | some value =>
      cases value with
      | object root => exact absurd hparse (h root)
      | _ => rfl
  refine ⟨fun hconforms => absurd hconforms hnot, fun _ => ?_⟩
  unfold parseVisionConfig
  rw [hnone]
  exact ⟨_, rfl⟩

end

/-- The parser matches the schema exactly when it reaches no read that throws something else and, for
a document that conforms apart from the depth range, stores its numbers as the parser wants them. -/
theorem parseVisionConfig_matches_iff {parse : JsonParser} {rounding : Rounding} {jsonText : ByteString}
    (hrounding : rounding.Faithful)
    (hwords : ∀ root, parse jsonText = some (.object root) → areRepresentable root = true) :
    AcceptanceMatches parse rounding jsonText ↔
      ∀ root, parse jsonText = some (.object root) → isConfigRead rounding root = true ∧
        (configSchema root = true →
          isDepthRange extendedOf (memberOf root "device") = isConfigPlain rounding root) := by
  by_cases hobject : ∃ root, parse jsonText = some (.object root)
  · obtain ⟨root, hparse⟩ := hobject
    have hroot := hwords root hparse
    have hconforms : Conforms parse jsonText ↔ conformsToSchema root = true := by
      constructor
      · rintro ⟨other, hother, h⟩
        rw [hparse] at hother
        cases hother
        exact h
      · intro h
        exact ⟨root, hparse, h⟩
    rw [acceptanceMatches_iff, hconforms, succeeds_parseVisionConfig hparse hroot hrounding,
      refuses_parseVisionConfig hparse hroot hrounding, conformsToSchema, Bool.and_eq_true,
      and_congr_right_iff, ← Bool.eq_iff_iff]
    constructor
    · rintro ⟨hplain, hread⟩ other hother
      rw [hparse] at hother
      cases hother
      exact ⟨hread, hplain⟩
    · intro h
      obtain ⟨hread, hplain⟩ := h root hparse
      exact ⟨hplain, hread⟩
  · have hnone : ∀ root, parse jsonText ≠ some (.object root) := fun root hroot => hobject ⟨root, hroot⟩
    exact iff_of_true (not_object_matches hnone) (fun root hroot => absurd hroot (hnone root))

theorem exact_faithful : exact.Faithful where
  monotone := by
    intro a b h
    exact Rat.intCast_le_intCast.mpr h
  exact := fun _ _ _ => rfl

/-- The document as its text. -/
theorem parseOne_serialize (document : JsonValue) :
    parseOne document (document.serialize unitText) = some document := if_pos rfl

theorem parseOne_object {document : JsonValue} {root : JsonObject}
    (h : parseOne document (document.serialize unitText) = some (.object root)) :
    root = (document.asObject).getD [] := by
  rw [parseOne_serialize] at h
  cases h
  rfl

set_option maxRecDepth 100000 in
theorem parseVisionConfig_matches_fake :
    AcceptanceMatches (parseOne (configDocument (ascii "fake") (ascii "camera.fake") (ascii "optical")))
      exact ((configDocument (ascii "fake") (ascii "camera.fake") (ascii "optical")).serialize unitText) := by
  have hwords : areRepresentable
      ((configDocument (ascii "fake") (ascii "camera.fake") (ascii "optical")).asObject.getD []) = true := by
    decide
  have hread : isConfigRead exact
      ((configDocument (ascii "fake") (ascii "camera.fake") (ascii "optical")).asObject.getD []) = true := by
    decide
  have hplain : (isDepthRange extendedOf (memberOf
      ((configDocument (ascii "fake") (ascii "camera.fake") (ascii "optical")).asObject.getD []) "device") ==
      isConfigPlain exact
        ((configDocument (ascii "fake") (ascii "camera.fake") (ascii "optical")).asObject.getD [])) = true := by
    decide
  refine (parseVisionConfig_matches_iff exact_faithful ?_).mpr ?_
  · intro root hroot
    rw [parseOne_object hroot]
    exact hwords
  · intro root hroot
    rw [parseOne_object hroot]
    exact ⟨hread, fun _ => eq_of_beq hplain⟩

/-- The example document with another URL for Pilot. -/
def pilotDocument (url : String) : JsonValue :=
  withMember (.string (ascii url)) ["pilot", "base_url"]
    (configDocument (ascii "fake") (ascii "camera.fake") (ascii "optical"))

set_option maxRecDepth 100000 in
/-- A port with more digits than `int` has room for. -/
theorem parseVisionConfig_escapes :
    ¬ AcceptanceMatches (parseOne (pilotDocument "http://127.0.0.1:99999999999")) exact
      ((pilotDocument "http://127.0.0.1:99999999999").serialize unitText) := by
  have hwords : areRepresentable
      ((pilotDocument "http://127.0.0.1:99999999999").asObject.getD []) = true := by decide +kernel
  have hread : isConfigRead exact
      ((pilotDocument "http://127.0.0.1:99999999999").asObject.getD []) = false := by decide +kernel
  have hobject : parseOne (pilotDocument "http://127.0.0.1:99999999999")
      ((pilotDocument "http://127.0.0.1:99999999999").serialize unitText) =
      some (.object ((pilotDocument "http://127.0.0.1:99999999999").asObject.getD [])) :=
    parseOne_serialize _
  intro h
  have hrefuses := (acceptanceMatches_iff.mp h).2
  rw [refuses_parseVisionConfig hobject hwords exact_faithful, hread] at hrefuses
  cases hrefuses

set_option maxRecDepth 100000 in
/-- A rotation of 1e400 conforms and is refused. -/
example :
    let document := withMember (.infinity false) ["calibration", "mount_local_transform", "r1"]
      (configDocument (ascii "fake") (ascii "camera.fake") (ascii "optical"))
    (conformsToSchema (document.asObject.getD []) &&
      !isConfigPlain exact (document.asObject.getD [])) = true := by
  decide +kernel

end NodusVision.Guarantees
