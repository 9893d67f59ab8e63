import Mathlib.Data.List.Perm.Subperm
import NodusVision.Text.Schema

/-! Objects that have exactly the members that a contract names. -/
namespace NodusVision.Text

mutual

/-- No object in the value has two members with one key. -/
def JsonValue.hasUniqueKeys : JsonValue → Bool
  | .array items => itemsHaveUniqueKeys items
  | .object members => decide (members.map Prod.fst).Nodup && membersHaveUniqueKeys members
  | _ => true

def itemsHaveUniqueKeys : List JsonValue → Bool
  | [] => true
  | item :: items => item.hasUniqueKeys && itemsHaveUniqueKeys items

def membersHaveUniqueKeys : List (ByteString × JsonValue) → Bool
  | [] => true
  | (_, value) :: members => value.hasUniqueKeys && membersHaveUniqueKeys members

end

/-- The keys of the object are these, none is missing and none is added. -/
def HasKeys (object : JsonObject) (keys : List String) : Prop :=
  ∀ key, key ∈ object.map Prod.fst ↔ key ∈ keys.map ascii

/-- The member is there and is an integer, written as one. -/
def HasInteger (object : JsonObject) (key : String) (n : ℤ) : Prop :=
  (object.find? (ascii key)).bind JsonValue.asInteger = some n

section
variable {object : JsonObject} {keys : List String} {key : ByteString} {value : JsonValue}

theorem hasUniqueKeys_object (h : (JsonValue.object object).hasUniqueKeys = true) :
    (object.map Prod.fst).Nodup ∧ membersHaveUniqueKeys object = true := by
  rw [JsonValue.hasUniqueKeys, Bool.and_eq_true, decide_eq_true_eq] at h
  exact h

theorem hasUniqueKeys_of_mem (h : membersHaveUniqueKeys object = true)
    (hmem : (key, value) ∈ object) : value.hasUniqueKeys = true := by
  induction object with
  | nil => cases hmem
  | cons first rest ih =>
    obtain ⟨firstKey, firstValue⟩ := first
    rw [membersHaveUniqueKeys, Bool.and_eq_true] at h
    rcases List.mem_cons.mp hmem with heq | hrest
    · cases heq
      exact h.1
    · exact ih h.2 hrest

theorem mem_of_find? (h : object.find? key = some value) : (key, value) ∈ object := by
  unfold JsonObject.find? at h
  obtain ⟨found, hfound, rfl⟩ := Option.map_eq_some_iff.mp h
  have hkey : found.1 = key := by simpa using List.find?_some hfound
  rw [← hkey]
  exact List.mem_of_find?_eq_some hfound

/-- A member of an object whose keys are unique is such a value itself. -/
theorem hasUniqueKeys_member (h : (JsonValue.object object).hasUniqueKeys = true)
    (hfound : object.find? key = some value) : value.hasUniqueKeys = true :=
  hasUniqueKeys_of_mem (hasUniqueKeys_object h).2 (mem_of_find? hfound)

theorem mem_keys_iff : key ∈ object.map Prod.fst ↔ ∃ value, object.find? key = some value := by
  constructor
  · intro h
    obtain ⟨m, hm, hkey⟩ := List.mem_map.mp h
    have hfound : (List.find? (fun m => m.1 == key) object).isSome = true := by
      rw [List.find?_isSome]
      exact ⟨m, hm, beq_iff_eq.mpr hkey⟩
    obtain ⟨found, hfound⟩ := Option.isSome_iff_exists.mp hfound
    exact ⟨found.2, by rw [JsonObject.find?, hfound]; rfl⟩
  · rintro ⟨value, h⟩
    exact List.mem_map_of_mem (f := Prod.fst) (mem_of_find? h)

/-- Where every key is looked up, the number of members decides that there is no other. -/
theorem hasKeys_iff_length (hobject : (object.map Prod.fst).Nodup) (hkeys : (keys.map ascii).Nodup)
    (hfound : ∀ key ∈ keys, ∃ value, object.find? (ascii key) = some value) :
    HasKeys object keys ↔ object.length = keys.length := by
  have hsub : keys.map ascii ⊆ object.map Prod.fst := by
    intro key hkey
    obtain ⟨name, hname, rfl⟩ := List.mem_map.mp hkey
    exact mem_keys_iff.mpr (hfound name hname)
  have hlengths : object.length = keys.length ↔
      (object.map Prod.fst).length = (keys.map ascii).length := by
    rw [List.length_map, List.length_map]
  rw [hlengths]
  constructor
  · intro h
    have hperm : (object.map Prod.fst).Perm (keys.map ascii) :=
      (List.perm_ext_iff_of_nodup hobject hkeys).mpr h
    exact hperm.length_eq
  · intro hlength key
    have hperm : (keys.map ascii).Perm (object.map Prod.fst) :=
      (List.subperm_of_subset hkeys hsub).perm_of_length_le hlength.le
    exact (hperm.mem_iff).symm

/-- The values of a closed object schema are the objects with its keys and members of their schemas. -/
theorem conforms_closed {formatDouble : ℚ → ByteString} {fields : List (ByteString × Schema)}
    {schemed : JsonValue} (keys : List String) (hfields : fields.map Prod.fst = keys.map ascii) :
    conforms formatDouble (.object fields) schemed = true ↔
      ∃ members, schemed = .object members ∧ HasKeys members keys ∧
        haveFields formatDouble fields members = true := by
  unfold HasKeys
  rw [← hfields]
  cases schemed with
  | object members =>
    simp only [conforms, Bool.and_eq_true, List.all_eq_true, List.contains_iff_mem]
    constructor
    · rintro ⟨hknown, hhave⟩
      refine ⟨members, rfl, ?_, hhave⟩
      intro key
      constructor
      · intro hkey
        obtain ⟨m, hm, rfl⟩ := List.mem_map.mp hkey
        exact hknown m hm
      · intro hkey
        obtain ⟨f, hf, rfl⟩ := List.mem_map.mp hkey
        obtain ⟨value, hfound, -⟩ := haveFields_iff.mp hhave f hf
        exact mem_keys_iff.mpr ⟨value, hfound⟩
    · rintro ⟨found, heq, hkeys, hhave⟩
      cases heq
      refine ⟨?_, hhave⟩
      intro m hm
      exact (hkeys m.1).mp (List.mem_map_of_mem hm)
  | _ =>
    constructor
    · intro h
      simp only [conforms, Bool.false_eq_true] at h
    · rintro ⟨members, heq, -⟩
      cases heq

theorem HasKeys.found (h : HasKeys object keys) :
    ∀ key ∈ keys, ∃ value, object.find? (ascii key) = some value := by
  intro key hkey
  exact mem_keys_iff.mp ((h (ascii key)).mpr (List.mem_map_of_mem hkey))

theorem HasKeys.length_eq (h : HasKeys object keys) (hobject : (object.map Prod.fst).Nodup)
    (hkeys : (keys.map ascii).Nodup) : object.length = keys.length :=
  (hasKeys_iff_length hobject hkeys h.found).mp h

end
end NodusVision.Text
