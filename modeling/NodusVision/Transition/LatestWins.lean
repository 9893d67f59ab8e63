import Mathlib.Data.List.MinMax

/-! Slots that keep the offered value with the largest key. -/
namespace NodusVision.Transition
variable {α κ : Type} (key : α → κ)

/-- The key of the value in a slot, below every key when the slot is empty. -/
def slotKey (slot : Option α) : WithBot κ := slot.map key

variable {key} in
@[simp] theorem slotKey_none : slotKey key (none : Option α) = ⊥ := rfl

variable {key} in
@[simp] theorem slotKey_some (value : α) : slotKey key (some value) = key value := rfl

variable [LinearOrder κ]

/-- An offer is accepted when it raises the key. -/
def isAccepted (slot : Option α) (value : α) : Prop := slotKey key slot < key value

instance (slot : Option α) (value : α) : Decidable (isAccepted key slot value) :=
  inferInstanceAs (Decidable (slotKey key slot < key value))

def offer (slot : Option α) (value : α) : Option α :=
  if isAccepted key slot value then some value else slot

variable {key}

theorem slotKey_offer (slot : Option α) (value : α) :
    slotKey key (offer key slot value) = max (slotKey key slot) (key value) := by
  by_cases h : isAccepted key slot value
  · rw [offer, if_pos h, slotKey_some, max_eq_right (le_of_lt h)]
  · rw [offer, if_neg h, max_eq_left (not_lt.mp h)]

/-- The largest key among offers, the newest first. -/
def offeredKey (key : α → κ) (offers : List α) : WithBot κ := (offers.map key).maximum

@[simp] theorem offeredKey_nil : offeredKey key ([] : List α) = ⊥ := rfl

theorem offeredKey_cons (value : α) (offers : List α) :
    offeredKey key (value :: offers) = max (offeredKey key offers) (key value) := by
  rw [offeredKey, List.map_cons, List.maximum_cons, max_comm]
  rfl

/-- A slot that holds the largest key still does after one more offer. -/
theorem slotKey_offer_eq {slot : Option α} {offers : List α} (value : α)
    (h : slotKey key slot = offeredKey key offers) :
    slotKey key (offer key slot value) = offeredKey key (value :: offers) := by
  rw [slotKey_offer, offeredKey_cons, h]

theorem offeredKey_eq_coe_iff {offers : List α} {k : κ} :
    offeredKey key offers = k ↔
      (∃ value ∈ offers, key value = k) ∧ ∀ value ∈ offers, key value ≤ k := by
  rw [offeredKey, List.maximum_eq_coe_iff]
  simp only [List.mem_map, forall_exists_index, and_imp, forall_apply_eq_imp_iff₂]

theorem offeredKey_eq_bot_iff {offers : List α} : offeredKey key offers = ⊥ ↔ offers = [] := by
  rw [offeredKey, List.maximum_eq_bot, List.map_eq_nil_iff]

/-- Only which values were offered matters, not their order or number. -/
theorem offeredKey_congr {offers others : List α} (h : ∀ value, value ∈ offers ↔ value ∈ others) :
    offeredKey key offers = offeredKey key others := by
  cases hk : offeredKey key offers with
  | bot =>
    have hn : offers = [] := offeredKey_eq_bot_iff.mp hk
    have hn' : others = [] := List.eq_nil_iff_forall_not_mem.mpr fun value hv => by
      have := (h value).mpr hv
      simp [hn] at this
    exact (offeredKey_eq_bot_iff.mpr hn').symm
  | coe k =>
    obtain ⟨⟨value, hv, rfl⟩, hle⟩ := offeredKey_eq_coe_iff.mp hk
    exact (offeredKey_eq_coe_iff.mpr
      ⟨⟨value, (h value).mp hv, rfl⟩, fun other ho => hle other ((h other).mpr ho)⟩).symm

end NodusVision.Transition
