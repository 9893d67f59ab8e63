import Mathlib.Data.Nat.Bitwise
import Mathlib.Data.Vector.Basic
import NodusVision.Program.Throw
import NodusVision.Text.Json

/-! Little-endian bytes of natural numbers, and readers that decode values at an offset. -/
namespace NodusVision.Text
open Program

/-- The last `count` bytes of `value`, the least significant first. -/
def littleEndian (count value : ℕ) : ByteString :=
  (List.range count).map fun i => UInt8.ofNat ((value >>> (i * 8)) &&& 0xFF)

/-- Each byte is shifted to its place and merged with `|`. -/
def mergeBytes (value : ℕ) (i : ℕ) : ByteString → ℕ
  | [] => value
  | b :: rest => mergeBytes (value ||| b.toNat <<< (i * 8)) (i + 1) rest

@[simp] theorem length_littleEndian (count value : ℕ) : (littleEndian count value).length = count := by
  simp [littleEndian]

theorem littleEndian_succ (count value : ℕ) :
    littleEndian (count + 1) value = UInt8.ofNat value :: littleEndian count (value / 256) := by
  have hbyte : ∀ n : ℕ, UInt8.ofNat (n &&& 0xFF) = UInt8.ofNat n := by
    intro n
    rw [show (0xFF : ℕ) = 2 ^ 8 - 1 from rfl, Nat.and_two_pow_sub_one_eq_mod]
    exact UInt8.ofNat_mod_size
  have hshift : ∀ i, value >>> ((i + 1) * 8) = (value / 256) >>> (i * 8) := by
    intro i
    rw [Nat.shiftRight_eq_div_pow, Nat.shiftRight_eq_div_pow, Nat.div_div_eq_div_mul]
    congr 1
    rw [show (256 : ℕ) = 2 ^ 8 from rfl, ← Nat.pow_add]
    congr 1
    omega
  simp only [littleEndian, List.range_succ_eq_map, List.map_cons, List.map_map, Function.comp_def,
    Nat.succ_eq_add_one, hshift, hbyte, Nat.zero_mul, Nat.shiftRight_zero]

/-- The value of bytes, the least significant first. -/
def ofLittleEndian : ByteString → ℕ
  | [] => 0
  | b :: rest => b.toNat + 256 * ofLittleEndian rest

theorem mergeBytes_eq {value i : ℕ} {bytes : ByteString} (h : value < 2 ^ (i * 8)) :
    mergeBytes value i bytes = value + 2 ^ (i * 8) * ofLittleEndian bytes := by
  induction bytes generalizing value i with
  | nil => simp [mergeBytes, ofLittleEndian]
  | cons b rest ih =>
    have hb : b.toNat < 2 ^ 8 := b.toNat_lt
    have hmerge : value ||| b.toNat <<< (i * 8) = value + 2 ^ (i * 8) * b.toNat := by
      rw [Nat.shiftLeft_eq, Nat.mul_comm, Nat.lor_comm, ← Nat.two_pow_add_eq_or_of_lt h,
        Nat.add_comm]
    have hpow : 2 ^ ((i + 1) * 8) = 2 ^ (i * 8) * 256 := by
      rw [Nat.add_mul, Nat.pow_add]
    have hlt : value + 2 ^ (i * 8) * b.toNat < 2 ^ ((i + 1) * 8) := by
      have hle : 2 ^ (i * 8) * (b.toNat + 1) ≤ 2 ^ (i * 8) * 256 := Nat.mul_le_mul_left _ hb
      rw [Nat.mul_add, Nat.mul_one] at hle
      omega
    rw [mergeBytes, hmerge, ih hlt, ofLittleEndian, hpow, Nat.mul_add, Nat.mul_assoc, Nat.add_assoc]

theorem mergeBytes_zero (bytes : ByteString) : mergeBytes 0 0 bytes = ofLittleEndian bytes := by
  rw [mergeBytes_eq (by decide)]
  simp

theorem ofLittleEndian_lt (bytes : ByteString) : ofLittleEndian bytes < 256 ^ bytes.length := by
  induction bytes with
  | nil => decide
  | cons b rest ih =>
    have hb : b.toNat < 256 := b.toNat_lt
    rw [ofLittleEndian, List.length_cons, Nat.pow_succ]
    omega

theorem littleEndian_ofLittleEndian (bytes : ByteString) :
    littleEndian bytes.length (ofLittleEndian bytes) = bytes := by
  induction bytes with
  | nil => rfl
  | cons b rest ih =>
    have hb : b.toNat < 256 := b.toNat_lt
    have hbyte : UInt8.ofNat (b.toNat + 256 * ofLittleEndian rest) = b := by
      apply UInt8.toNat_inj.mp
      rw [UInt8.toNat_ofNat']
      omega
    have hdiv : (b.toNat + 256 * ofLittleEndian rest) / 256 = ofLittleEndian rest := by
      omega
    rw [List.length_cons, littleEndian_succ, ofLittleEndian, hbyte, hdiv, ih]

theorem ofLittleEndian_littleEndian {count value : ℕ} (h : value < 256 ^ count) :
    ofLittleEndian (littleEndian count value) = value := by
  induction count generalizing value with
  | zero =>
    have hzero : value = 0 := by simpa using h
    rw [hzero]
    rfl
  | succ count ih =>
    have hdiv : value / 256 < 256 ^ count := by
      rw [Nat.pow_succ] at h
      omega
    rw [littleEndian_succ, ofLittleEndian, ih hdiv, UInt8.toNat_ofNat']
    omega

/-- A reader keeps the offset of the next byte. -/
abbrev Reading (ε α : Type) := StateT ℕ (Except ε) α

section
variable {ε α β : Type} {input : ByteString} {offset next : ℕ}

theorem prefix_drop_append {a b : ByteString} : a ++ b <+: input.drop offset ↔
    a <+: input.drop offset ∧ b <+: input.drop (offset + a.length) := by
  constructor
  · rintro ⟨rest, h⟩
    refine ⟨⟨b ++ rest, by rw [← h, List.append_assoc]⟩, rest, ?_⟩
    rw [← List.drop_drop, ← h, List.append_assoc, List.drop_left]
  · rintro ⟨⟨rest, h⟩, rest', h'⟩
    refine ⟨rest', ?_⟩
    rw [← List.drop_drop, ← h, List.drop_left] at h'
    rw [← h, ← h', List.append_assoc]

/-- `read` answers the value whose encoding stands at the offset, and goes on behind it. -/
def Decodes (input : ByteString) (read : Reading ε α) (encode : α → ByteString) : Prop :=
  ∀ offset a next, read.run offset = .ok (a, next) ↔
    encode a <+: input.drop offset ∧ next = offset + (encode a).length

theorem Decodes.map {read : Reading ε α} {encode : α → ByteString} (h : Decodes input read encode)
    {f : α → β} {g : β → α} (hfg : ∀ b, f (g b) = b) (hgf : ∀ a, g (f a) = a) :
    Decodes input (f <$> read) (encode ∘ g) := by
  intro offset b next
  have hmap : (f <$> read).run offset = read.run offset >>= fun p => .ok (f p.1, p.2) := rfl
  rw [hmap]
  simp only [bind_eq_ok, Prod.exists, h _ _ _, Except.ok.injEq, Prod.mk.injEq, Function.comp_apply]
  constructor
  · rintro ⟨a, _, ⟨ha, rfl⟩, rfl, rfl⟩
    rw [hgf]
    exact ⟨ha, rfl⟩
  · rintro ⟨hb, rfl⟩
    exact ⟨g b, _, ⟨hb, rfl⟩, hfg b, rfl⟩

def readVector (read : Reading ε α) : (n : ℕ) → Reading ε (List.Vector α n)
  | 0 => pure .nil
  | n + 1 => do
    let a ← read
    let rest ← readVector read n
    pure (a ::ᵥ rest)

theorem Decodes.vector {read : Reading ε α} {encode : α → ByteString}
    (h : Decodes input read encode) (n : ℕ) :
    Decodes input (readVector read n) fun v => v.toList.flatMap encode := by
  induction n with
  | zero =>
    intro offset v next
    have hv : v = .nil := v.eq_nil
    subst hv
    constructor
    · intro hread
      cases hread
      exact ⟨List.nil_prefix, rfl⟩
    · rintro ⟨-, rfl⟩
      rfl
  | succ n ih =>
    intro offset v next
    obtain ⟨a, rest, rfl⟩ := v.exists_eq_cons
    simp only [readVector, StateT.run_bind, bind_eq_ok, Prod.exists, h _ _ _, ih _ _ _,
      StateT.run_pure, List.Vector.toList_cons, List.flatMap_cons, prefix_drop_append,
      List.length_append]
    constructor
    · rintro ⟨a', _, ⟨ha, rfl⟩, rest', _, ⟨hrest, rfl⟩, hresult⟩
      obtain ⟨hv, rfl⟩ := Prod.mk.inj (Except.ok.inj hresult)
      obtain ⟨rfl, rfl⟩ := (List.Vector.eq_cons_iff _ _ _).mp hv
      exact ⟨⟨ha, hrest⟩, Nat.add_assoc ..⟩
    · rintro ⟨⟨ha, hrest⟩, rfl⟩
      exact ⟨a, _, ⟨ha, rfl⟩, rest, _, ⟨hrest, rfl⟩, by rw [Nat.add_assoc]; rfl⟩

end

end NodusVision.Text
