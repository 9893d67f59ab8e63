import NodusVision.Provider.Pcd1

/-! The codec of point clouds is a bijection between valid snapshots and the payloads it accepts. -/
namespace NodusVision.Guarantees
open Text Provider.Pcd1

/-- Magic, version, point count, reserved word and length of a payload of `n` points. -/
structure Framed (bytes : ByteString) (n : ℕ) : Prop where
  magic : bytes.take 4 = ascii "PCD1"
  version : (bytes.drop 4).take 4 = [2, 0, 0, 0]
  count : (bytes.drop 40).take 4 = littleEndian 4 n
  reserved : (bytes.drop 44).take 4 = [0, 0, 0, 0]
  length : bytes.length = 112 + 15 * n

theorem framed_of_write {snapshot : PointCloudSnapshot} {bytes : ByteString}
    (h : writePcd1V2 snapshot = .ok bytes) : Framed bytes snapshot.points.length := by
  obtain ⟨hvalid, hpayload⟩ := writePcd1V2_eq_ok.mp h
  have hlength := length_payload snapshot
  have hto : (UInt32.ofNat snapshot.points.length).toNat = snapshot.points.length :=
    UInt32.toNat_ofNat_of_lt' (validatePointCloud_count hvalid)
  have hinit : payload snapshot <+: bytes.drop 0 := by
    use []
    rw [List.append_nil, hpayload, List.drop_zero]
  have hmagic : Provider.Pcd1.magic.length = 4 := rfl
  rw [hpayload] at hlength
  simp only [payload, headerBytes, prefix_drop_append, List.length_append, hmagic, length_uint64Bytes,
    length_int64Bytes, length_intBytes, length_uint32Bytes, Nat.reduceAdd, Nat.zero_add] at hinit
  obtain ⟨⟨⟨⟨hmagicBytes, hversion⟩, ⟨⟨⟨⟨⟨⟨⟨_, hcount⟩, hreserved⟩, _⟩, _⟩, _⟩, _⟩, _⟩⟩, _⟩, _⟩ :=
    hinit
  have htake {part : ByteString} {offset : ℕ} (hpart : part <+: bytes.drop offset)
      (hfour : part.length = 4) : (bytes.drop offset).take 4 = part := by
    rw [← hfour]
    exact (List.prefix_iff_eq_take.mp hpart).symm
  have hcountBytes := htake hcount (length_uint32Bytes _)
  rw [uint32Bytes, hto] at hcountBytes
  exact ⟨htake hmagicBytes hmagic, htake hversion rfl, hcountBytes, htake hreserved rfl, hlength⟩

/-- A framed payload has no framed extension. -/
theorem Framed.unextendable {bytes rest : ByteString} {n n' : ℕ} (h : Framed bytes n)
    (h' : Framed (bytes ++ rest) n') (hn : n < 2 ^ 32) (hn' : n' < 2 ^ 32) : rest = [] := by
  have hlong : 44 ≤ bytes.length := by
    rw [h.length]
    omega
  have hsame : ((bytes ++ rest).drop 40).take 4 = (bytes.drop 40).take 4 := by
    rw [List.drop_append_of_le_length (by omega), List.take_append_of_le_length]
    rw [List.length_drop]
    omega
  have hcount := h'.count
  rw [hsame, h.count] at hcount
  have hvalue := congrArg ofLittleEndian hcount
  rw [ofLittleEndian_littleEndian hn, ofLittleEndian_littleEndian hn'] at hvalue
  have hlength := h'.length
  rw [List.length_append, h.length, hvalue] at hlength
  exact List.length_eq_zero_iff.mp (by omega)

/-- Valid snapshots round trip, accepted payloads are those that the writer writes, and every other
byte string is rejected in the regular way, whatever it differs in. -/
theorem pcd1V2_bijection :
    (∀ snapshot, validatePointCloud snapshot = .ok () →
      ∃ bytes, writePcd1V2 snapshot = .ok bytes ∧ readPcd1V2 bytes = .ok snapshot.carried) ∧
    (∀ bytes snapshot, readPcd1V2 bytes = .ok snapshot → writePcd1V2 snapshot = .ok bytes) ∧
    (∀ bytes, (∀ snapshot, writePcd1V2 snapshot ≠ .ok bytes) →
      ∃ what, readPcd1V2 bytes = .error (.invalidArgument what)) ∧
    (∀ bytes snapshot, readPcd1V2 bytes = .ok snapshot → Framed bytes snapshot.points.length) ∧
    ∀ bytes rest snapshot snapshot', readPcd1V2 bytes = .ok snapshot →
      readPcd1V2 (bytes ++ rest) = .ok snapshot' → rest = [] := by
  have hwritten : ∀ bytes snapshot, readPcd1V2 bytes = .ok snapshot →
      writePcd1V2 snapshot = .ok bytes := fun _ _ h => (readPcd1V2_eq_ok.mp h).2
  refine ⟨?_, hwritten, ?_, fun _ _ h => framed_of_write (hwritten _ _ h), ?_⟩
  · intro snapshot hvalid
    have hwrite : writePcd1V2 snapshot.carried = .ok (payload snapshot) :=
      writePcd1V2_eq_ok.mpr ⟨hvalid, rfl⟩
    exact ⟨_, writePcd1V2_eq_ok.mpr ⟨hvalid, rfl⟩, readPcd1V2_eq_ok.mpr ⟨rfl, hwrite⟩⟩
  · intro bytes hnone
    cases hread : readPcd1V2 bytes with
    | ok snapshot => exact absurd (hwritten _ _ hread) (hnone snapshot)
    | error e =>
      obtain ⟨what, rfl⟩ := rejects_readPcd1V2 e hread
      exact ⟨what, rfl⟩
  · intro bytes rest snapshot snapshot' h h'
    have hcount := (writePcd1V2_eq_ok.mp (hwritten _ _ h)).1
    have hcount' := (writePcd1V2_eq_ok.mp (hwritten _ _ h')).1
    exact (framed_of_write (hwritten _ _ h)).unextendable (framed_of_write (hwritten _ _ h'))
      (validatePointCloud_count hcount) (validatePointCloud_count hcount')

/-- A point in front of a camera that is mounted without rotation. -/
example : validatePointCloud
    { sourceProfile := { width := 640, height := 480 }
      mountFromCameraOpticalMatrix3x4 :=
        ⟨[0x3F800000, 0, 0, 0, 0, 0x3F800000, 0, 0, 0, 0, 0x3F800000, 0], rfl⟩
      points := [⟨⟨[0, 0, 0x3F800000], rfl⟩, ⟨[1, 2, 3], rfl⟩⟩] } = .ok () := by
  decide

end NodusVision.Guarantees
