import NodusVision.Recording.Manifest

/-! The text of the paths that the recorder builds, and the components they are resolved by. -/
namespace NodusVision.Recording
open Text Storage

def slash : UInt8 := 47

/-- `path / name` of `std::filesystem::path` -/
def appendPath (path name : ByteString) : ByteString :=
  if name.head? = some slash then name
  else if path = [] ∨ path.getLast? = some slash then path ++ name
  else path ++ slash :: name

def managedText : ManagedDirectory → ByteString
  | .staging => ascii ".staging"
  | .finalized => ascii "finalized"

/-- `writeAtomically` adds the suffix of a temporary file. -/
def entryText : EntryName → ByteString
  | .file f => fileText f
  | .temporary f => fileText f ++ ascii ".tmp"

/-- The path as the source builds it from `m_root`. -/
def pathText (root : ByteString) : ManagedPath → ByteString
  | .unset => []
  | .root => root
  | .managed m => appendPath root (managedText m)
  | .artifact m id => appendPath (appendPath root (managedText m)) id
  | .entry m id n => appendPath (appendPath (appendPath root (managedText m)) id) (entryText n)

/-- The names between the slashes. -/
def components (path : ByteString) : List ByteString :=
  (path.splitOnP (· == slash)).filter (· ≠ [])

/-- A name that is resolved in its directory: not empty, of one component, and no "." or "..". -/
structure IsNormalComponent (name : ByteString) : Prop where
  ne_nil : name ≠ []
  no_slash : slash ∉ name
  no_null : 0 ∉ name
  ne_dot : name ≠ ascii "."
  ne_dotdot : name ≠ ascii ".."

theorem components_singleton {name : ByteString} (hne : name ≠ []) (hslash : slash ∉ name) :
    components name = [name] := by
  have hsplit : name.splitOnP (· == slash) = [name] := by
    apply List.splitOnP_eq_singleton
    intro c hc
    rw [beq_eq_false_iff_ne]
    intro heq
    exact hslash (heq ▸ hc)
  simp [components, hsplit, hne]

theorem components_append_slash (path rest : ByteString) :
    components (path ++ slash :: rest) = components path ++ components rest := by
  have hsep : (slash == slash) = true := rfl
  have hsplit := List.splitOnP_append_cons (p := (· == slash)) path rest hsep
  rw [components, hsplit, List.filter_append]
  rfl

/-- Appending a normal component adds that component and no other. -/
theorem components_appendPath {path name : ByteString} (h : IsNormalComponent name) :
    components (appendPath path name) = components path ++ [name] := by
  have hname := components_singleton h.ne_nil h.no_slash
  have hhead : name.head? ≠ some slash := fun he => h.no_slash (List.mem_of_head? he)
  unfold appendPath
  rw [if_neg hhead]
  split
  · rename_i hpath
    rcases hpath with rfl | hlast
    · exact hname
    · obtain ⟨init, rfl⟩ := List.getLast?_eq_some_iff.mp hlast
      have hempty : components [] = [] := rfl
      rw [List.append_assoc, List.singleton_append, components_append_slash, hname,
        components_append_slash, hempty, List.append_nil]
  · rw [components_append_slash, hname]

theorem managedText_normal (m : ManagedDirectory) : IsNormalComponent (managedText m) := by
  cases m <;> constructor <;> decide

theorem entryText_normal (n : EntryName) : IsNormalComponent (entryText n) := by
  rcases n with f | f <;> cases f <;> constructor <;> decide

/-- The components of a path of the recorder below its root. -/
def pathTail : ManagedPath → List ByteString
  | .unset | .root => []
  | .managed m => [managedText m]
  | .artifact m id => [managedText m, id]
  | .entry m id n => [managedText m, id, entryText n]

/-- The directories of an id and the files in them. -/
def IsArtifactPath (recordingId : ByteString) (p : ManagedPath) : Prop :=
  (∃ m, p = .artifact m recordingId) ∨ ∃ m n, p = .entry m recordingId n

/-- The paths that operations on an id may use. -/
def Within (recordingId : ByteString) (p : ManagedPath) : Prop :=
  p = .root ∨ (∃ m, p = .managed m) ∨ IsArtifactPath recordingId p

theorem components_pathText {root recordingId : ByteString} {p : ManagedPath}
    (h : IsNormalComponent recordingId) (hp : Within recordingId p) :
    components (pathText root p) = components root ++ pathTail p := by
  have hm : ∀ m, components (appendPath root (managedText m)) =
      components root ++ [managedText m] := fun m => components_appendPath (managedText_normal m)
  rcases hp with rfl | ⟨m, rfl⟩ | ⟨m, rfl⟩ | ⟨m, n, rfl⟩
  · simp [pathText, pathTail]
  · rw [pathText, hm, pathTail]
  · rw [pathText, components_appendPath h, hm, pathTail, List.append_assoc]
    rfl
  · rw [pathText, components_appendPath (entryText_normal n), components_appendPath h, hm, pathTail,
      List.append_assoc, List.append_assoc]
    rfl

/-- `[a-z0-9]` -/
def firstBytes : ByteString := ascii "abcdefghijklmnopqrstuvwxyz0123456789"

/-- `[a-z0-9._-]` -/
def laterBytes : ByteString := firstBytes ++ ascii "._-"

/-- `^[a-z0-9][a-z0-9._-]{0,63}$` -/
def MatchesPattern (recordingId : ByteString) : Prop :=
  ∃ first rest, recordingId = first :: rest ∧ first ∈ firstBytes ∧ rest.length ≤ 63 ∧
    ∀ c ∈ rest, c ∈ laterBytes

/-- The bytes of a character class such as `a-z`. -/
def byteRange (first count : ℕ) : ByteString :=
  (List.range count).map fun n => UInt8.ofNat (first + n)

theorem mem_byteRange {first count : ℕ} (h : first + count ≤ 256) (c : UInt8) :
    c ∈ byteRange first count ↔ first ≤ c.toNat ∧ c.toNat < first + count := by
  have hto : ∀ n < count, (UInt8.ofNat (first + n)).toNat = first + n := by
    intro n hn
    rw [UInt8.toNat_ofNat']
    omega
  simp only [byteRange, List.mem_map, List.mem_range]
  constructor
  · rintro ⟨n, hn, rfl⟩
    rw [hto n hn]
    omega
  · rintro ⟨hle, hlt⟩
    have hn : c.toNat - first < count := by omega
    refine ⟨c.toNat - first, hn, UInt8.toNat_inj.mp ?_⟩
    rw [hto _ hn]
    omega

theorem firstBytes_eq : firstBytes = byteRange 97 26 ++ byteRange 48 10 := by
  decide

theorem isLowercaseAlphanumeric_iff (c : UInt8) :
    isLowercaseAlphanumeric c = true ↔ c ∈ firstBytes := by
  have hletter := @mem_byteRange 97 26 (by decide) c
  have hdigit := @mem_byteRange 48 10 (by decide) c
  rw [firstBytes_eq, List.mem_append, hletter, hdigit]
  simp only [isLowercaseAlphanumeric, Bool.or_eq_true, Bool.and_eq_true, decide_eq_true_eq,
    UInt8.le_iff_toNat_le]
  have h97 : (97 : UInt8).toNat = 97 := rfl
  have h122 : (122 : UInt8).toNat = 122 := rfl
  have h48 : (48 : UInt8).toNat = 48 := rfl
  have h57 : (57 : UInt8).toNat = 57 := rfl
  omega

theorem isRecordingByte_iff (c : UInt8) :
    (isLowercaseAlphanumeric c || isPermittedSuffix c) = true ↔ c ∈ laterBytes := by
  have hsuffix : ascii "._-" = [46, 95, 45] := by decide
  rw [laterBytes, List.mem_append, hsuffix, Bool.or_eq_true, isLowercaseAlphanumeric_iff]
  simp [isPermittedSuffix, or_assoc]

theorem firstBytes_subset {c : UInt8} (h : c ∈ firstBytes) : c ∈ laterBytes :=
  List.mem_append_left _ h

/-- The id check accepts the strings of the pattern. -/
theorem isRecordingIdValid_iff (recordingId : ByteString) :
    isRecordingIdValid recordingId = true ↔ MatchesPattern recordingId := by
  cases recordingId with
  | nil =>
    refine ⟨fun h => absurd h (by decide), ?_⟩
    rintro ⟨first, rest, h, -⟩
    cases h
  | cons first rest =>
    simp only [isRecordingIdValid, Bool.and_eq_true, decide_eq_true_eq, bne_iff_ne,
      List.all_eq_true, isLowercaseAlphanumeric_iff, isRecordingByte_iff]
    constructor
    · rintro ⟨⟨⟨⟨hlength, -⟩, -⟩, hfirst⟩, hall⟩
      rw [List.length_cons] at hlength
      exact ⟨first, rest, rfl, hfirst, by omega, fun c hc => hall c (List.mem_cons_of_mem _ hc)⟩
    · rintro ⟨_, _, h, hfirst, hlength, hall⟩
      cases h
      -- A dot cannot come first.
      have hdot : (46 : UInt8) ∉ firstBytes := by decide
      have hne : ∀ tail : ByteString, first :: rest ≠ 46 :: tail := by
        intro tail heq
        cases heq
        exact hdot hfirst
      refine ⟨⟨⟨⟨?_, hne _⟩, hne _⟩, hfirst⟩, ?_⟩
      · rw [List.length_cons]
        omega
      · intro c hc
        rcases List.mem_cons.mp hc with rfl | hc
        · exact firstBytes_subset hfirst
        · exact hall c hc

/-- An accepted id is one normal component. -/
theorem isRecordingIdValid_normal {recordingId : ByteString}
    (h : isRecordingIdValid recordingId = true) : IsNormalComponent recordingId := by
  obtain ⟨first, rest, rfl, hfirst, -, hrest⟩ := (isRecordingIdValid_iff recordingId).mp h
  have hall : ∀ c ∈ first :: rest, c ∈ laterBytes := by
    intro c hc
    rcases List.mem_cons.mp hc with rfl | hc
    · exact firstBytes_subset hfirst
    · exact hrest c hc
  have hslash : slash ∉ laterBytes := by decide
  have hnull : (0 : UInt8) ∉ laterBytes := by decide
  have hdot : (46 : UInt8) ∉ firstBytes := by decide
  refine ⟨by simp, fun hc => hslash (hall _ hc), fun hc => hnull (hall _ hc), ?_, ?_⟩
  · intro heq
    cases heq
    exact hdot hfirst
  · intro heq
    cases heq
    exact hdot hfirst

end NodusVision.Recording
