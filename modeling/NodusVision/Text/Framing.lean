import Mathlib.Data.List.Infix
import Mathlib.Data.Nat.Notation

/-! Readers that take one message after the other off the front of a stream. -/
namespace NodusVision.Text
variable {α β γ : Type}

/-- A reader answers with what it has read and the symbols that are left. -/
abbrev Reader (β α : Type) := StateT (List β) Option α

/-- A reader does not look past the end of what it reads. -/
def Extends (r : Reader β α) : Prop :=
  ∀ ⦃text a rest⦄, r.run text = some (a, rest) →
    ∀ more, r.run (text ++ more) = some (a, rest ++ more)

theorem extends_pure (a : α) : Extends (pure a : Reader β α) := by
  intro text b rest h more
  cases h
  rfl

theorem extends_lift (o : Option α) : Extends (liftM o : Reader β α) := by
  intro text a rest h more
  cases o with
  | none => cases h
  | some b =>
    cases h
    rfl

theorem Extends.bind {r : Reader β α} {f : α → Reader β γ} (hr : Extends r)
    (hf : ∀ a, Extends (f a)) : Extends (r >>= f) := by
  intro text c rest h more
  rw [StateT.run_bind] at h ⊢
  obtain ⟨⟨a, middle⟩, ha, hc⟩ := Option.bind_eq_some_iff.mp h
  exact Option.bind_eq_some_iff.mpr ⟨(a, middle ++ more), hr ha more, hf a hc more⟩

theorem run_bind_some {r : Reader β α} {f : α → Reader β γ} {text rest : List β} {a : α}
    (h : r.run text = some (a, rest)) : (r >>= f).run text = (f a).run rest := by
  rw [StateT.run_bind, h]
  rfl

theorem run_lift_some {o : Option α} {a : α} {text : List β} (h : o = some a) :
    (liftM o : Reader β α).run text = some (a, text) := by
  rw [h]
  rfl

/-- A word that has to come next. -/
def literal [BEq β] (word : List β) : Reader β Unit := fun text =>
  (text.dropPrefix? word).map fun rest => ((), rest)

theorem literal_append [BEq β] [LawfulBEq β] (word rest : List β) :
    (literal word).run (word ++ rest) = some ((), rest) := by
  refine Option.map_eq_some_iff.mpr ⟨rest, ?_, rfl⟩
  rw [List.dropPrefix?_eq_some_iff]
  exact ⟨word, rfl, BEq.rfl⟩

theorem extends_literal [BEq β] [LawfulBEq β] (word : List β) : Extends (literal word) := by
  intro text u rest h more
  obtain ⟨found, hfound, heq⟩ := Option.map_eq_some_iff.mp h
  cases heq
  obtain ⟨front, rfl, hfront⟩ := List.dropPrefix?_eq_some_iff.mp hfound
  rw [eq_of_beq hfront, List.append_assoc]
  exact literal_append word (rest ++ more)

/-- The next symbols, as many as are asked for. -/
def takeExact (n : ℕ) : Reader β (List β) := fun text =>
  if n ≤ text.length then some (text.take n, text.drop n) else none

theorem takeExact_append (content rest : List β) :
    (takeExact content.length).run (content ++ rest) = some (content, rest) := by
  have h : content.length ≤ (content ++ rest).length := by simp
  refine (if_pos h).trans ?_
  rw [List.take_left, List.drop_left]

theorem extends_takeExact (n : ℕ) : Extends (takeExact n : Reader β (List β)) := by
  intro text content rest h more
  obtain ⟨hlength, heq⟩ := Option.ite_none_right_eq_some.mp h
  cases heq
  have hmore : n ≤ (text ++ more).length := by
    rw [List.length_append]
    omega
  refine (if_pos hmore).trans ?_
  rw [List.take_append_of_le_length hlength, List.drop_append_of_le_length hlength]

/-- A reader of messages, none of which is empty. -/
structure Framing (r : Reader β α) : Prop where
  extend : Extends r
  nil : r.run [] = none

/-- A message that was cut short is not read as another one. -/
theorem Framing.cut {r : Reader β α} (hr : Framing r) {a : α} {text front : List β}
    (ha : r.run text = some (a, [])) (hfront : front <+: text)
    (hlength : front.length < text.length) : r.run front = none := by
  obtain ⟨more, rfl⟩ := hfront
  rw [Option.eq_none_iff_forall_ne_some]
  rintro ⟨b, rest⟩ hb
  rw [hr.extend hb more] at ha
  have hmore : more = [] := (List.append_eq_nil_iff.mp (congrArg Prod.snd (Option.some.inj ha))).2
  rw [hmore, List.append_nil] at hlength
  exact lt_irrefl _ hlength

/-- Takes messages while there are whole ones, `n` at most. -/
def readAll (r : Reader β α) : ℕ → List β → List α × List β
  | 0, text => ([], text)
  | n + 1, text =>
    match r.run text with
    | none => ([], text)
    | some (a, rest) => (a :: (readAll r n rest).1, (readAll r n rest).2)

theorem readAll_none {r : Reader β α} {text : List β} (n : ℕ) (h : r.run text = none) :
    readAll r n text = ([], text) := by
  cases n with
  | zero => rfl
  | succ n => simp only [readAll, h]

theorem Framing.ne_nil {r : Reader β α} (hr : Framing r) {a : α} {text rest : List β}
    (ha : r.run text = some (a, rest)) : text ≠ [] := by
  intro hnil
  rw [hnil, hr.nil] at ha
  cases ha

/-- A whole message at the front of a stream is read first. -/
theorem Framing.readAll_append {r : Reader β α} (hr : Framing r) {a : α} {text : List β}
    (ha : r.run text = some (a, [])) (n : ℕ) (tail : List β) :
    readAll r (n + 1) (text ++ tail) = (a :: (readAll r n tail).1, (readAll r n tail).2) := by
  have hread : r.run (text ++ tail) = some (a, tail) := hr.extend ha tail
  simp only [readAll, hread]

/-- Of a stream that breaks off anywhere, the whole messages are read, and the rest of the stream is
a part of the next message. -/
theorem Framing.readAll_prefix {r : Reader β α} (hr : Framing r) {items : List α}
    {write : α → List β} (hwrite : ∀ a ∈ items, r.run (write a) = some (a, [])) {n : ℕ}
    {received : List β} (hn : received.length ≤ n) (hp : received <+: items.flatMap write) :
    ∃ front back rest, items = front ++ back ∧ readAll r n received = (front, rest) ∧
      received = front.flatMap write ++ rest ∧ rest <+: back.flatMap write ∧
      ∀ next ∈ back.head?, rest.length < (write next).length := by
  induction items generalizing n received with
  | nil =>
    obtain rfl : received = [] := List.prefix_nil.mp hp
    exact ⟨[], [], [], rfl, readAll_none n hr.nil, rfl, List.prefix_rfl, fun next hnext => by cases hnext⟩
  | cons a items ih =>
    have ha := hwrite a List.mem_cons_self
    have hfirst : write a <+: (a :: items).flatMap write := List.prefix_append _ _
    -- The stream breaks off inside the first message, or after it.
    rcases Nat.lt_or_ge received.length (write a).length with hshort | hlong
    · have hcut := List.prefix_of_prefix_length_le hp hfirst hshort.le
      refine ⟨[], a :: items, received, rfl, readAll_none n (hr.cut ha hcut hshort), rfl, hp, ?_⟩
      intro next hnext
      cases hnext
      exact hshort
    · obtain ⟨tail, rfl⟩ := List.prefix_of_prefix_length_le hfirst hp hlong
      have hlength := List.length_pos_iff.mpr (hr.ne_nil ha)
      rw [List.length_append] at hn
      obtain ⟨m, rfl⟩ : ∃ m, n = m + 1 := ⟨n - 1, by omega⟩
      have htail : tail.length ≤ m := by omega
      rw [List.flatMap_cons, List.prefix_append_right_inj] at hp
      obtain ⟨front, back, rest, rfl, hfront, rfl, hrest, hnext⟩ :=
        ih (fun b hb => hwrite b (List.mem_cons_of_mem a hb)) htail hp
      refine ⟨a :: front, back, rest, rfl, ?_, ?_, hrest, hnext⟩
      · rw [hr.readAll_append ha, hfront]
      · rw [List.flatMap_cons, List.append_assoc]

/-- A stream of whole messages is read to its end. -/
theorem Framing.readAll_all {r : Reader β α} (hr : Framing r) {items : List α}
    {write : α → List β} (hwrite : ∀ a ∈ items, r.run (write a) = some (a, [])) {n : ℕ}
    (hn : (items.flatMap write).length ≤ n) : readAll r n (items.flatMap write) = (items, []) := by
  obtain ⟨front, back, rest, rfl, hread, htext, -, hnext⟩ :=
    hr.readAll_prefix hwrite hn List.prefix_rfl
  rw [List.flatMap_append, List.append_cancel_left_eq] at htext
  cases back with
  | nil =>
    rw [hread, ← htext, List.append_nil]
    rfl
  | cons next back =>
    have hshort := hnext next rfl
    have hlength := congrArg List.length htext
    rw [List.flatMap_cons, List.length_append] at hlength
    omega

end NodusVision.Text
