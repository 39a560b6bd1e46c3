import Sitemap.Proofs.Json.Values

/-!
# Texts with integers

Where every number of a text is an integer of 64 bits, the value of the text is taken back
from its own written tree, however the text was written.

## Main definitions

- `Numeral.isInteger` — integers of 64 bits
- `Written.hasIntegers` — every number of a tree is one
- `Written.IsPart` — an item of an array, or the value of a member

## Main results

- `Written.json?_written_of_json?` — what is taken from such a tree is taken from its own
  written tree, too

## Design notes

One integer is not held as an integer: zero with a minus in front is the negative zero of the
floating-point format. Its written form has a fraction, so it is another text, but of the same
value.
-/

namespace Sitemap

-- ════════════════════════════════════════════════════════════════════════
-- Integers
-- ════════════════════════════════════════════════════════════════════════

namespace Numeral

variable {m : Numeral} {digits : List Char} {v : JsonValue}

/-- Whether a numeral is written without fraction and exponent, and fits in 64 bits. -/
def isInteger (m : Numeral) : Bool :=
  m.fraction = [] && m.exponent = none &&
    if m.negative then natOf m.whole ≤ 9223372036854775808
    else natOf m.whole < 18446744073709551616

/-- Zero with a minus in front. -/
def negativeZero : Binary64 := .ofMagnitude true 0

theorem le_ofDigitChars (digits : List Char) (sofar : Nat) :
    sofar ≤ Nat.ofDigitChars 10 digits sofar := by
  induction digits generalizing sofar with
  | nil => exact Nat.le_refl _
  | cons c digits ih =>
    rw [Nat.ofDigitChars_cons]
    refine Nat.le_trans ?_ (ih _)
    omega

/-- No digit of zero is left over. -/
theorem gather_of_natOf (h : natOf digits = 0) : gather 0 digits = (0, 0) := by
  induction digits with
  | nil => rfl
  | cons c digits ih =>
    unfold natOf at h ih
    rw [Nat.ofDigitChars_cons] at h
    have hfirst : 10 * 0 + (c.toNat - '0'.toNat) = 0 := by
      have hle := le_ofDigitChars digits (10 * 0 + (c.toNat - '0'.toNat))
      rw [h] at hle
      exact Nat.le_zero.1 hle
    rw [hfirst] at h
    show (if maxSignificand < 10 * 0 + (c.toNat - '0'.toNat) then _
      else gather (10 * 0 + (c.toNat - '0'.toNat)) digits) = _
    rw [hfirst, if_neg (by decide)]
    exact ih h

/-- The value of an integer is an integer or negative zero. -/
theorem tree_of_isInteger (h : m.isInteger = true) (hv : m.value? = some v) :
    (∃ n, v.tree = .int n) ∨ v.tree = .fraction negativeZero := by
  unfold value? at hv
  split at hv
  · cases hv
    exact .inl ⟨_, rfl⟩
  · next hnone =>
    right
    obtain ⟨x, hx, rfl⟩ := Option.map_eq_some_iff.1 hv
    simp only [isInteger, Bool.and_eq_true, decide_eq_true_eq] at h
    obtain ⟨⟨hfraction, hexponent⟩, hrange⟩ := h
    -- an integer in range that is not held as one carries a minus and is zero
    have hzero : m.negative = true ∧ natOf m.whole = 0 := by
      unfold int? at hnone
      rw [if_pos ⟨hfraction, hexponent⟩] at hnone
      cases hnegative : m.negative with
      | true =>
        rw [hnegative] at hnone hrange
        simp only [if_true] at hnone hrange
        have hle := of_decide_eq_true hrange
        split at hnone
        · cases hnone
        · next hnot => exact ⟨rfl, by omega⟩
      | false =>
        rw [hnegative] at hnone hrange
        simp only [Bool.false_eq_true, if_false] at hnone hrange
        rw [if_pos (of_decide_eq_true hrange)] at hnone
        cases hnone
    have hbinary : m.binary? = Binary64.ofScaled true 0 0 := by
      unfold binary?
      rw [gather_of_natOf hzero.2, hfraction, hexponent, hzero.1]
      rfl
    have hscaled : Binary64.ofScaled true 0 0 = some negativeZero := by decide +kernel
    rw [hbinary, hscaled] at hx
    cases hx
    rfl

end Numeral

-- ════════════════════════════════════════════════════════════════════════
-- Parts of a tree
-- ════════════════════════════════════════════════════════════════════════

namespace Written

mutual

/-- Whether every number of a tree is an integer. -/
def hasIntegers : Written → Bool
  | .number text => (Numeral.ofChars? text).any Numeral.isInteger
  | .array items => itemsHaveIntegers items
  | .object members => membersHaveIntegers members
  | .null | .bool _ | .string _ => true

/-- Whether every number of every item is an integer. -/
def itemsHaveIntegers : List Written → Bool
  | [] => true
  | item :: rest => hasIntegers item && itemsHaveIntegers rest

/-- Whether every number of every member is an integer. -/
def membersHaveIntegers : List (List Quoted.Piece × Written) → Bool
  | [] => true
  | member :: rest => memberHasIntegers member && membersHaveIntegers rest

/-- Whether every number of a member is an integer. -/
def memberHasIntegers : List Quoted.Piece × Written → Bool
  | (_, value) => hasIntegers value

end

/-- A tree that stands directly in another one. -/
inductive IsPart : Written → Written → Prop where
  /-- An item of an array. -/
  | item {part : Written} {items : List Written} (h : part ∈ items) : IsPart part (.array items)
  /-- The value of a member of an object. -/
  | member {key : List Quoted.Piece} {part : Written}
    {members : List (List Quoted.Piece × Written)} (h : (key, part) ∈ members) :
    IsPart part (.object members)

theorem itemsHaveIntegers_iff {items : List Written} :
    itemsHaveIntegers items = true ↔ ∀ item ∈ items, item.hasIntegers = true := by
  induction items with
  | nil => simp [itemsHaveIntegers]
  | cons item rest ih => simp [itemsHaveIntegers, ih]

theorem membersHaveIntegers_iff {members : List (List Quoted.Piece × Written)} :
    membersHaveIntegers members = true ↔ ∀ m ∈ members, m.2.hasIntegers = true := by
  induction members with
  | nil => simp [membersHaveIntegers]
  | cons m rest ih =>
    obtain ⟨key, value⟩ := m
    simp [membersHaveIntegers, memberHasIntegers, ih]

theorem IsPart.hasIntegers {part w : Written} (h : part.IsPart w)
    (hintegers : w.hasIntegers = true) : part.hasIntegers = true := by
  cases h with
  | item hmem => exact itemsHaveIntegers_iff.1 hintegers _ hmem
  | member hmem => exact membersHaveIntegers_iff.1 hintegers _ hmem

-- ════════════════════════════════════════════════════════════════════════
-- Taken back from the written tree
-- ════════════════════════════════════════════════════════════════════════

variable {depth : Nat}

theorem itemsJson?_of_forall {items : List Json}
    (h : ∀ item ∈ items, json? depth item.written = some item) :
    itemsJson? depth (Json.itemsWritten items) = some items := by
  induction items with
  | nil => rfl
  | cons item rest ih =>
    obtain ⟨hitem, hrest⟩ := List.forall_mem_cons.1 h
    simp only [Json.itemsWritten, itemsJson?, hitem, ih hrest]

theorem membersJson?_of_forall {members : List (String × Json)}
    (h : ∀ m ∈ members, json? depth m.2.written = some m.2) :
    membersJson? depth (Json.membersWritten members) = some members := by
  induction members with
  | nil => rfl
  | cons m rest ih =>
    obtain ⟨key, value⟩ := m
    obtain ⟨hvalue, hrest⟩ := List.forall_mem_cons.1 h
    simp only [Json.membersWritten, Json.memberWritten, membersJson?, memberJson?,
      Quoted.text?_ofString, hvalue, ih hrest]

theorem json?_written_number {text : List Char} {j : Json}
    (hinteger : (Written.number text).hasIntegers = true)
    (h : json? depth (.number text) = some j) : json? depth j.written = some j := by
  obtain ⟨m, hm, hmInteger⟩ := Option.any_eq_true .. |>.1 hinteger
  simp only [json?, Option.map_eq_some_iff] at h
  obtain ⟨v, hv, rfl⟩ := h
  rw [hm, Option.bind_some] at hv
  rcases Numeral.tree_of_isInteger hmInteger hv with ⟨n, htree⟩ | htree
  · rw [htree]
    exact json?_written_int (htree ▸ v.canonical) depth
  · rw [htree]
    have hzero : json? 0 (Json.fraction Numeral.negativeZero).written =
        some (.fraction Numeral.negativeZero) := by decide +kernel
    exact hzero

mutual

/-- What is taken from a tree with integers is taken from its own written tree, too. -/
theorem json?_written_of_json? {j : Json} : (w : Written) → ∀ {depth : Nat},
    w.hasIntegers = true → json? depth w = some j → json? depth j.written = some j
  | .null, _, _, h | .bool _, _, _, h => by
    cases h
    rfl
  | .number _, _, hintegers, h => json?_written_number hintegers h
  | .string _, _, _, h => by
    simp only [json?, Option.map_eq_some_iff] at h
    obtain ⟨s, -, rfl⟩ := h
    show (Quoted.text? (Quoted.ofString s)).map Json.string = _
    rw [Quoted.text?_ofString, Option.map_some]
  | .array _, 0, _, h | .object _, 0, _, h => nomatch h
  | .array items, depth + 1, hintegers, h => by
    simp only [json?, Option.map_eq_some_iff] at h
    obtain ⟨values, hvalues, rfl⟩ := h
    have hback := itemsJson?_of_forall (items_written_of_itemsJson? items hintegers hvalues)
    show (itemsJson? depth (Json.itemsWritten values)).map Json.array = _
    rw [hback, Option.map_some]
  | .object members, depth + 1, hintegers, h => by
    simp only [json?, Option.map_eq_some_iff] at h
    obtain ⟨values, hvalues, rfl⟩ := h
    have hback : membersJson? depth (Json.membersWritten (Keyed.ofList values).entries) =
        some (Keyed.ofList values).entries :=
      membersJson?_of_forall fun m hm =>
        members_written_of_membersJson? members hintegers hvalues m (Keyed.mem_of_mem_ofList hm)
    show (membersJson? depth (Json.membersWritten (Keyed.ofList values).entries)).map _ = _
    rw [hback, Option.map_some, Keyed.ofList_entries]

theorem items_written_of_itemsJson? {values : List Json} : (items : List Written) →
    ∀ {depth : Nat}, itemsHaveIntegers items = true → itemsJson? depth items = some values →
      ∀ v ∈ values, json? depth v.written = some v
  | [], _, _, h => by
    cases h
    exact fun v hv => absurd hv List.not_mem_nil
  | item :: rest, _, hintegers, h => by
    obtain ⟨hitem, hrest⟩ := Bool.and_eq_true_iff.1 hintegers
    simp only [itemsJson?] at h
    split at h
    · next hvalue hvalues =>
      cases h
      exact List.forall_mem_cons.2 ⟨json?_written_of_json? item hitem hvalue,
        items_written_of_itemsJson? rest hrest hvalues⟩
    · cases h

theorem members_written_of_membersJson? {values : List (String × Json)} :
    (members : List (List Quoted.Piece × Written)) → ∀ {depth : Nat},
      membersHaveIntegers members = true → membersJson? depth members = some values →
      ∀ m ∈ values, json? depth m.2.written = some m.2
  | [], _, _, h => by
    cases h
    exact fun m hm => absurd hm List.not_mem_nil
  | member :: rest, _, hintegers, h => by
    obtain ⟨hmember, hrest⟩ := Bool.and_eq_true_iff.1 hintegers
    simp only [membersJson?] at h
    split at h
    · next hvalue hvalues =>
      cases h
      exact List.forall_mem_cons.2 ⟨member_written_of_memberJson? member hmember hvalue,
        members_written_of_membersJson? rest hrest hvalues⟩
    · cases h

theorem member_written_of_memberJson? {value : String × Json} :
    (member : List Quoted.Piece × Written) → ∀ {depth : Nat},
      memberHasIntegers member = true → memberJson? depth member = some value →
      json? depth value.2.written = some value.2
  | (_, w), _, hintegers, h => by
    simp only [memberJson?] at h
    split at h
    · next hvalue =>
      cases h
      exact json?_written_of_json? w hintegers hvalue
    · cases h

end

end Written

end Sitemap
