import Sitemap.Json.Conversion
import Sitemap.Proofs.Json.Reading

/-!
# JSON values, written and taken back

A value that holds integers only is taken back from its written tree as it is, as long as
its arrays and objects nest no deeper than the reader goes.

## Main definitions

- `Json.nesting` — how deep arrays and objects of a value nest
- `Json.isIntegral` — every number of a value is an integer

## Main results

- `Json.isSpelled_written` — every value can be written
- `Written.json?_written` — writing a value and taking it back
- `Written.nesting_of_json?` — a value that was taken from a text nests no deeper than the
  reader goes
- `Written.value?_written_iff` — both together
-/

namespace Sitemap

namespace Json

-- ════════════════════════════════════════════════════════════════════════
-- Nesting and numbers
-- ════════════════════════════════════════════════════════════════════════

mutual

/-- How deep arrays and objects nest; a value without any has depth 0. -/
def nesting : Json → Nat
  | .array items => itemsNesting items + 1
  | .object members => membersNesting members + 1
  | .null | .bool _ | .int _ | .fraction _ | .string _ => 0

/-- The greatest nesting of an item. -/
def itemsNesting : List Json → Nat
  | [] => 0
  | item :: rest => max (nesting item) (itemsNesting rest)

/-- The greatest nesting of the value of a member. -/
def membersNesting : List (String × Json) → Nat
  | [] => 0
  | member :: rest => max (memberNesting member) (membersNesting rest)

/-- The nesting of the value of a member. -/
def memberNesting : String × Json → Nat
  | (_, value) => nesting value

end

mutual

/-- Whether every number is an integer. -/
def isIntegral : Json → Bool
  | .fraction _ => false
  | .array items => itemsIntegral items
  | .object members => membersIntegral members
  | .null | .bool _ | .int _ | .string _ => true

/-- Whether every number of every item is an integer. -/
def itemsIntegral : List Json → Bool
  | [] => true
  | item :: rest => isIntegral item && itemsIntegral rest

/-- Whether every number of every member is an integer. -/
def membersIntegral : List (String × Json) → Bool
  | [] => true
  | member :: rest => memberIntegral member && membersIntegral rest

/-- Whether every number of a member is an integer. -/
def memberIntegral : String × Json → Bool
  | (_, value) => isIntegral value

end

/-- The members nest as deep as one of them. -/
theorem membersNesting_le_iff {members : List (String × Json)} {depth : Nat} :
    membersNesting members ≤ depth ↔ ∀ p ∈ members, p.2.nesting ≤ depth := by
  induction members with
  | nil => simp [membersNesting]
  | cons p rest ih =>
    obtain ⟨key, value⟩ := p
    simp only [membersNesting, memberNesting, Nat.max_le, ih, List.forall_mem_cons]

-- ════════════════════════════════════════════════════════════════════════
-- Written values
-- ════════════════════════════════════════════════════════════════════════

mutual

/-- Every value can be written. -/
theorem isSpelled_written : (j : Json) → j.written.IsSpelled
  | .null | .bool _ => trivial
  | .int n => by
    show (Numeral.ofChars? (Numeral.ofInt n)).isSome
    rw [Numeral.ofChars?_ofInt]
    rfl
  | .fraction x => Numeral.isSome_ofChars?_ofBinary x
  | .string _ => fun _ hp => Quoted.isSpelled_of_mem_ofString hp
  | .array items => itemsSpelled_itemsWritten items
  | .object members => membersSpelled_membersWritten members

theorem itemsSpelled_itemsWritten : (items : List Json) →
    Written.ItemsSpelled (itemsWritten items)
  | [] => trivial
  | item :: rest => ⟨isSpelled_written item, itemsSpelled_itemsWritten rest⟩

theorem membersSpelled_membersWritten : (members : List (String × Json)) →
    Written.MembersSpelled (membersWritten members)
  | [] => trivial
  | member :: rest => ⟨memberSpelled_memberWritten member, membersSpelled_membersWritten rest⟩

theorem memberSpelled_memberWritten : (member : String × Json) →
    Written.MemberSpelled (memberWritten member)
  | (_, value) => ⟨fun _ hp => Quoted.isSpelled_of_mem_ofString hp, isSpelled_written value⟩

end

theorem written_eq_null {j : Json} (h : j.written = .null) : j = .null := by
  cases j with
  | null => rfl
  | bool _ | int _ | fraction _ | string _ | array _ | object _ => cases h

end Json

namespace Written

-- ════════════════════════════════════════════════════════════════════════
-- Taking back what was written
-- ════════════════════════════════════════════════════════════════════════

/-- The numeral of an integer of 64 bits is taken for the integer. -/
theorem json?_written_int {n : Int} (h : (Json.int n).IsCanonical) (depth : Nat) :
    json? depth (Json.int n).written = some (.int n) := by
  obtain ⟨numeral, hnumeral, hint⟩ := Option.bind_eq_some_iff.1 (Numeral.int?_ofInt h)
  show ((Numeral.ofChars? (Numeral.ofInt n)).bind Numeral.value?).map JsonValue.tree = _
  rw [hnumeral, Option.bind_some, Numeral.value?_of_int? hint]

mutual

/-- A value with integers only is taken back as it was written. -/
theorem json?_written : (j : Json) → ∀ {depth : Nat}, j.IsCanonical → j.isIntegral →
    j.nesting ≤ depth → json? depth j.written = some j
  | .null, _, _, _, _ | .bool _, _, _, _, _ => rfl
  | .int _, depth, hcanonical, _, _ => json?_written_int hcanonical depth
  | .fraction _, _, _, hintegral, _ => nomatch hintegral
  | .string s, _, _, _, _ => by
    show (Quoted.text? (Quoted.ofString s)).map Json.string = _
    rw [Quoted.text?_ofString, Option.map_some]
  | .array _, 0, _, _, hdepth => absurd hdepth (Nat.not_succ_le_zero _)
  | .array items, depth + 1, hcanonical, hintegral, hdepth => by
    have hitems := itemsJson?_itemsWritten items hcanonical hintegral
      (Nat.le_of_succ_le_succ hdepth)
    show (itemsJson? depth (Json.itemsWritten items)).map Json.array = _
    rw [hitems, Option.map_some]
  | .object _, 0, _, _, hdepth => absurd hdepth (Nat.not_succ_le_zero _)
  | .object members, depth + 1, hcanonical, hintegral, hdepth => by
    have hmembers := membersJson?_membersWritten members hcanonical.2 hintegral
      (Nat.le_of_succ_le_succ hdepth)
    show (membersJson? depth (Json.membersWritten members)).map _ = _
    rw [hmembers, Option.map_some, Keyed.ofList_entries ⟨members, hcanonical.1⟩]

theorem itemsJson?_itemsWritten : (items : List Json) → ∀ {depth : Nat},
    Json.ItemsCanonical items → Json.itemsIntegral items → Json.itemsNesting items ≤ depth →
      itemsJson? depth (Json.itemsWritten items) = some items
  | [], _, _, _, _ => rfl
  | item :: rest, depth, hcanonical, hintegral, hdepth => by
    obtain ⟨hitem, hrest⟩ := Bool.and_eq_true_iff.1 hintegral
    have hvalue := json?_written item hcanonical.1 hitem (Nat.max_le.1 hdepth).1
    have hvalues := itemsJson?_itemsWritten rest hcanonical.2 hrest (Nat.max_le.1 hdepth).2
    simp only [Json.itemsWritten, itemsJson?, hvalue, hvalues]

theorem membersJson?_membersWritten : (members : List (String × Json)) → ∀ {depth : Nat},
    Json.MembersCanonical members → Json.membersIntegral members →
      Json.membersNesting members ≤ depth →
      membersJson? depth (Json.membersWritten members) = some members
  | [], _, _, _, _ => rfl
  | member :: rest, depth, hcanonical, hintegral, hdepth => by
    obtain ⟨hmember, hrest⟩ := Bool.and_eq_true_iff.1 hintegral
    have hvalue := memberJson?_memberWritten member hcanonical.1 hmember (Nat.max_le.1 hdepth).1
    have hvalues := membersJson?_membersWritten rest hcanonical.2 hrest (Nat.max_le.1 hdepth).2
    simp only [Json.membersWritten, membersJson?, hvalue, hvalues]

theorem memberJson?_memberWritten : (member : String × Json) → ∀ {depth : Nat},
    Json.MemberCanonical member → Json.memberIntegral member →
      Json.memberNesting member ≤ depth →
      memberJson? depth (Json.memberWritten member) = some member
  | (key, value), depth, hcanonical, hintegral, hdepth => by
    have hvalue := json?_written value hcanonical hintegral hdepth
    simp only [Json.memberWritten, memberJson?, Quoted.text?_ofString, hvalue]

end

-- ════════════════════════════════════════════════════════════════════════
-- How deep a value can nest that was taken from a text
-- ════════════════════════════════════════════════════════════════════════

/-- The value of a numeral is a number. -/
theorem tree_of_value? {m : Numeral} {v : JsonValue} (h : m.value? = some v) :
    (∃ n, v.tree = .int n) ∨ ∃ x, v.tree = .fraction x := by
  unfold Numeral.value? at h
  split at h
  · cases h
    exact .inl ⟨_, rfl⟩
  · obtain ⟨x, -, rfl⟩ := Option.map_eq_some_iff.1 h
    exact .inr ⟨x, rfl⟩

mutual

/-- A value that was taken from a text nests no deeper than the reader goes. -/
theorem nesting_of_json? {depth : Nat} {j : Json} :
    (w : Written) → json? depth w = some j → j.nesting ≤ depth
  | .null, h | .bool _, h => by
    cases h
    exact Nat.zero_le _
  | .number _, h => by
    simp only [json?, Option.map_eq_some_iff] at h
    obtain ⟨v, hv, rfl⟩ := h
    obtain ⟨numeral, -, hvalue⟩ := Option.bind_eq_some_iff.1 hv
    rcases tree_of_value? hvalue with ⟨n, hn⟩ | ⟨x, hx⟩
    · exact hn ▸ Nat.zero_le _
    · exact hx ▸ Nat.zero_le _
  | .string _, h => by
    simp only [json?, Option.map_eq_some_iff] at h
    obtain ⟨s, -, rfl⟩ := h
    exact Nat.zero_le _
  | .array items, h => by
    cases depth with
    | zero => cases h
    | succ depth =>
      simp only [json?, Option.map_eq_some_iff] at h
      obtain ⟨values, hvalues, rfl⟩ := h
      exact Nat.succ_le_succ (itemsNesting_of_itemsJson? items hvalues)
  | .object members, h => by
    cases depth with
    | zero => cases h
    | succ depth =>
      simp only [json?, Option.map_eq_some_iff] at h
      obtain ⟨values, hvalues, rfl⟩ := h
      refine Nat.succ_le_succ (Json.membersNesting_le_iff.2 fun p hp => ?_)
      exact Json.membersNesting_le_iff.1 (membersNesting_of_membersJson? members hvalues) p
        (Keyed.mem_of_mem_ofList hp)

theorem itemsNesting_of_itemsJson? {depth : Nat} {values : List Json} :
    (items : List Written) → itemsJson? depth items = some values →
      Json.itemsNesting values ≤ depth
  | [], h => by
    cases h
    exact Nat.zero_le _
  | item :: rest, h => by
    simp only [itemsJson?] at h
    split at h
    · next hitem hrest =>
      cases h
      exact Nat.max_le.2 ⟨nesting_of_json? item hitem, itemsNesting_of_itemsJson? rest hrest⟩
    · cases h

theorem membersNesting_of_membersJson? {depth : Nat} {values : List (String × Json)} :
    (members : List (List Quoted.Piece × Written)) → membersJson? depth members = some values →
      Json.membersNesting values ≤ depth
  | [], h => by
    cases h
    exact Nat.zero_le _
  | member :: rest, h => by
    simp only [membersJson?] at h
    split at h
    · next hmember hrest =>
      cases h
      exact Nat.max_le.2 ⟨memberNesting_of_memberJson? member hmember,
        membersNesting_of_membersJson? rest hrest⟩
    · cases h

theorem memberNesting_of_memberJson? {depth : Nat} {value : String × Json} :
    (member : List Quoted.Piece × Written) → memberJson? depth member = some value →
      Json.memberNesting value ≤ depth
  | (_, written), h => by
    simp only [memberJson?] at h
    split at h
    · next hvalue =>
      cases h
      exact nesting_of_json? written hvalue
    · cases h

end

/-- Only the word `null` is taken for `null`. -/
theorem eq_null_of_json? {depth : Nat} {w : Written} (h : json? depth w = some .null) :
    w = .null := by
  cases w with
  | null => rfl
  | bool b => cases h
  | number text =>
    simp only [json?, Option.map_eq_some_iff] at h
    obtain ⟨v, hv, htree⟩ := h
    obtain ⟨numeral, -, hvalue⟩ := Option.bind_eq_some_iff.1 hv
    rcases tree_of_value? hvalue with ⟨n, hn⟩ | ⟨x, hx⟩
    · cases hn.symm.trans htree
    · cases hx.symm.trans htree
  | string pieces =>
    simp only [json?, Option.map_eq_some_iff] at h
    obtain ⟨s, -, hs⟩ := h
    cases hs
  | array items =>
    cases depth with
    | zero => cases h
    | succ depth =>
      simp only [json?, Option.map_eq_some_iff] at h
      obtain ⟨values, -, hvalues⟩ := h
      cases hvalues
  | object members =>
    cases depth with
    | zero => cases h
    | succ depth =>
      simp only [json?, Option.map_eq_some_iff] at h
      obtain ⟨values, -, hvalues⟩ := h
      cases hvalues

-- ════════════════════════════════════════════════════════════════════════
-- Values in canonical form
-- ════════════════════════════════════════════════════════════════════════

variable {w : Written} {v : JsonValue} {depth : Nat}

theorem value?_eq_some_iff : w.value? depth = some v ↔ w.json? depth = some v.tree := by
  unfold value?
  split
  · next j hj =>
    obtain ⟨tree, _⟩ := v
    simp [hj]
  · next hnone => simp [hnone]

/-- A value with integers only is taken back from its written tree exactly when it nests no
    deeper than the reader goes. -/
theorem value?_written_iff (hintegral : v.tree.isIntegral) :
    v.tree.written.value? depth = some v ↔ v.tree.nesting ≤ depth := by
  rw [value?_eq_some_iff]
  exact ⟨nesting_of_json? _, json?_written v.tree v.canonical hintegral⟩

end Written

end Sitemap
