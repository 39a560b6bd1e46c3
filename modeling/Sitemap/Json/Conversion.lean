import Sitemap.Json.Written
import Sitemap.Keyed.Lemmas

/-!
# Values of written JSON

From the tree of a text to the value it denotes, and back.

## Main definitions

- `Written.json?` — the value of a written tree, with a bound on the nesting
- `Written.value?` — the same, in canonical form
- `Json.written` — the written tree of a value

## Main results

- `Written.isCanonical_of_json?` — the value of a written tree is canonical

## Design notes

In an object a later member replaces an earlier one of the same key, and the order
of the members is forgotten. Every text inside must be free of unpaired surrogates,
every number must be representable.
-/

namespace Sitemap

namespace Written

mutual

/-- The value of a written tree; `none` when arrays and objects nest deeper than
    `depth`, or a text or number inside has no value. -/
def json? (depth : Nat) : Written → Option Json
  | .null => some .null
  | .bool b => some (.bool b)
  | .number text => ((Numeral.ofChars? text).bind Numeral.value?).map JsonValue.tree
  | .string pieces => (Quoted.text? pieces).map .string
  | .array items =>
    match depth with
    | 0 => none
    | depth + 1 => (itemsJson? depth items).map .array
  | .object members =>
    match depth with
    | 0 => none
    | depth + 1 => (membersJson? depth members).map fun ms => .object (Keyed.ofList ms).entries

/-- The values of a list of written trees. -/
def itemsJson? (depth : Nat) : List Written → Option (List Json)
  | [] => some []
  | item :: rest =>
    match json? depth item, itemsJson? depth rest with
    | some value, some values => some (value :: values)
    | _, _ => none

/-- The values of written members, under the texts of their keys. -/
def membersJson? (depth : Nat) :
    List (List Quoted.Piece × Written) → Option (List (String × Json))
  | [] => some []
  | member :: rest =>
    match memberJson? depth member, membersJson? depth rest with
    | some value, some values => some (value :: values)
    | _, _ => none

/-- The value of a written member, under the text of its key. -/
def memberJson? (depth : Nat) : List Quoted.Piece × Written → Option (String × Json)
  | (key, value) =>
    match Quoted.text? key, json? depth value with
    | some key, some value => some (key, value)
    | _, _ => none

end

/-- Members are canonical when each of them is. -/
theorem membersCanonical_iff {members : List (String × Json)} :
    Json.MembersCanonical members ↔ ∀ p ∈ members, p.2.IsCanonical := by
  induction members with
  | nil => simp [Json.MembersCanonical]
  | cons p rest ih =>
    obtain ⟨key, value⟩ := p
    simp [Json.MembersCanonical, Json.MemberCanonical, ih]

mutual

/-- The value of a written tree is canonical. -/
theorem isCanonical_of_json? {depth : Nat} {j : Json} :
    (w : Written) → json? depth w = some j → j.IsCanonical
  | .null, h => by cases h; trivial
  | .bool _, h => by cases h; trivial
  | .number _, h => by
    simp only [json?, Option.map_eq_some_iff] at h
    obtain ⟨v, _, rfl⟩ := h
    exact v.canonical
  | .string _, h => by
    simp only [json?, Option.map_eq_some_iff] at h
    obtain ⟨s, _, rfl⟩ := h
    trivial
  | .array items, h => by
    cases depth with
    | zero => simp [json?] at h
    | succ depth =>
      simp only [json?, Option.map_eq_some_iff] at h
      obtain ⟨values, hvalues, rfl⟩ := h
      exact itemsCanonical_of_itemsJson? items hvalues
  | .object members, h => by
    cases depth with
    | zero => simp [json?] at h
    | succ depth =>
      simp only [json?, Option.map_eq_some_iff] at h
      obtain ⟨values, hvalues, rfl⟩ := h
      refine ⟨(Keyed.ofList values).ascending, membersCanonical_iff.2 fun p hp => ?_⟩
      exact membersCanonical_iff.1 (membersCanonical_of_membersJson? members hvalues) p
        (Keyed.mem_of_mem_ofList hp)

/-- The values of written items are canonical. -/
theorem itemsCanonical_of_itemsJson? {depth : Nat} {values : List Json} :
    (items : List Written) → itemsJson? depth items = some values → Json.ItemsCanonical values
  | [], h => by cases h; trivial
  | item :: rest, h => by
    simp only [itemsJson?] at h
    split at h
    · next hitem hrest =>
      cases h
      exact ⟨isCanonical_of_json? item hitem, itemsCanonical_of_itemsJson? rest hrest⟩
    · cases h

/-- The values of written members are canonical. -/
theorem membersCanonical_of_membersJson? {depth : Nat} {values : List (String × Json)} :
    (members : List (List Quoted.Piece × Written)) → membersJson? depth members = some values →
      Json.MembersCanonical values
  | [], h => by cases h; trivial
  | member :: rest, h => by
    simp only [membersJson?] at h
    split at h
    · next hmember hrest =>
      cases h
      exact ⟨memberCanonical_of_memberJson? member hmember,
        membersCanonical_of_membersJson? rest hrest⟩
    · cases h

/-- The value of a written member is canonical. -/
theorem memberCanonical_of_memberJson? {depth : Nat} {value : String × Json} :
    (member : List Quoted.Piece × Written) → memberJson? depth member = some value →
      Json.MemberCanonical value
  | (_, written), h => by
    simp only [memberJson?] at h
    split at h
    · next hvalue =>
      cases h
      exact isCanonical_of_json? written hvalue
    · cases h

end

/-- The value of a written tree in canonical form; `none` when arrays and objects nest
    deeper than `depth`, or a text or number inside has no value. -/
def value? (depth : Nat) (w : Written) : Option JsonValue :=
  match h : json? depth w with
  | some j => some ⟨j, isCanonical_of_json? w h⟩
  | none => none

end Written

namespace Json

mutual

/-- The written tree of a value. -/
def written : Json → Written
  | .null => .null
  | .bool b => .bool b
  | .int n => .number (Numeral.ofInt n)
  | .fraction x => .number (Numeral.ofBinary x)
  | .string s => .string (Quoted.ofString s)
  | .array items => .array (itemsWritten items)
  | .object members => .object (membersWritten members)

/-- The written trees of the items of an array. -/
def itemsWritten : List Json → List Written
  | [] => []
  | item :: rest => written item :: itemsWritten rest

/-- The written members of an object. -/
def membersWritten : List (String × Json) → List (List Quoted.Piece × Written)
  | [] => []
  | member :: rest => memberWritten member :: membersWritten rest

/-- A written member of an object. -/
def memberWritten : String × Json → List Quoted.Piece × Written
  | (key, value) => (Quoted.ofString key, written value)

end

/-- The compact text of a value. -/
def text (j : Json) : Octets :=
  j.written.render

end Json

end Sitemap
