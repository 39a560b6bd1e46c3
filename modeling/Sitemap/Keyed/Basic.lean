/-!
# Keyed collections

A finite collection of values, each filed under a key, held as a list in
strictly ascending order of keys. The order makes the representation unique:
two collections are equal as soon as every key finds the same value in both.

## Main definitions

- `Keyed` — a list of key-value pairs with strictly ascending keys
- `Keyed.get?` — the value filed under a key
- `Keyed.insert`, `Keyed.erase`, `Keyed.modify` — change the value of one key
- `Keyed.map` — change every value, keeping the keys
- `Keyed.ofList` — file a list of pairs, a later pair replacing an earlier one

## Design notes

The ascending order is part of the type, so callers never carry it as a
hypothesis. The order is also observable: walking a collection visits the keys
in ascending order, and reports that name "the first" offender rely on it.
-/

namespace Sitemap

/-- Pairs whose keys ascend strictly. -/
def KeysAscend {κ β : Type} [Ord κ] (entries : List (κ × β)) : Prop :=
  entries.Pairwise fun a b => compare a.1 b.1 = .lt

instance {κ β : Type} [Ord κ] (entries : List (κ × β)) : Decidable (KeysAscend entries) :=
  inferInstanceAs (Decidable (List.Pairwise _ _))

/-- A finite collection of values filed under keys, in ascending order of keys. -/
structure Keyed (κ β : Type) [Ord κ] where
  /-- The pairs, in ascending order of keys. -/
  entries : List (κ × β)
  /-- Every key is smaller than all keys after it. -/
  ascending : KeysAscend entries

namespace Keyed

variable {κ β γ : Type} [Ord κ]

instance [DecidableEq κ] [DecidableEq β] : DecidableEq (Keyed κ β) := fun a b =>
  decidable_of_iff (a.entries = b.entries) (by cases a; cases b; simp)

-- ════════════════════════════════════════════════════════════════════════
-- Lists of pairs
-- ════════════════════════════════════════════════════════════════════════

/-- The value of the first pair whose key compares equal to `key`. -/
def find (key : κ) : List (κ × β) → Option β
  | [] => none
  | (k, v) :: rest => if compare key k = .eq then some v else find key rest

/-- File `value` under `key`, replacing the pair of an equal key. -/
def place (key : κ) (value : β) : List (κ × β) → List (κ × β)
  | [] => [(key, value)]
  | (k, v) :: rest =>
    match compare key k with
    | .lt => (key, value) :: (k, v) :: rest
    | .eq => (key, value) :: rest
    | .gt => (k, v) :: place key value rest

/-- A pair of the list after `place` is the new pair or an old one. -/
theorem mem_of_mem_place {key : κ} {value : β} {p : κ × β} {l : List (κ × β)}
    (h : p ∈ place key value l) : p = (key, value) ∨ p ∈ l := by
  induction l with
  | nil => simpa [place] using h
  | cons e rest ih =>
    obtain ⟨k, v⟩ := e
    unfold place at h
    split at h
    · simpa using h
    · rcases List.mem_cons.1 h with h | h
      · exact .inl h
      · exact .inr (List.mem_cons_of_mem _ h)
    · rcases List.mem_cons.1 h with h | h
      · exact .inr (h ▸ List.mem_cons_self)
      · exact (ih h).imp id (List.mem_cons_of_mem _)

/-- Filing a pair keeps the keys ascending. -/
theorem keysAscend_place [Std.TransOrd κ] (key : κ) (value : β) {l : List (κ × β)}
    (h : KeysAscend l) : KeysAscend (place key value l) := by
  induction l with
  | nil => simp [place, KeysAscend]
  | cons e rest ih =>
    obtain ⟨k, v⟩ := e
    obtain ⟨hhead, htail⟩ := List.pairwise_cons.1 h
    unfold place
    split
    · next hlt =>
      refine List.pairwise_cons.2 ⟨fun p hp => ?_, h⟩
      rcases List.mem_cons.1 hp with hp | hp
      · exact hp ▸ hlt
      · exact Std.TransCmp.lt_trans hlt (hhead p hp)
    · next heq =>
      refine List.pairwise_cons.2 ⟨fun p hp => ?_, htail⟩
      exact Std.TransCmp.lt_of_eq_of_lt heq (hhead p hp)
    · next hgt =>
      refine List.pairwise_cons.2 ⟨fun p hp => ?_, ih htail⟩
      rcases mem_of_mem_place hp with hp | hp
      · subst hp
        exact Std.OrientedCmp.lt_of_gt hgt
      · exact hhead p hp

/-- Changing values only keeps the keys ascending. -/
theorem keysAscend_map (f : κ → β → γ) {l : List (κ × β)} (h : KeysAscend l) :
    KeysAscend (l.map fun e => (e.1, f e.1 e.2)) :=
  List.pairwise_map.2 h

-- ════════════════════════════════════════════════════════════════════════
-- Collections
-- ════════════════════════════════════════════════════════════════════════

/-- The collection without pairs. -/
def empty : Keyed κ β := ⟨[], List.Pairwise.nil⟩

instance : EmptyCollection (Keyed κ β) := ⟨empty⟩

instance : Inhabited (Keyed κ β) := ⟨empty⟩

/-- The value filed under `key`, if any. -/
def get? (m : Keyed κ β) (key : κ) : Option β :=
  find key m.entries

/-- Whether a value is filed under `key`. -/
def contains (m : Keyed κ β) (key : κ) : Bool :=
  (m.get? key).isSome

/-- The keys in ascending order. -/
def keys (m : Keyed κ β) : List κ :=
  m.entries.map Prod.fst

/-- The values in ascending order of their keys. -/
def values (m : Keyed κ β) : List β :=
  m.entries.map Prod.snd

/-- The number of pairs. -/
def size (m : Keyed κ β) : Nat :=
  m.entries.length

/-- Whether the collection has no pairs. -/
def isEmpty (m : Keyed κ β) : Bool :=
  m.entries.isEmpty

/-- File `value` under `key`, replacing what was there. -/
def insert [Std.TransOrd κ] (m : Keyed κ β) (key : κ) (value : β) : Keyed κ β :=
  ⟨place key value m.entries, keysAscend_place key value m.ascending⟩

/-- Drop the pair filed under `key`. -/
def erase (m : Keyed κ β) (key : κ) : Keyed κ β :=
  ⟨m.entries.filter fun e => compare key e.1 ≠ .eq, List.Pairwise.filter _ m.ascending⟩

/-- Change every value, with its key at hand. -/
def map (m : Keyed κ β) (f : κ → β → γ) : Keyed κ γ :=
  ⟨m.entries.map fun e => (e.1, f e.1 e.2), keysAscend_map f m.ascending⟩

/-- Change the value filed under `key`, if there is one. -/
def modify (m : Keyed κ β) (key : κ) (f : β → β) : Keyed κ β :=
  m.map fun k v => if compare key k = .eq then f v else v

/-- File every pair of a list, a later pair replacing an earlier one of the same key. -/
def ofList [Std.TransOrd κ] (pairs : List (κ × β)) : Keyed κ β :=
  pairs.foldl (fun m e => m.insert e.1 e.2) empty

end Keyed

end Sitemap
