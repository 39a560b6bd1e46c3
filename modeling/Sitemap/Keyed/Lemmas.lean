import Sitemap.Keyed.Basic

/-!
# Laws of keyed collections

What each operation does to the value found under a key, and extensionality.

## Main results

- `Keyed.ext_get?` — collections with the same value under every key are equal
- `Keyed.get?_insert`, `Keyed.get?_erase`, `Keyed.get?_map` — the operations seen
  through `get?`
- `Keyed.mem_values_iff`, `Keyed.mem_keys_iff` — the values and the keys, told by `get?`
- `Keyed.map_values_eq_keys` — values that are filed under keys of their own
- `Keyed.mem_of_mem_ofList` — a filed pair is one of the pairs given
- `Keyed.ofList_entries` — filing the entries of a collection gives the collection
-/

namespace Sitemap

namespace Keyed

variable {κ β γ : Type} [Ord κ]

-- ════════════════════════════════════════════════════════════════════════
-- Lists of pairs
-- ════════════════════════════════════════════════════════════════════════

theorem find_eq_none_of_lt [Std.TransOrd κ] {key : κ} {l : List (κ × β)}
    (h : ∀ p ∈ l, compare key p.1 = .lt) : find key l = none := by
  induction l with
  | nil => rfl
  | cons e rest ih =>
    obtain ⟨k, v⟩ := e
    have hk : compare key k = .lt := h (k, v) List.mem_cons_self
    simp [find, hk, ih fun p hp => h p (List.mem_cons_of_mem _ hp)]

/-- A key finds a value exactly when the pair is listed. -/
theorem find_eq_some_iff [Std.TransOrd κ] [Std.LawfulEqOrd κ] {key : κ} {value : β}
    {l : List (κ × β)} (h : KeysAscend l) :
    find key l = some value ↔ (key, value) ∈ l := by
  induction l with
  | nil => simp [find]
  | cons e rest ih =>
    obtain ⟨k, v⟩ := e
    obtain ⟨hhead, htail⟩ := List.pairwise_cons.1 h
    by_cases hk : compare key k = .eq
    · obtain rfl := Std.compare_eq_iff_eq.1 hk
      have hnot : (key, value) ∉ rest := fun hmem => by
        have := hhead _ hmem
        simp at this
      simp only [find, hk, if_true, Option.some.injEq, List.mem_cons, Prod.mk.injEq, true_and,
        hnot, or_false]
      exact eq_comm
    · have hne : key ≠ k := fun heq => hk (Std.compare_eq_iff_eq.2 heq)
      simp [find, hk, ih htail, hne]

theorem find_place_self [Std.TransOrd κ] (key : κ) (value : β) (l : List (κ × β)) :
    find key (place key value l) = some value := by
  induction l with
  | nil => simp [place, find]
  | cons e rest ih =>
    obtain ⟨k, v⟩ := e
    unfold place
    split
    · simp [find]
    · simp [find]
    · next h => simp [find, h, ih]

theorem find_place_of_ne [Std.TransOrd κ] [Std.LawfulEqOrd κ] {key other : κ} (value : β)
    (hne : other ≠ key) (l : List (κ × β)) :
    find other (place key value l) = find other l := by
  have hne' : compare other key ≠ .eq := fun h => hne (Std.compare_eq_iff_eq.1 h)
  induction l with
  | nil => simp [place, find, hne']
  | cons e rest ih =>
    obtain ⟨k, v⟩ := e
    unfold place
    split
    · simp [find, hne']
    · next h =>
      obtain rfl := Std.compare_eq_iff_eq.1 h
      simp [find, hne']
    · simp [find, ih]

theorem find_map (f : κ → β → γ) [Std.LawfulEqOrd κ] (key : κ) (l : List (κ × β)) :
    find key (l.map fun e => (e.1, f e.1 e.2)) = (find key l).map (f key) := by
  induction l with
  | nil => rfl
  | cons e rest ih =>
    obtain ⟨k, v⟩ := e
    by_cases hk : compare key k = .eq
    · obtain rfl := Std.compare_eq_iff_eq.1 hk
      simp [find]
    · simpa [find, hk] using ih

-- ════════════════════════════════════════════════════════════════════════
-- Collections
-- ════════════════════════════════════════════════════════════════════════

/-- A key finds a value exactly when the pair is among the entries. -/
theorem get?_eq_some_iff [Std.TransOrd κ] [Std.LawfulEqOrd κ] {m : Keyed κ β} {key : κ}
    {value : β} : m.get? key = some value ↔ (key, value) ∈ m.entries :=
  find_eq_some_iff m.ascending

/-- The values are what keys find. -/
theorem mem_values_iff [Std.TransOrd κ] [Std.LawfulEqOrd κ] {m : Keyed κ β} {value : β} :
    value ∈ m.values ↔ ∃ key, m.get? key = some value := by
  simp only [values, List.mem_map, get?_eq_some_iff, Prod.exists, exists_eq_right]

/-- The keys are those that find a value. -/
theorem mem_keys_iff [Std.TransOrd κ] [Std.LawfulEqOrd κ] {m : Keyed κ β} {key : κ} :
    key ∈ m.keys ↔ (m.get? key).isSome := by
  simp only [keys, List.mem_map, Option.isSome_iff_exists, get?_eq_some_iff, Prod.exists,
    exists_and_right, exists_eq_right]

/-- The keys are listed in ascending order. -/
theorem pairwise_keys (m : Keyed κ β) : m.keys.Pairwise fun a b => compare a b = .lt :=
  List.pairwise_map.2 m.ascending

/-- No key is listed twice. -/
theorem nodup_keys [Std.TransOrd κ] (m : Keyed κ β) : m.keys.Nodup := by
  refine m.pairwise_keys.imp fun {a b} hlt heq => ?_
  subst heq
  exact absurd hlt (by simp)

/-- Values that tell the keys they are filed under tell all keys. -/
theorem map_values_eq_keys [Std.TransOrd κ] [Std.LawfulEqOrd κ] {m : Keyed κ β} {f : β → κ}
    (h : ∀ key value, m.get? key = some value → f value = key) : m.values.map f = m.keys := by
  unfold values keys
  rw [List.map_map]
  exact List.map_congr_left fun e he => h e.1 e.2 (get?_eq_some_iff.2 he)

@[simp]
theorem get?_empty (key : κ) : (∅ : Keyed κ β).get? key = none := rfl

@[simp]
theorem get?_insert_self [Std.TransOrd κ] (m : Keyed κ β) (key : κ) (value : β) :
    (m.insert key value).get? key = some value :=
  find_place_self key value m.entries

/-- After an insertion the key finds the new value, and every other key what it found
    before. -/
theorem get?_insert [DecidableEq κ] [Std.TransOrd κ] [Std.LawfulEqOrd κ] (m : Keyed κ β)
    (key other : κ) (value : β) :
    (m.insert key value).get? other = if other = key then some value else m.get? other := by
  split
  · next h => exact h ▸ get?_insert_self m key value
  · next h => exact find_place_of_ne value h m.entries

/-- After an erasure the key finds nothing, and every other key what it found before. -/
theorem get?_erase [DecidableEq κ] [Std.TransOrd κ] [Std.LawfulEqOrd κ] (m : Keyed κ β)
    (key other : κ) :
    (m.erase key).get? other = if other = key then none else m.get? other := by
  apply Option.ext
  intro value
  rw [get?_eq_some_iff]
  split
  · next h =>
    subst h
    simp [erase]
  · next h =>
    rw [get?_eq_some_iff]
    simp [erase, Ne.symm h]

/-- Changing every value changes what each key finds. -/
@[simp]
theorem get?_map [Std.LawfulEqOrd κ] (m : Keyed κ β) (f : κ → β → γ) (key : κ) :
    (m.map f).get? key = (m.get? key).map (f key) :=
  find_map f key m.entries

/-- Changing one value changes what its key finds, and nothing else. -/
theorem get?_modify [DecidableEq κ] [Std.LawfulEqOrd κ] [Std.TransOrd κ] (m : Keyed κ β)
    (key other : κ) (f : β → β) :
    (m.modify key f).get? other =
      if other = key then (m.get? other).map f else m.get? other := by
  unfold modify
  rw [get?_map]
  by_cases h : other = key
  · subst h
    simp
  · simp [h, Ne.symm h]

/-- Collections with the same value under every key are equal. -/
theorem ext_get? [Std.TransOrd κ] [Std.LawfulEqOrd κ] {a b : Keyed κ β}
    (h : ∀ key, a.get? key = b.get? key) : a = b := by
  obtain ⟨l, hl⟩ := a
  obtain ⟨m, hm⟩ := b
  have hmem : ∀ p : κ × β, p ∈ l ↔ p ∈ m := fun (key, value) => by
    rw [← find_eq_some_iff hl, ← find_eq_some_iff hm]
    exact iff_of_eq (congrArg (· = some value) (h key))
  suffices l = m by subst this; rfl
  clear h
  induction l generalizing m with
  | nil =>
    cases m with
    | nil => rfl
    | cons e _ => exact absurd ((hmem e).2 List.mem_cons_self) List.not_mem_nil
  | cons e rest ih =>
    cases m with
    | nil => exact absurd ((hmem e).1 List.mem_cons_self) List.not_mem_nil
    | cons e' rest' =>
      obtain ⟨hhead, htail⟩ := List.pairwise_cons.1 hl
      obtain ⟨hhead', htail'⟩ := List.pairwise_cons.1 hm
      have heq : e = e' := by
        rcases List.mem_cons.1 ((hmem e).1 List.mem_cons_self) with h | h
        · exact h
        · rcases List.mem_cons.1 ((hmem e').2 List.mem_cons_self) with h' | h'
          · exact h'.symm
          · have h₁ := hhead e' h'
            have h₂ := hhead' e h
            have h₃ := Std.TransCmp.lt_trans h₁ h₂
            simp at h₃
      subst heq
      congr 1
      refine ih htail rest' htail' fun p => ⟨fun hp => ?_, fun hp => ?_⟩
      · rcases List.mem_cons.1 ((hmem p).1 (List.mem_cons_of_mem _ hp)) with h | h
        · subst h
          have := hhead p hp
          simp at this
        · exact h
      · rcases List.mem_cons.1 ((hmem p).2 (List.mem_cons_of_mem _ hp)) with h | h
        · subst h
          have := hhead' p hp
          simp at this
        · exact h

/-- A pair of a collection after an insertion is the new pair or an old one. -/
theorem mem_of_mem_insert [Std.TransOrd κ] {m : Keyed κ β} {key : κ} {value : β} {p : κ × β}
    (h : p ∈ (m.insert key value).entries) : p = (key, value) ∨ p ∈ m.entries :=
  mem_of_mem_place h

/-- A filed pair is one of the pairs given. -/
theorem mem_of_mem_ofList [Std.TransOrd κ] {pairs : List (κ × β)} {p : κ × β}
    (h : p ∈ (ofList pairs).entries) : p ∈ pairs := by
  suffices H : ∀ (m : Keyed κ β),
      p ∈ (pairs.foldl (fun m e => m.insert e.1 e.2) m).entries → p ∈ m.entries ∨ p ∈ pairs by
    rcases H empty h with h | h
    · exact absurd h List.not_mem_nil
    · exact h
  clear h
  induction pairs with
  | nil => exact fun m h => .inl h
  | cons e rest ih =>
    intro m h
    rcases ih _ h with h | h
    · rcases mem_of_mem_insert h with h | h
      · exact .inr (h ▸ List.mem_cons_self)
      · exact .inl h
    · exact .inr (List.mem_cons_of_mem _ h)

/-- A pair with a greater key than all others is filed at the end. -/
theorem place_eq_append [Std.TransOrd κ] {key : κ} {value : β} {l : List (κ × β)}
    (h : ∀ p ∈ l, compare p.1 key = .lt) : place key value l = l ++ [(key, value)] := by
  induction l with
  | nil => rfl
  | cons e rest ih =>
    obtain ⟨k, v⟩ := e
    have hgt : compare key k = .gt := Std.OrientedCmp.gt_of_lt (h (k, v) List.mem_cons_self)
    simp [place, hgt, ih fun p hp => h p (List.mem_cons_of_mem _ hp)]

/-- Filing the entries of a collection gives the collection. -/
theorem ofList_entries [Std.TransOrd κ] (m : Keyed κ β) : ofList m.entries = m := by
  suffices H : ∀ (rest : List (κ × β)) (sofar : Keyed κ β),
      KeysAscend (sofar.entries ++ rest) →
      (rest.foldl (fun m e => m.insert e.1 e.2) sofar).entries = sofar.entries ++ rest by
    obtain ⟨l, hl⟩ := m
    have hentries := H l empty hl
    change (ofList l).entries = [] ++ l at hentries
    cases hfiled : ofList l with
    | mk entries _ =>
      rw [hfiled] at hentries
      subst hentries
      rfl
  intro rest
  induction rest with
  | nil => exact fun sofar _ => (List.append_nil _).symm
  | cons e rest ih =>
    intro sofar hascend
    have hlast : ∀ p ∈ sofar.entries, compare p.1 e.1 = .lt := fun p hp =>
      (List.pairwise_append.1 hascend).2.2 p hp e List.mem_cons_self
    have hnext : (sofar.insert e.1 e.2).entries = sofar.entries ++ [e] :=
      place_eq_append hlast
    rw [List.foldl_cons, ih, hnext, List.append_assoc]
    · rfl
    · rw [hnext, List.append_assoc]
      exact hascend

end Keyed

end Sitemap
