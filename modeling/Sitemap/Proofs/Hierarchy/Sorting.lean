import Mathlib.Logic.Equiv.Basic
import Sitemap.Proofs.Hierarchy.Seats

/-!
# Sorted children

The children of a parent can be put in order whatever positions they hold: by position, and by
code where they share one. In particular positions may leave gaps. What a change does to the
order is told here for seats of which no two are the same one.

## Main definitions

- `Seats.Sorts` — the children of a parent, by position and then by code
- `Seats.Apart` — no two pages hold the same seat
- `Seats.exchange` — the seats once two pages have exchanged theirs

## Main results

- `Seats.Sorts.unique` — there is one way to sort the children of a parent
- `Seats.Sorts.leave_filter` — a child that leaves its gap to be closed is struck, nothing else
- `Seats.Apart.place`, `Seats.Apart.leave`, `Seats.Apart.exchange` — changes keep seats apart
-/

namespace Sitemap

namespace Seats

/-- The codes are the children of `parent`, by position and then by code. -/
structure Sorts (s : Seats) (parent : String) (codes : List String) : Prop where
  /-- The codes are those of the children. -/
  mem_iff : ∀ c, c ∈ codes ↔ ∃ position, s c = some (parent, position)
  /-- Smaller positions come first, and at one position smaller codes. -/
  ascending : codes.Pairwise fun a b => ∀ i j, s a = some (parent, i) → s b = some (parent, j) →
    i < j ∨ i = j ∧ a < b

/-- No two pages hold the same seat. -/
def Apart (s : Seats) : Prop :=
  ∀ c d seat, s c = some seat → s d = some seat → c = d

/-- The seats once two pages have exchanged theirs. -/
def exchange (s : Seats) (c d : String) : Seats :=
  fun e => s (Equiv.swap c d e)

variable {s s' : Seats} {parent other code : String} {codes codes' : List String}
  {position : Int}

-- ════════════════════════════════════════════════════════════════════════
-- One way to sort
-- ════════════════════════════════════════════════════════════════════════

namespace Sorts

/-- No child is listed twice, since it does not come before itself. -/
theorem nodup (h : s.Sorts parent codes) : codes.Nodup := by
  refine h.ascending.imp_of_mem fun {a b} ha _ hab heq => ?_
  subst heq
  obtain ⟨i, hi⟩ := (h.mem_iff a).1 ha
  rcases hab i i hi hi with hlt | ⟨-, hlt⟩
  · exact Int.lt_irrefl i hlt
  · exact String.lt_irrefl a hlt

/-- There is one way to sort the children of a parent. -/
theorem unique (h : s.Sorts parent codes) (h' : s.Sorts parent codes') : codes = codes' := by
  have hperm : codes.Perm codes' := by
    rw [List.perm_ext_iff_of_nodup h.nodup h'.nodup]
    intro c
    rw [h.mem_iff, h'.mem_iff]
  refine hperm.eq_of_pairwise (fun a b ha hb hab hba => ?_) h.ascending h'.ascending
  obtain ⟨i, hi⟩ := (h.mem_iff a).1 ha
  obtain ⟨j, hj⟩ := (h'.mem_iff b).1 hb
  -- neither of them can come before the other
  rcases hab i j hi hj with hlt | ⟨heq, hlt⟩
  · rcases hba j i hj hi with hgt | ⟨heq, -⟩
    · omega
    · omega
  · rcases hba j i hj hi with hgt | ⟨-, hgt⟩
    · omega
    · exact absurd hgt (String.lt_asymm hlt)

/-- The order depends on the children of the parent only. -/
theorem congr (h : s.Sorts parent codes)
    (hseat : ∀ c k, s' c = some (parent, k) ↔ s c = some (parent, k)) :
    s'.Sorts parent codes where
  mem_iff c := by
    simp only [hseat]
    exact h.mem_iff c
  ascending := by
    simp only [hseat]
    exact h.ascending

/-- A list that has every child at its position sorts the children. -/
theorem of_lists (h : s.Lists parent codes) : s.Sorts parent codes where
  mem_iff _ := h.mem_iff
  ascending := by
    rw [List.pairwise_iff_getElem]
    intro n m hn hm hlt i j hi hj
    have hseat := (h.getElem?_iff n).1 (List.getElem?_eq_getElem hn)
    have hseat' := (h.getElem?_iff m).1 (List.getElem?_eq_getElem hm)
    rw [hi] at hseat
    rw [hj] at hseat'
    simp only [Option.some.injEq, Prod.mk.injEq, true_and] at hseat hseat'
    omega

/-- Where positions leave no gaps, the sorted children are the list. -/
theorem lists (h : s.Sorts parent codes) (horder : s.InOrder) : s.Lists parent codes := by
  obtain ⟨listed, hlisted⟩ := horder parent
  rw [h.unique (of_lists hlisted)]
  exact hlisted

end Sorts

-- ════════════════════════════════════════════════════════════════════════
-- A page gets a seat
-- ════════════════════════════════════════════════════════════════════════

/-- A page without a seat is not listed yet. -/
theorem Sorts.nodup_concat (h : s.Sorts parent codes) (hcode : s code = none) :
    (codes ++ [code]).Nodup := by
  refine List.Nodup.append h.nodup (List.nodup_singleton code) ?_
  rw [List.disjoint_singleton, h.mem_iff, hcode]
  simp

/-- A page joins the children of the parent that it is placed below. -/
theorem Sorts.mem_concat_iff (h : s.Sorts parent codes) (c : String) :
    c ∈ codes ++ [code] ↔ ∃ k, s.place code parent position c = some (parent, k) := by
  rw [List.mem_append, List.mem_singleton, h.mem_iff]
  unfold place
  by_cases hc : c = code
  · rw [if_pos hc]
    exact iff_of_true (.inr hc) ⟨position, rfl⟩
  · rw [if_neg hc]
    exact or_iff_left hc

-- ════════════════════════════════════════════════════════════════════════
-- A page leaves its seat
-- ════════════════════════════════════════════════════════════════════════

/-- The children that are left behind sit where they sat, or one position before that. -/
theorem leave_eq_some_iff {c : String} {k : Int} :
    s.leave code parent position c = some (parent, k) ↔ c ≠ code ∧
      ∃ i, s c = some (parent, i) ∧ k = if position < i then i - 1 else i := by
  have hclose : ∀ i, closeGap parent position (parent, i) =
      (parent, if position < i then i - 1 else i) := by
    intro i
    unfold closeGap
    by_cases hlt : position < i
    · simp [hlt]
    · simp [hlt]
  unfold leave
  by_cases hc : c = code
  · simp [hc]
  · rw [if_neg hc, Option.map_eq_some_iff]
    constructor
    · rintro ⟨⟨q, i⟩, hseat, hk⟩
      obtain rfl : q = parent := by
        unfold closeGap at hk
        split at hk
        · exact (Prod.mk.inj hk).1
        · exact (Prod.mk.inj hk).1
      rw [hclose, Prod.mk.injEq] at hk
      exact ⟨hc, i, hseat, hk.2.symm⟩
    · rintro ⟨-, i, hseat, rfl⟩
      exact ⟨(parent, i), hseat, hclose i⟩

/-- A child that leaves is struck from the sorted children. The gap can be closed without sorting
    again, since no other child holds the position that is given up. -/
theorem Sorts.leave_filter (h : s.Sorts parent codes) (hapart : s.Apart)
    (hcode : s code = some (parent, position)) :
    (s.leave code parent position).Sorts parent (codes.filter fun c => c ≠ code) where
  mem_iff c := by
    rw [List.mem_filter, h.mem_iff, decide_eq_true_iff]
    simp only [leave_eq_some_iff]
    constructor
    · rintro ⟨⟨i, hi⟩, hc⟩
      exact ⟨_, hc, i, hi, rfl⟩
    · rintro ⟨_, hc, i, hi, -⟩
      exact ⟨⟨i, hi⟩, hc⟩
  ascending := by
    refine (h.ascending.filter _).imp fun {a b} hab i' j' ha hb => ?_
    obtain ⟨hne, i, hi, rfl⟩ := leave_eq_some_iff.1 ha
    obtain ⟨hne', j, hj, rfl⟩ := leave_eq_some_iff.1 hb
    have hi' : i ≠ position := fun heq => hne (hapart _ _ _ hi (heq ▸ hcode))
    have hj' : j ≠ position := fun heq => hne' (hapart _ _ _ hj (heq ▸ hcode))
    rcases hab i j hi hj with hlt | ⟨rfl, hlt⟩
    · left
      split <;> split <;> omega
    · exact .inr ⟨rfl, hlt⟩

-- ════════════════════════════════════════════════════════════════════════
-- Pages exchange their seats
-- ════════════════════════════════════════════════════════════════════════

section Exchange

variable {c d e : String} {i j k : Int}

/-- Children of one parent that exchange their seats stay its children. -/
theorem exists_exchange_iff (hc : s c = some (parent, i)) (hd : s d = some (parent, j)) :
    (∃ k, s.exchange c d e = some (parent, k)) ↔ ∃ k, s e = some (parent, k) := by
  unfold exchange
  rw [Equiv.swap_apply_def]
  split
  · next he =>
    rw [he]
    exact iff_of_true ⟨j, hd⟩ ⟨i, hc⟩
  · split
    · next he =>
      rw [he]
      exact iff_of_true ⟨i, hc⟩ ⟨j, hd⟩
    · rfl

/-- They are no children of another one. -/
theorem exchange_eq_some_iff_of_ne (hne : other ≠ parent) (hc : s c = some (parent, i))
    (hd : s d = some (parent, j)) :
    s.exchange c d e = some (other, k) ↔ s e = some (other, k) := by
  unfold exchange
  rw [Equiv.swap_apply_def]
  split
  · next he =>
    rw [he, hc, hd]
    simp [Ne.symm hne]
  · split
    · next he =>
      rw [he, hc, hd]
      simp [Ne.symm hne]
    · rfl

end Exchange

-- ════════════════════════════════════════════════════════════════════════
-- Seats that stay apart
-- ════════════════════════════════════════════════════════════════════════

/-- Children in order hold one position each. -/
theorem InOrder.apart (h : s.InOrder) : s.Apart := by
  rintro c d ⟨parent, position⟩ hc hd
  obtain ⟨codes, hlist⟩ := h parent
  obtain ⟨i, hi, hposition⟩ := (hlist c position).1 hc
  obtain ⟨j, hj, hposition'⟩ := (hlist d position).1 hd
  obtain rfl : i = j := by omega
  exact Option.some.inj (hi.symm.trans hj)

namespace Apart

/-- A page that takes a free seat shares it with nobody. -/
theorem place (h : s.Apart) (hfree : ∀ c, c ≠ code → s c ≠ some (parent, position)) :
    (s.place code parent position).Apart := by
  intro c d seat hc hd
  unfold Seats.place at hc hd
  split at hc
  · next heq =>
    cases hc
    split at hd
    · next heq' => rw [heq, heq']
    · next hne => exact absurd hd (hfree d hne)
  · next hne =>
    split at hd
    · cases hd
      exact absurd hc (hfree c hne)
    · exact h c d seat hc hd

/-- Closing a gap brings no two pages together. -/
theorem leave (h : s.Apart) (hcode : s code = some (parent, position)) :
    (s.leave code parent position).Apart := by
  rintro c d ⟨q, k⟩ hc hd
  by_cases hq : q = parent
  · subst hq
    obtain ⟨hne, i, hi, hk⟩ := leave_eq_some_iff.1 hc
    obtain ⟨hne', j, hj, hk'⟩ := leave_eq_some_iff.1 hd
    have hi' : i ≠ position := fun heq => hne (h _ _ _ hi (heq ▸ hcode))
    have hj' : j ≠ position := fun heq => hne' (h _ _ _ hj (heq ▸ hcode))
    obtain rfl : i = j := by
      split at hk <;> split at hk' <;> omega
    exact h c d _ hi hj
  · rw [leave_eq_some_iff_of_ne hq hcode] at hc hd
    exact h c d _ hc hd

/-- Pages that exchange their seats hold each other's. -/
theorem exchange (h : s.Apart) (c d : String) : (s.exchange c d).Apart :=
  fun _ _ seat hc hd => (Equiv.swap c d).injective (h _ _ seat hc hd)

end Apart

end Seats

end Sitemap
