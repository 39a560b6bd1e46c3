import Mathlib.Data.List.Nodup
import Mathlib.Data.List.Perm.Basic

/-!
# Seats

A page below another one has a seat: its parent, and its position among the children of
that parent. The seats are in order when the children of every parent sit at 1 to their
number, and then every parent has exactly one list of its children. This module says what
each change of the hierarchy does to these lists.

## Main definitions

- `Seats` — the seats of the pages
- `Seats.Lists` — a list holds the children of a parent, each at its position
- `Seats.InOrder` — every parent has a list of its children
- `Seats.place`, `Seats.leave`, `Seats.swap` — a page gets a seat, leaves it, or exchanges
  it with a neighbour

## Main results

- `Seats.Lists.unique` — a parent has one list of children at most
- `Seats.Lists.place_append`, `Seats.Lists.leave_filter`, `Seats.Lists.swap_set` — the lists
  after a change
-/

namespace Sitemap

/-- The seats of pages: for a page below another one, its parent and its position. -/
abbrev Seats : Type := String → Option (String × Int)

namespace Seats

/-- The codes are the children of `parent`, the first one at position 1 and so on. -/
def Lists (s : Seats) (parent : String) (codes : List String) : Prop :=
  ∀ (code : String) (position : Int), s code = some (parent, position) ↔
    ∃ i : Nat, codes[i]? = some code ∧ position = i + 1

/-- The positions of the children of every parent are 1 to their number, each taken once. -/
def InOrder (s : Seats) : Prop :=
  ∀ parent, ∃ codes, s.Lists parent codes

/-- The seat of a page once the child of `parent` at `position` has left. -/
def closeGap (parent : String) (position : Int) (seat : String × Int) : String × Int :=
  if seat.1 = parent ∧ position < seat.2 then (seat.1, seat.2 - 1) else seat

/-- The seats once a page was given one. -/
def place (s : Seats) (code parent : String) (position : Int) : Seats :=
  fun c => if c = code then some (parent, position) else s c

/-- The seats once a page has left the one below `parent` at `position`. -/
def leave (s : Seats) (code parent : String) (position : Int) : Seats :=
  fun c => if c = code then none else (s c).map (closeGap parent position)

/-- The seats once a page went down by one position and another one up by one. -/
def swap (s : Seats) (up down : String) : Seats :=
  fun c =>
    if c = down then (s c).map fun seat => (seat.1, seat.2 + 1)
    else if c = up then (s c).map fun seat => (seat.1, seat.2 - 1)
    else s c

variable {s : Seats} {parent other code : String} {codes : List String} {position : Int}

/-- An exchange of neighbours leaves every page below its parent. -/
theorem exists_swap_iff {up down : String} :
    (∃ position, s.swap up down code = some (parent, position)) ↔
      ∃ position, s code = some (parent, position) := by
  have hmap : ∀ f : Int → Int,
      (∃ position, (s code).map (fun seat => (seat.1, f seat.2)) = some (parent, position)) ↔
        ∃ position, s code = some (parent, position) := by
    intro f
    cases s code with
    | none => simp
    | some seat =>
      obtain ⟨q, k⟩ := seat
      simp
  unfold swap
  split
  · exact hmap fun k => k + 1
  · split
    · exact hmap fun k => k - 1
    · rfl

-- ════════════════════════════════════════════════════════════════════════
-- Seats below another parent
-- ════════════════════════════════════════════════════════════════════════

/-- A page that is placed is new to one parent only. -/
theorem place_eq_some_iff_of_ne {c : String} {k : Int} (hne : other ≠ parent)
    (hcode : s code = none) :
    s.place code parent position c = some (other, k) ↔ s c = some (other, k) := by
  unfold place
  split
  · next hc =>
    rw [hc, hcode]
    simp [Ne.symm hne]
  · rfl

/-- A page that leaves is missed by one parent only. -/
theorem leave_eq_some_iff_of_ne {c : String} {k : Int} (hne : other ≠ parent)
    (hcode : s code = some (parent, position)) :
    s.leave code parent position c = some (other, k) ↔ s c = some (other, k) := by
  unfold leave
  split
  · next hc =>
    rw [hc, hcode]
    simp [Ne.symm hne]
  · constructor
    · intro heq
      obtain ⟨⟨q, j⟩, hseat, hclose⟩ := Option.map_eq_some_iff.1 heq
      unfold closeGap at hclose
      split at hclose
      · next hafter => exact absurd ((Prod.mk.inj hclose).1.symm.trans hafter.1) hne
      · rw [hseat, hclose]
    · intro heq
      rw [heq, Option.map_some, closeGap, if_neg (by simp [hne])]

/-- Children of one parent that exchange their seats are no children of another one. -/
theorem swap_eq_some_iff_of_ne {up down c : String} {i j k : Int} (hne : other ≠ parent)
    (hup : s up = some (parent, i)) (hdown : s down = some (parent, j)) :
    s.swap up down c = some (other, k) ↔ s c = some (other, k) := by
  unfold swap
  split
  · next hc =>
    rw [hc, hdown]
    simp [Ne.symm hne]
  · split
    · next hc =>
      rw [hc, hup]
      simp [Ne.symm hne]
    · rfl

-- ════════════════════════════════════════════════════════════════════════
-- Lists of children
-- ════════════════════════════════════════════════════════════════════════

namespace Lists

/-- A child stands at the index before its position. -/
theorem getElem?_iff (h : s.Lists parent codes) (i : Nat) :
    codes[i]? = some code ↔ s code = some (parent, (i : Int) + 1) := by
  rw [h]
  constructor
  · intro hi
    exact ⟨i, hi, rfl⟩
  · rintro ⟨j, hj, hpos⟩
    obtain rfl : i = j := by omega
    exact hj

/-- A parent has one list of children at most. -/
theorem unique {codes' : List String} (h : s.Lists parent codes)
    (h' : s.Lists parent codes') : codes = codes' := by
  apply List.ext_getElem?
  intro i
  apply Option.ext
  intro code
  rw [h.getElem?_iff, h'.getElem?_iff]

/-- The listed codes are the children. -/
theorem mem_iff (h : s.Lists parent codes) :
    code ∈ codes ↔ ∃ position, s code = some (parent, position) := by
  rw [List.mem_iff_getElem?]
  constructor
  · rintro ⟨i, hi⟩
    exact ⟨_, (h.getElem?_iff i).1 hi⟩
  · rintro ⟨position, hseat⟩
    obtain ⟨i, hi, -⟩ := (h code position).1 hseat
    exact ⟨i, hi⟩

/-- No child is listed twice, since it has one seat. -/
theorem nodup (h : s.Lists parent codes) : codes.Nodup := by
  rw [List.nodup_iff_getElem?_ne_getElem?]
  intro i j hij hj heq
  have hi := (h.getElem?_iff i).1 (heq.trans (List.getElem?_eq_getElem hj))
  have hj := (h.getElem?_iff j).1 (List.getElem?_eq_getElem hj)
  rw [hi] at hj
  simp only [Option.some.injEq, Prod.mk.injEq, true_and] at hj
  omega

/-- Positions run from 1 to the number of children. -/
theorem position_mem (h : s.Lists parent codes) (hseat : s code = some (parent, position)) :
    1 ≤ position ∧ position ≤ codes.length := by
  obtain ⟨i, hi, rfl⟩ := (h code position).1 hseat
  have hlt : i < codes.length := (List.getElem?_eq_some_iff.1 hi).1
  omega

/-- The children in any order are the list as soon as their positions ascend. -/
theorem eq_of_ascending (h : s.Lists parent codes) {l : List String} (hperm : l.Perm codes)
    (hascending : l.Pairwise fun a b => ∀ i j, s a = some (parent, i) → s b = some (parent, j) →
      i ≤ j) : l = codes := by
  refine hperm.eq_of_pairwise (fun a b ha hb hab hba => ?_) hascending ?_
  · obtain ⟨i, hi⟩ := h.mem_iff.1 (hperm.mem_iff.1 ha)
    obtain ⟨j, hj⟩ := h.mem_iff.1 hb
    have hle := hab i j hi hj
    have hge := hba j i hj hi
    -- no two children share a position
    obtain ⟨n, hn, hposition⟩ := (h a i).1 hi
    obtain ⟨m, hm, hposition'⟩ := (h b j).1 hj
    obtain rfl : n = m := by omega
    exact Option.some.inj (hn.symm.trans hm)
  · rw [List.pairwise_iff_getElem]
    intro n m hn hm hlt i j hi hj
    have hseat := (h.getElem?_iff n).1 (List.getElem?_eq_getElem hn)
    have hseat' := (h.getElem?_iff m).1 (List.getElem?_eq_getElem hm)
    rw [hi] at hseat
    rw [hj] at hseat'
    simp only [Option.some.injEq, Prod.mk.injEq, true_and] at hseat hseat'
    omega

/-- The list depends on the children of its parent only. -/
theorem congr {s' : Seats} (h : s.Lists parent codes)
    (hseat : ∀ code position, s' code = some (parent, position) ↔
      s code = some (parent, position)) : s'.Lists parent codes := by
  intro code position
  rw [hseat]
  exact h code position

-- ════════════════════════════════════════════════════════════════════════
-- A page gets a seat
-- ════════════════════════════════════════════════════════════════════════

/-- A page without a seat that is placed behind the children of a parent is appended to
    their list. -/
theorem place_append (h : s.Lists parent codes) (hcode : s code = none) :
    (s.place code parent (codes.length + 1)).Lists parent (codes ++ [code]) := by
  intro c position
  unfold place
  by_cases hc : c = code
  · subst hc
    rw [if_pos rfl]
    have hnot : c ∉ codes := fun hmem => by
      obtain ⟨k, hk⟩ := h.mem_iff.1 hmem
      rw [hcode] at hk
      cases hk
    constructor
    · intro heq
      simp only [Option.some.injEq, Prod.mk.injEq, true_and] at heq
      exact ⟨codes.length, List.getElem?_concat_length, heq.symm⟩
    · rintro ⟨i, hi, rfl⟩
      rw [List.getElem?_append] at hi
      split at hi
      · exact absurd (List.mem_of_getElem? hi) hnot
      · next hlen =>
        have hlt := (List.getElem?_eq_some_iff.1 hi).1
        simp only [List.length_singleton] at hlt
        have : i = codes.length := by omega
        rw [this]
  · rw [if_neg hc, h]
    refine exists_congr fun i => and_congr_left fun _ => ?_
    rw [List.getElem?_append]
    split
    · rfl
    · next hlen =>
      rw [List.getElem?_eq_none (by omega), List.getElem?_singleton]
      split
      · simp [Ne.symm hc]
      · simp

/-- A page that is placed below another parent is no concern of a list. -/
theorem place_of_ne (h : s.Lists other codes) (hne : other ≠ parent) (hcode : s code = none) :
    (s.place code parent position).Lists other codes :=
  h.congr fun _ _ => place_eq_some_iff_of_ne hne hcode

-- ════════════════════════════════════════════════════════════════════════
-- A page leaves its seat
-- ════════════════════════════════════════════════════════════════════════

/-- A child is struck from a list once. -/
theorem filter_eq_erase (h : s.Lists parent codes) :
    codes.filter (fun c => c ≠ code) = codes.erase code := by
  rw [h.nodup.erase_eq_filter]
  refine List.filter_congr fun c _ => ?_
  rw [bne, Bool.beq_eq_decide_eq, decide_not]

/-- Striking a child from a list is leaving out its index. -/
theorem filter_eq_eraseIdx (h : s.Lists parent codes) {k : Nat} (hk : codes[k]? = some code) :
    codes.filter (fun c => c ≠ code) = codes.eraseIdx k := by
  obtain ⟨hlt, rfl⟩ := List.getElem?_eq_some_iff.1 hk
  have hidx : codes.idxOf codes[k] = k := h.nodup.idxOf_getElem k hlt
  rw [h.filter_eq_erase, List.erase_eq_eraseIdx_of_idxOf hidx]

/-- When a child leaves, it is struck from the list of its parent, and the gap is closed. -/
theorem leave_filter (h : s.Lists parent codes) (hcode : s code = some (parent, position)) :
    (s.leave code parent position).Lists parent (codes.filter fun c => c ≠ code) := by
  obtain ⟨k, hk, rfl⟩ := (h code position).1 hcode
  rw [h.filter_eq_eraseIdx hk]
  intro c q
  unfold leave
  by_cases hc : c = code
  · subst hc
    rw [if_pos rfl]
    refine ⟨fun heq => (nomatch heq), ?_⟩
    rintro ⟨i, hi, -⟩
    rw [List.getElem?_eraseIdx] at hi
    split at hi
    · have := (h.getElem?_iff i).1 hi
      rw [hcode] at this
      simp only [Option.some.injEq, Prod.mk.injEq, true_and] at this
      omega
    · have := (h.getElem?_iff (i + 1)).1 hi
      rw [hcode] at this
      simp only [Option.some.injEq, Prod.mk.injEq, true_and] at this
      omega
  · rw [if_neg hc]
    constructor
    · intro heq
      obtain ⟨⟨parent', q'⟩, hseat, hclose⟩ := Option.map_eq_some_iff.1 heq
      unfold closeGap at hclose
      split at hclose
      · next hafter =>
        obtain ⟨rfl, rfl⟩ := Prod.mk.inj hclose
        obtain ⟨j, hj, rfl⟩ := (h c q').1 hseat
        refine ⟨j - 1, ?_, by omega⟩
        rw [List.getElem?_eraseIdx, if_neg (by omega), show j - 1 + 1 = j by omega]
        exact hj
      · next hbefore =>
        obtain ⟨rfl, rfl⟩ := Prod.mk.inj hclose
        obtain ⟨j, hj, rfl⟩ := (h c q').1 hseat
        have hne : j ≠ k := fun heq => hc (by rw [heq, hk] at hj; exact (Option.some.inj hj).symm)
        simp only [true_and] at hbefore
        refine ⟨j, ?_, rfl⟩
        rw [List.getElem?_eraseIdx, if_pos (by omega)]
        exact hj
    · rintro ⟨i, hi, rfl⟩
      rw [List.getElem?_eraseIdx] at hi
      split at hi
      · rw [(h.getElem?_iff i).1 hi, Option.map_some, closeGap, if_neg (by simp; omega)]
      · rw [(h.getElem?_iff (i + 1)).1 hi, Option.map_some, closeGap, if_pos (by simp; omega)]
        simp

/-- A child that leaves is no concern of the list of another parent. -/
theorem leave_of_ne (h : s.Lists other codes) (hne : other ≠ parent)
    (hcode : s code = some (parent, position)) :
    (s.leave code parent position).Lists other codes :=
  h.congr fun _ _ => leave_eq_some_iff_of_ne hne hcode

-- ════════════════════════════════════════════════════════════════════════
-- Neighbours exchange their seats
-- ════════════════════════════════════════════════════════════════════════

variable {up down : String}

/-- Neighbours that exchange their seats exchange their places in the list. -/
theorem swap_set (h : s.Lists parent codes) {k : Nat} (hup : codes[k + 1]? = some up)
    (hdown : codes[k]? = some down) :
    (s.swap up down).Lists parent ((codes.set k up).set (k + 1) down) := by
  obtain ⟨hlt, -⟩ := List.getElem?_eq_some_iff.1 hup
  have hseatUp := (h.getElem?_iff (k + 1)).1 hup
  have hseatDown := (h.getElem?_iff k).1 hdown
  have hne : up ≠ down := by
    rintro rfl
    rw [hseatUp] at hseatDown
    simp only [Option.some.injEq, Prod.mk.injEq, true_and] at hseatDown
    omega
  have hget : ∀ i : Nat, ((codes.set k up).set (k + 1) down)[i]? =
      if i = k + 1 then some down else if i = k then some up else codes[i]? := by
    intro i
    rw [List.getElem?_set, List.length_set, List.getElem?_set]
    by_cases hi : i = k + 1
    · simp [hi, hlt]
    · by_cases hk : i = k
      · simp [hk, Nat.lt_of_succ_lt hlt]
      · simp [hi, hk, Ne.symm hi, Ne.symm hk]
  intro c q
  constructor
  · intro heq
    unfold swap at heq
    split at heq
    · next hc =>
      subst hc
      rw [hseatDown] at heq
      simp only [Option.map_some, Option.some.injEq, Prod.mk.injEq, true_and] at heq
      exact ⟨k + 1, by rw [hget, if_pos rfl], by omega⟩
    · next hcd =>
      split at heq
      · next hc =>
        subst hc
        rw [hseatUp] at heq
        simp only [Option.map_some, Option.some.injEq, Prod.mk.injEq, true_and] at heq
        exact ⟨k, by rw [hget, if_neg (by omega), if_pos rfl], by omega⟩
      · next hcu =>
        obtain ⟨i, hi, rfl⟩ := (h c q).1 heq
        have hne₁ : i ≠ k + 1 := fun hik => hcu (by simpa [hik, hup] using hi.symm)
        have hne₂ : i ≠ k := fun hik => hcd (by simpa [hik, hdown] using hi.symm)
        exact ⟨i, by rw [hget, if_neg hne₁, if_neg hne₂, hi], rfl⟩
  · rintro ⟨i, hi, rfl⟩
    rw [hget] at hi
    unfold swap
    split at hi
    · next hik =>
      cases hi
      rw [if_pos rfl, hseatDown, hik]
      simp
    · next hne₁ =>
      split at hi
      · next hik =>
        cases hi
        rw [if_neg hne, if_pos rfl, hseatUp, hik]
        simp
      · next hne₂ =>
        have hseat := (h.getElem?_iff i).1 hi
        have hcd : c ≠ down := by
          rintro rfl
          rw [hseatDown] at hseat
          simp only [Option.some.injEq, Prod.mk.injEq, true_and] at hseat
          omega
        have hcu : c ≠ up := by
          rintro rfl
          rw [hseatUp] at hseat
          simp only [Option.some.injEq, Prod.mk.injEq, true_and] at hseat
          omega
        rw [if_neg hcd, if_neg hcu, hseat]

/-- An exchange of neighbours is no concern of the list of another parent. -/
theorem swap_of_ne (h : s.Lists other codes) (hne : other ≠ parent) {i j : Int}
    (hup : s up = some (parent, i)) (hdown : s down = some (parent, j)) :
    (s.swap up down).Lists other codes :=
  h.congr fun _ _ => swap_eq_some_iff_of_ne hne hup hdown

end Lists

/-- Placing a page without a seat behind the children of a parent keeps the seats in order. -/
theorem InOrder.place (h : s.InOrder) (hlist : s.Lists parent codes) (hcode : s code = none) :
    (s.place code parent (codes.length + 1)).InOrder := by
  intro q
  by_cases hq : q = parent
  · rw [hq]
    exact ⟨_, hlist.place_append hcode⟩
  · obtain ⟨others, hothers⟩ := h q
    exact ⟨others, hothers.place_of_ne hq hcode⟩

/-- A page that leaves its seat keeps the seats in order. -/
theorem InOrder.leave (h : s.InOrder) (hcode : s code = some (parent, position)) :
    (s.leave code parent position).InOrder := by
  intro q
  obtain ⟨codes, hcodes⟩ := h q
  by_cases hq : q = parent
  · subst hq
    exact ⟨_, hcodes.leave_filter hcode⟩
  · exact ⟨codes, hcodes.leave_of_ne hq hcode⟩

/-- An exchange of neighbours keeps the seats in order. -/
theorem InOrder.swap (h : s.InOrder) {up down : String}
    (hup : s up = some (parent, position + 1)) (hdown : s down = some (parent, position)) :
    (s.swap up down).InOrder := by
  intro q
  obtain ⟨codes, hcodes⟩ := h q
  by_cases hq : q = parent
  · subst hq
    obtain ⟨i, hi, rfl⟩ := (hcodes down position).1 hdown
    exact ⟨_, hcodes.swap_set ((hcodes.getElem?_iff (i + 1)).2 (by simpa using hup)) hi⟩
  · exact ⟨codes, hcodes.swap_of_ne hq hup hdown⟩

end Seats

end Sitemap
