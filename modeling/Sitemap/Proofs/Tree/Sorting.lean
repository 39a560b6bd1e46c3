import Sitemap.Proofs.Hierarchy.Plans
import Sitemap.Proofs.Tree.Following

/-!
# Site maps in order

A site map lists the children of every page by position and then by code. It does so even where
siblings share a position, and where a parent is no page. Plans can then be made against it as
well as against any other view of the same places.

## Main definitions

- `Tree.IsSorted` — all children are listed in order

## Main results

- `Tree.IsSorted.isExact_siblings` — a site map in order is an exact view
-/

namespace Sitemap

namespace Tree

/-- All children are listed, by position and then by code. -/
def IsSorted (t : Tree) : Prop :=
  ∀ parent, t.places.seat.Sorts parent (t.children parent)

variable {t : Tree} {code parent : String} {position : Int}

/-- A page with a seat holds the position that the seat says. -/
theorem position_of_seat (h : t.places.seat code = some (parent, position)) :
    (t.get? code).map (fun p => p.position) = some position := by
  obtain ⟨place, hplace, -, rfl⟩ := Places.seat_eq_some_iff.1 h
  obtain ⟨p, hp, rfl⟩ := places_eq_some_iff.1 hplace
  rw [hp]
  rfl

/-- A listed child is taken for the one at a position when that is where it sits. -/
theorem IsSorted.isAt_iff (h : t.IsSorted) (hchild : code ∈ t.children parent) :
    ((t.get? code).any fun p => p.position = position) = true ↔
      t.places.seat code = some (parent, position) := by
  obtain ⟨k, hk⟩ := ((h parent).mem_iff code).1 hchild
  have hany : ((t.get? code).any fun p => p.position = position) =
      ((t.get? code).map fun p => p.position).any fun j => j = position := by
    rw [Option.any_map]
  rw [hany, position_of_seat hk, hk]
  simp

/-- A site map in order is an exact view: a child is looked for in the order of codes among those
    at one position. -/
theorem IsSorted.isExact_siblings (h : t.IsSorted) : t.siblings.IsExact where
  counted := t.isCounted_siblings
  next_le_iff parent bound := by
    have hpositions : t.siblings.childPositions parent =
        ((t.children parent).map t.rank).map some := by
      rw [List.map_map]
      refine List.map_congr_left fun c hc => ?_
      obtain ⟨k, hk⟩ := ((h parent).mem_iff c).1 hc
      rw [position_of_seat hk, Function.comp_apply, rank_of_seat hk]
    unfold Siblings.nextPosition
    rw [hpositions, nextPosition_map_some_le_iff, List.forall_mem_map]
    refine and_congr_right fun _ => ⟨fun hrank c k hk => ?_, fun hseat c hc => ?_⟩
    · rw [← rank_of_seat hk]
      exact hrank c (((h parent).mem_iff c).2 ⟨k, hk⟩)
    · obtain ⟨k, hk⟩ := ((h parent).mem_iff c).1 hc
      rw [rank_of_seat hk]
      exact hseat c k hk
  childAt_eq_some_iff parent position code := by
    have hsorted : (t.children parent).Pairwise fun a b =>
        ((t.get? a).any fun p => p.position = position) = true →
          ((t.get? b).any fun p => p.position = position) = true → id a ≤ id b := by
      refine (h parent).ascending.imp_of_mem fun {a b} ha hb hab hat hat' => ?_
      rcases hab _ _ ((h.isAt_iff ha).1 hat) ((h.isAt_iff hb).1 hat') with hlt | ⟨-, hlt⟩
      · exact absurd hlt (Int.lt_irrefl position)
      · exact Std.le_of_lt hlt
    have hmem : ∀ {c}, t.places.seat c = some (parent, position) → c ∈ t.children parent :=
      fun hc => ((h parent).mem_iff _).2 ⟨position, hc⟩
    have hleast := find?_eq_some_iff_least (c := code) hsorted
    rw [Option.map_id, id] at hleast
    refine hleast.trans (and_congr ⟨?_, fun hseat => ?_⟩ ⟨fun hall c hc => ?_, ?_⟩)
    · rintro ⟨c, hc, hat, rfl⟩
      exact (h.isAt_iff hc).1 hat
    · exact ⟨code, hmem hseat, (h.isAt_iff (hmem hseat)).2 hseat, rfl⟩
    · exact hall c (hmem hc) ((h.isAt_iff (hmem hc)).2 hc)
    · exact fun hall c hc hat => hall c ((h.isAt_iff hc).1 hat)

end Tree

end Sitemap
