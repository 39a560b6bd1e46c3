import Sitemap.Proofs.Hierarchy.Descent
import Sitemap.Proofs.Hierarchy.Seats

/-!
# Places

What it means that pages form a tree, said of their places alone: the stored rows have
places, and so has the site map in memory.

## Main definitions

- `Places` — the places of pages, by code
- `Places.seat`, `Places.parentOf` — the seat and the parent of a page
- `Places.IsOrdered` — the children of every parent sit at 1 to their number
- `Places.IsTree` — in addition there is one root, and everything lies below it
- `Places.IsLastRoot` — the page that a site map shows as its root

## Main results

- `Places.IsLastRoot.unique` — at most one page is shown as the root
- `Places.seat_eq_some_iff` — when a page has a seat
-/

namespace Sitemap

namespace Placement

variable {parent : String} {position : Int}

@[simp]
theorem code_closeGap (p : Placement) : (p.closeGap parent position).code = p.code := by
  unfold closeGap
  split <;> rfl

@[simp]
theorem parent_closeGap (p : Placement) : (p.closeGap parent position).parent = p.parent := by
  unfold closeGap
  split <;> rfl

/-- Closing a gap moves children of its parent only. -/
theorem closeGap_of_ne {p : Placement} (h : p.parent ≠ some parent) :
    p.closeGap parent position = p :=
  if_neg fun hafter => h hafter.1

end Placement

/-- The places of pages, by code. -/
abbrev Places : Type := String → Option Placement

namespace Places

/-- The parent of a page, if the page exists and has one. -/
def parentOf (s : Places) (code : String) : Option String :=
  (s code).bind Placement.parent

/-- The seats of the pages that have a parent. -/
def seat (s : Places) : Seats :=
  fun code => (s code).bind fun p => p.parent.map fun parent => (parent, p.position)

/-- Every place is filed under the code of its page, and the children of every parent sit at
    1 to their number. -/
structure IsOrdered (s : Places) : Prop where
  /-- A place is filed under the code that it names. -/
  filed : ∀ code p, s code = some p → p.code = code
  /-- The positions of the children of a parent are 1 to their number. -/
  seats : s.seat.InOrder

/-- The pages form a tree with the page `top` as its root. -/
structure IsTree (s : Places) (top : String) : Prop extends IsOrdered s where
  /-- The root has no parent, and it sits at position 1. -/
  root : s top = some ⟨top, none, 1⟩
  /-- No other page is without a parent. -/
  single : ∀ code p, s code = some p → p.parent = none → code = top
  /-- Following parents from a page leads to the root. -/
  reaches : ∀ code, (s code).isSome → LeadsTo s.parentOf top code

/-- The page without parent that comes last by position, then by code. -/
def IsLastRoot (s : Places) (code : String) : Prop :=
  ∃ p, s code = some p ∧ p.parent = none ∧
    ∀ c q, s c = some q → q.parent = none →
      q.position < p.position ∨ q.position = p.position ∧ c ≤ code

variable {s s' : Places} {code parent root : String} {position : Int}

@[simp]
theorem seat_eq_some_iff : s.seat code = some (parent, position) ↔
    ∃ p, s code = some p ∧ p.parent = some parent ∧ p.position = position := by
  simp [seat, Option.bind_eq_some_iff]

@[simp]
theorem parentOf_eq_some_iff :
    s.parentOf code = some parent ↔ ∃ p, s code = some p ∧ p.parent = some parent := by
  simp [parentOf, Option.bind_eq_some_iff]

/-- The pages that have a seat below a parent are its children. -/
theorem exists_seat_iff :
    (∃ position, s.seat code = some (parent, position)) ↔ s.parentOf code = some parent := by
  simp [seat, parentOf, Option.bind_eq_some_iff]

/-- A page without a place has no seat. -/
theorem seat_eq_none (h : s code = none) : s.seat code = none := by
  rw [seat, h]
  rfl

/-- A page without a place has no parent. -/
theorem parentOf_eq_none (h : s code = none) : s.parentOf code = none := by
  rw [parentOf, h]
  rfl

/-- A page that names a parent is a child of it. -/
theorem seat_of_place {p : Placement} (h : s code = some p) (hparent : p.parent = some parent) :
    s.seat code = some (parent, p.position) :=
  seat_eq_some_iff.2 ⟨p, h, hparent, rfl⟩

/-- A page with a seat sits where it says. -/
theorem IsOrdered.place_of_seat (h : s.IsOrdered) (hseat : s.seat code = some (parent, position)) :
    s code = some ⟨code, some parent, position⟩ := by
  obtain ⟨⟨c, q, k⟩, hp, hparent, hposition⟩ := seat_eq_some_iff.1 hseat
  obtain rfl : c = code := h.filed _ _ hp
  cases hparent
  cases hposition
  exact hp

/-- At most one page is shown as the root. -/
theorem IsLastRoot.unique {other : String} (h : s.IsLastRoot code) (h' : s.IsLastRoot other) :
    code = other := by
  obtain ⟨p, hp, hroot, hlast⟩ := h
  obtain ⟨q, hq, hroot', hlast'⟩ := h'
  rcases hlast other q hq hroot' with hlt | ⟨heq, hle⟩
  · rcases hlast' code p hp hroot with hlt' | ⟨heq', -⟩
    · omega
    · omega
  · rcases hlast' code p hp hroot with hlt' | ⟨-, hle'⟩
    · omega
    · exact String.le_antisymm hle' hle

/-- The root that is shown depends on the pages without parent only. -/
theorem IsLastRoot.congr
    (h : ∀ c p, p.parent = none → (s' c = some p ↔ s c = some p)) :
    s'.IsLastRoot code ↔ s.IsLastRoot code := by
  constructor
  · rintro ⟨p, hp, hroot, hlast⟩
    exact ⟨p, (h _ _ hroot).1 hp, hroot, fun c q hq hroot' =>
      hlast c q ((h _ _ hroot').2 hq) hroot'⟩
  · rintro ⟨p, hp, hroot, hlast⟩
    exact ⟨p, (h _ _ hroot).2 hp, hroot, fun c q hq hroot' =>
      hlast c q ((h _ _ hroot').1 hq) hroot'⟩

/-- In a tree the root is the page that is shown as it. -/
theorem IsTree.isLastRoot (h : s.IsTree root) : s.IsLastRoot root := by
  refine ⟨_, h.root, rfl, fun c q hq hroot => .inr ?_⟩
  obtain rfl := h.single c q hq hroot
  obtain rfl := Option.some.inj (hq.symm.trans h.root)
  exact ⟨rfl, String.le_refl c⟩

theorem IsTree.parentOf_root (h : s.IsTree root) : s.parentOf root = none := by
  rw [parentOf, h.root]
  rfl

/-- In a tree every page but the root has a parent. -/
theorem IsTree.exists_parent (h : s.IsTree root) (hstored : (s code).isSome)
    (hne : code ≠ root) : ∃ parent, s.parentOf code = some parent := by
  obtain ⟨parent, hparent, -⟩ := (h.reaches code hstored).exists_parent hne
  exact ⟨parent, hparent⟩

end Places

end Sitemap
