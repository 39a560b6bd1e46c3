import Sitemap.Number.Int32

/-!
# Placements

Where a page sits: below which parent, and at which position among the children of
that parent. Positions count from 1. Stored rows and pages of the site map both carry
a placement, so every rule about positions is stated once.

## Main definitions

- `Placement` — a page code, its parent and its position
- `Placement.closeGap` — the placement after a sibling has left
- `nextPosition` — the position of a page appended to some children
- `Arithmetic.nextPosition` — that position as it is worked out in 32 bits
- `isContiguous` — whether positions are exactly 1 to their number

## Design notes

Rules about positions are stated for integers. Closing a gap never leaves the 32 bits that positions
are held in, but there need not be a position behind all others: `nextPosition` is an exact sum,
and `Arithmetic.nextPosition` is what becomes of it in 32 bits.
-/

namespace Sitemap

/-- Where a page sits. -/
structure Placement where
  /-- The code of the page. -/
  code : String
  /-- The code of its parent; a root page has none. -/
  parent : Option String
  /-- The position among the children of the parent, counted from 1. -/
  position : Int
  deriving DecidableEq

namespace Placement

/-- The page is a child of `parent` placed after `position`. -/
def IsAfter (p : Placement) (parent : String) (position : Int) : Prop :=
  p.parent = some parent ∧ position < p.position

instance (p : Placement) (parent : String) (position : Int) :
    Decidable (p.IsAfter parent position) :=
  inferInstanceAs (Decidable (_ ∧ _))

/-- The placement once the child of `parent` at `position` has left: its later siblings
    move up by one, every other page stays. -/
def closeGap (parent : String) (position : Int) (p : Placement) : Placement :=
  if p.IsAfter parent position then { p with position := p.position - 1 } else p

end Placement

/-- Close the gap that the child of `parent` at `position` leaves. -/
def closeGaps (parent : String) (position : Int) (places : List Placement) : List Placement :=
  places.map (Placement.closeGap parent position)

/-- The number of pages that closing a gap moves. -/
def countAfter (parent : String) (position : Int) (places : List Placement) : Nat :=
  places.countP fun p => p.IsAfter parent position

/-- The position of a page appended to children at the given positions. A child that
    cannot be found has no position, and then the number of children decides. -/
def nextPosition (children : List (Option Int)) : Int :=
  if children.contains none then children.length + 1
  else children.reduceOption.foldl max 0 + 1

/-- The position of a page appended to children, as a program works it out unless it stops. It
    counts the children first, and their number has to fit in 32 bits like the position. -/
def Arithmetic.nextPosition (a : Arithmetic) (children : List (Option Int)) : Option Int := do
  let count ← a.int32 children.length
  if count = 0 then some 1
  else if children.contains none then a.int32 (count + 1)
  else a.int32 (children.reduceOption.foldl max 0 + 1)

/-- Whether positions are exactly 1 to their number, in any order. -/
def isContiguous (positions : List Int) : Bool :=
  positions.mergeSort (· ≤ ·) = (List.range positions.length).map fun (i : Nat) => (i : Int) + 1

end Sitemap
