import Sitemap.Error
import Sitemap.Page.Placement

/-!
# Siblings

Plans for moving pages, made against anything that can tell where pages are. Stored
rows and the site map in memory both can, so they run the same rules.

## Main definitions

- `Siblings` — a view of pages and their places
- `Siblings.ancestors` — the parent of a page, its parent, and so on
- `Siblings.planSwap` — a page changes places with a neighbour
- `Siblings.planReparent` — a page moves below another parent
- `Arithmetic.planSwap`, `Arithmetic.planReparent` — the same plans, with positions worked out in
  32 bits

## Design notes

Nothing is assumed of a view: parents may be missing and may run in a circle. The walk
to the ancestors therefore stops at a code it has met before, and it lists a missing
parent as the last ancestor.

The plans of a view are made with exact sums. A program that works in 32 bits makes the same
plans as long as these sums fit. They do where positions count from 1 on without gaps, as those of
stored rows do (`Tables.plans_are_exact`). With siblings at the ends of the 32-bit integers a
program may stop, or plan something else.
-/

namespace Sitemap

/-- A view of pages and their places. -/
structure Siblings where
  /-- The place of a page. -/
  lookup : String → Option Placement
  /-- The positions of the children of a page; one that cannot be found has none. -/
  childPositions : String → List (Option Int)
  /-- The child of a page at a position. -/
  childAt : String → Int → Option String
  /-- The number of pages. -/
  count : Nat

/-- A page changes places with a neighbour. -/
structure SwapPlan where
  /-- The page whose position goes down by one. -/
  up : String
  /-- The page whose position goes up by one. -/
  down : String
  deriving DecidableEq

/-- A page moves to the end of the children of another parent. -/
structure ReparentPlan where
  /-- The page that moves. -/
  code : String
  /-- The parent it leaves. -/
  oldParent : String
  /-- The position it leaves. -/
  oldPosition : Int
  /-- The parent it goes to. -/
  newParent : String
  /-- The position it goes to. -/
  newPosition : Int
  deriving DecidableEq

namespace Siblings

/-- The parent of a page, if the page exists and has one. -/
def parentOf (s : Siblings) (code : String) : Option String :=
  (s.lookup code).bind Placement.parent

/-- The codes from `next` upwards that are not among `seen`, at most `steps` of them. -/
def climb (s : Siblings) : Nat → List String → Option String → List String
  | 0, _, _ => []
  | _ + 1, _, none => []
  | steps + 1, seen, some code =>
    if seen.contains code then []
    else code :: climb s steps (code :: seen) (s.parentOf code)

/-- The ancestors of a page, nearest first. -/
def ancestors (s : Siblings) (code : String) : List String :=
  s.climb (s.count + 1) [] (s.parentOf code)

/-- Whether a page sits anywhere below another one. -/
def isDescendant (s : Siblings) (code ancestor : String) : Bool :=
  (s.ancestors code).contains ancestor

/-- The position of a page appended to the children of `parent`. -/
def nextPosition (s : Siblings) (parent : String) : Int :=
  Sitemap.nextPosition (s.childPositions parent)

/-- Whether the children of `parent` that can be found sit at 1 to their number. -/
def isContiguous (s : Siblings) (parent : String) : Bool :=
  Sitemap.isContiguous (s.childPositions parent).reduceOption

/-- Plan to exchange a page with its neighbour before it (`up`) or after it. There is
    nothing to plan for a root page and at the ends of a list of children. -/
def planSwap (s : Siblings) (code : String) (up : Bool) : Except Error (Option SwapPlan) :=
  match s.lookup code with
  | none => .error (.notFound code .draft)
  | some place =>
    match place.parent with
    | none => .ok none
    | some parent =>
      let target := if up then place.position - 1 else place.position + 1
      if target < 1 then .ok none
      else
        .ok <| (s.childAt parent target).map fun neighbour =>
          if up then ⟨code, neighbour⟩ else ⟨neighbour, code⟩

/-- Plan to move a page to the end of the children of `newParent`. There is nothing to
    plan when it is the parent already. -/
def planReparent (s : Siblings) (code newParent : String) : Except Error (Option ReparentPlan) :=
  match s.lookup code with
  | none => .error (.notFound code .draft)
  | some place =>
    if (s.lookup newParent).isNone then .error (.notFound newParent .draft)
    else
      match place.parent with
      | none => .error (.misuse .moveRoot)
      | some oldParent =>
        if newParent = code ∨ s.isDescendant newParent code then
          .error (.cyclicMove code newParent)
        else if oldParent = newParent then .ok none
        else
          .ok <| some
            { code
              oldParent
              oldPosition := place.position
              newParent
              newPosition := s.nextPosition newParent }

end Siblings

namespace Arithmetic

/-- The plan to exchange a page with a neighbour that a program makes, unless it stops. -/
def planSwap (a : Arithmetic) (s : Siblings) (code : String) (up : Bool) :
    Option (Except Error (Option SwapPlan)) :=
  match s.lookup code with
  | none => some (.error (.notFound code .draft))
  | some ⟨_, none, _⟩ => some (.ok none)
  | some ⟨_, some parent, position⟩ =>
    (a.int32 (position + if up then -1 else 1)).map fun target =>
      if target < 1 then .ok none
      else
        .ok <| (s.childAt parent target).map fun neighbour =>
          if up then ⟨code, neighbour⟩ else ⟨neighbour, code⟩

/-- The plan to move a page to the end of the children of `newParent` that a program makes, unless
    it stops. -/
def planReparent (a : Arithmetic) (s : Siblings) (code newParent : String) :
    Option (Except Error (Option ReparentPlan)) :=
  match s.planReparent code newParent with
  | .ok (some plan) =>
    (a.nextPosition (s.childPositions newParent)).map fun newPosition =>
      .ok (some { plan with newPosition })
  | planned => some planned

end Arithmetic

end Sitemap
