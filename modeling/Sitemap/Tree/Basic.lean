import Sitemap.Keyed.Lemmas
import Sitemap.Page.Basic
import Sitemap.Siblings

/-!
# The site map in memory

The pages by code, with the children of every page listed in order. Readers work on
this form; it is brought up to date after every commit by the same change that the rows
went through.

## Main definitions

- `Tree` — the pages, the lists of children and the root page
- `Tree.ofPages` — the site map of some pages
- `Tree.insert`, `Tree.replace`, `Tree.remove`, `Tree.edit` — change one page
- `Tree.applySwap`, `Tree.applyReparent` — carry out a plan
- `Arithmetic.applySwap` — carry out an exchange with positions worked out in 32 bits
- `Tree.siblings` — the places of the pages

## Design notes

Children are listed by position, then by code. A list is put in order when a page joins
it or changes its position in it; leaving a list and closing a gap keep the order.
A listed child that is not among the pages comes last.
-/

namespace Sitemap

/-- The pages of a site map, with the children of every page in order. -/
structure Tree where
  /-- The pages by code. -/
  pages : Keyed String Page
  /-- The codes of the children of a page, in order. -/
  childLists : Keyed String (List String)
  /-- The code of the root page. -/
  rootCode : Option String

namespace Tree

/-- The site map without pages. -/
def empty : Tree := ⟨∅, ∅, none⟩

instance : Inhabited Tree := ⟨empty⟩

-- ════════════════════════════════════════════════════════════════════════
-- Reading
-- ════════════════════════════════════════════════════════════════════════

/-- The page of a code. -/
def get? (t : Tree) (code : String) : Option Page :=
  t.pages.get? code

/-- Whether there is a page of the code. -/
def contains (t : Tree) (code : String) : Bool :=
  t.pages.contains code

/-- The number of pages. -/
def size (t : Tree) : Nat :=
  t.pages.size

/-- The root page. -/
def root? (t : Tree) : Option Page :=
  t.rootCode.bind t.get?

/-- The codes of the children of a page, in order. -/
def children (t : Tree) (code : String) : List String :=
  (t.childLists.get? code).getD []

/-- The children of a page that have an edition, in order. -/
def childPages (t : Tree) (code : String) (edition : Edition) : List Page :=
  ((t.children code).filterMap t.get?).filter fun p => (p.version edition).isSome

/-- The child of a page at a position. -/
def childAt (t : Tree) (parent : String) (position : Int) : Option String :=
  (t.children parent).find? fun code => (t.get? code).any fun p => p.position = position

/-- The places of the pages. -/
def siblings (t : Tree) : Siblings where
  lookup code := (t.get? code).map Page.toPlacement
  childPositions parent := (t.children parent).map fun code => (t.get? code).map (·.position)
  childAt := t.childAt
  count := t.size

-- ════════════════════════════════════════════════════════════════════════
-- Order of children
-- ════════════════════════════════════════════════════════════════════════

/-- The position that stands for a listed child that is not among the pages. -/
def lastPosition : Int := 2147483647

/-- The position that a listed child is put in order by. -/
def rank (t : Tree) (code : String) : Int :=
  ((t.get? code).map (·.position)).getD lastPosition

/-- The order of listed children: by position, then by code. -/
def listedBefore (t : Tree) (a b : String) : Bool :=
  ((compare (t.rank a) (t.rank b)).then (compare a b)).isLE

/-- Put codes in the order of children. -/
def sortCodes (t : Tree) (codes : List String) : List String :=
  codes.mergeSort t.listedBefore

/-- Put the children of a page in order. -/
def sortChildren (t : Tree) (parent : String) : Tree :=
  { t with childLists := t.childLists.modify parent t.sortCodes }

/-- Put the children of every page in order. -/
def sortAll (t : Tree) : Tree :=
  { t with childLists := t.childLists.map fun _ codes => t.sortCodes codes }

-- ════════════════════════════════════════════════════════════════════════
-- Building
-- ════════════════════════════════════════════════════════════════════════

/-- List a code at the end of the children of a page. -/
def listChild (t : Tree) (parent code : String) : Tree :=
  { t with childLists := t.childLists.insert parent (t.children parent ++ [code]) }

/-- Strike a code from the children of a page. -/
def unlistChild (t : Tree) (parent code : String) : Tree :=
  { t with
    childLists := t.childLists.modify parent fun codes => codes.filter fun c => c ≠ code }

/-- Add a page, listed at the end of the children of its parent. A page without parent
    becomes the root. -/
def append (t : Tree) (p : Page) : Tree :=
  let t := { t with pages := t.pages.insert p.code p }
  match p.parent with
  | some parent => t.listChild parent p.code
  | none => { t with rootCode := some p.code }

/-- The site map of some pages. -/
def ofPages (pages : List Page) : Tree :=
  (pages.foldl append empty).sortAll

-- ════════════════════════════════════════════════════════════════════════
-- Changing
-- ════════════════════════════════════════════════════════════════════════

/-- Add a page at the position it carries. -/
def insert (t : Tree) (p : Page) : Tree :=
  match p.parent with
  | some parent => (t.append p).sortChildren parent
  | none => t.append p

/-- Change a page in place; lists of children stay as they are. -/
def edit (t : Tree) (code : String) (f : Page → Page) : Tree :=
  { t with pages := t.pages.modify code f }

/-- Replace a page of the same code. Its place is kept; an unknown page is not added. -/
def replace (t : Tree) (p : Page) : Tree :=
  t.edit p.code fun current => { p with toPlacement := current.toPlacement }

/-- Close the gap that the child of `parent` at `position` leaves. -/
def closeGap (t : Tree) (parent : String) (position : Int) : Tree :=
  { t with
    pages := t.pages.map fun _ p =>
      { p with toPlacement := p.toPlacement.closeGap parent position } }

/-- Remove a page and close the gap that it leaves among its siblings. -/
def remove (t : Tree) (code : String) : Tree :=
  match t.get? code with
  | none => t
  | some p =>
    let t := { t with pages := t.pages.erase code, childLists := t.childLists.erase code }
    match p.parent with
    | some parent => (t.unlistChild parent code).closeGap parent p.position
    | none => { t with rootCode := none }

/-- Carry out a move below another parent. -/
def applyReparent (t : Tree) (plan : ReparentPlan) : Tree :=
  let t := t.edit plan.code fun p =>
    { p with parent := some plan.newParent, position := plan.newPosition }
  let t := (t.unlistChild plan.oldParent plan.code).listChild plan.newParent plan.code
  (t.closeGap plan.oldParent plan.oldPosition).sortChildren plan.newParent

/-- Carry out an exchange of neighbours. -/
def applySwap (t : Tree) (plan : SwapPlan) : Tree :=
  let moved := (t.edit plan.up fun p => { p with position := p.position - 1 }).edit plan.down
    fun p => { p with position := p.position + 1 }
  match (t.get? plan.up).bind (·.parent) with
  | some parent => moved.sortChildren parent
  | none => moved

end Tree

namespace Arithmetic

/-- Add to the position of a page, if there is one, unless the program stops. -/
def offsetPosition (a : Arithmetic) (t : Tree) (code : String) (delta : Int) : Option Tree :=
  match t.get? code with
  | none => some t
  | some p =>
    (a.int32 (p.position + delta)).map fun position => t.edit code fun p => { p with position }

/-- Carry out an exchange of neighbours, unless the program stops. -/
def applySwap (a : Arithmetic) (t : Tree) (plan : SwapPlan) : Option Tree := do
  let moved ← a.offsetPosition (← a.offsetPosition t plan.up (-1)) plan.down 1
  match (t.get? plan.up).bind (·.parent) with
  | some parent => return moved.sortChildren parent
  | none => return moved

end Arithmetic

end Sitemap
