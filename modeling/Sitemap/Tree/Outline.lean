import Sitemap.Event
import Sitemap.Tree.Basic

/-!
# Outlines

What can be told of a site map without the contents of its pages: the root page, the lists of
children, and which pages are online. Whoever has an outline can keep it up to date by the
events alone.

## Main definitions

- `Outline` — the root page, the lists of children and the pages online
- `Tree.outline` — the outline of a site map
- `Outline.tell`, `Outline.replay` — an outline after one event, after some

## Design notes

A page that moves is first struck from the list that it is on, which closes the gap, and then
put at its new position, so the position in an event is the one that the page has afterwards.
-/

namespace Sitemap

/-- A site map without the contents of its pages. -/
structure Outline where
  /-- The root page. -/
  root : Option String
  /-- The children of every page, in order. -/
  children : String → List String
  /-- Whether a page is online. -/
  online : String → Bool

/-- The outline of a site map. -/
def Tree.outline (t : Tree) : Outline where
  root := t.rootCode
  children := t.children
  online code := (t.get? code).any Page.isOnline

namespace Outline

/-- Put a page at the end of the children of a parent. -/
def append (o : Outline) (code parent : String) : Outline :=
  { o with
    children := fun q => if q = parent then o.children q ++ [code] else o.children q }

/-- Strike a page from the list that it is on. -/
def strike (o : Outline) (code : String) : Outline :=
  { o with children := fun q => (o.children q).filter fun c => c ≠ code }

/-- Put a page at a position among the children of a parent, counted from 1. -/
def seat (o : Outline) (code parent : String) (position : Int) : Outline :=
  { o with
    children := fun q =>
      if q = parent then (o.children q).insertIdx (position - 1).toNat code else o.children q }

/-- An outline after an event. -/
def tell (o : Outline) : Event → Outline
  | .added code parent => o.append code parent
  | .deleted code => o.strike code
  | .moved code parent position => (o.strike code).seat code parent position
  | .published code => { o with online := fun c => c = code || o.online c }
  | .unpublished code => { o with online := fun c => c ≠ code && o.online c }
  | .updated _ | .widgetsChanged _ _ => o

/-- An outline after some events. -/
def replay (o : Outline) (events : List Event) : Outline :=
  events.foldl tell o

end Outline

end Sitemap
