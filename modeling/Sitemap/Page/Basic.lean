import Sitemap.Page.Placement
import Sitemap.Page.Version

/-!
# Pages

A page has a place in the site map, an owning group, a draft version, and an online
version while it is published.

## Main definitions

- `Page` — a page with its editions
- `PublishState` — how the editions of a page relate
- `Page.publishState` — unpublished, or published with a draft that is the same or not
- `Page.published`, `Page.unpublished`, `Page.withSlots` — a page after a change
-/

namespace Sitemap

/-- A page of the site map. -/
structure Page extends Placement where
  /-- The group that owns the page. -/
  group : String
  /-- What editors work on. -/
  draft : PageVersion
  /-- What visitors see, while the page is published. -/
  online : Option PageVersion
  deriving DecidableEq

/-- How the editions of a page relate. -/
inductive PublishState where
  /-- There is no online version. -/
  | unpublished
  /-- The online version shows the same as the draft. -/
  | clean
  /-- The draft has changed since it went online. -/
  | dirty
  deriving DecidableEq

namespace Page

/-- A page without parent has no place below another one. -/
def isRoot (p : Page) : Bool :=
  p.parent.isNone

/-- Whether the page is published. -/
def isOnline (p : Page) : Bool :=
  p.online.isSome

/-- The version of an edition, if the page has it. -/
def version (p : Page) : Edition → Option PageVersion
  | .draft => some p.draft
  | .online => p.online

/-- How the editions of the page relate. -/
def publishState (p : Page) : PublishState :=
  match p.online with
  | none => .unpublished
  | some online => if online.SameContent p.draft then .clean else .dirty

/-- The page once its draft has gone online at a time. -/
def published (p : Page) (time : Timestamp) : Page :=
  { p with draft := p.draft.stamped time, online := some (p.draft.stamped time) }

/-- The page once it has gone offline. -/
def unpublished (p : Page) : Page :=
  { p with online := none }

/-- The page once its draft got other slots at a time. -/
def withSlots (p : Page) (time : Timestamp) (slots : Slots) : Page :=
  { p with draft := { p.draft with slots, updatedAt := some time } }

end Page

end Sitemap
