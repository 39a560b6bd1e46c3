import Sitemap.Event
import Sitemap.Site.Config
import Sitemap.Text.LowerCase
import Sitemap.Tree.Basic

/-!
# Sites

A site answers questions about its pages from the site map in memory, and reports what
happens to them.

## Main definitions

- `Site` — settings, registries, the site map and the events reported so far
- `Site.draftPage`, `Site.onlinePage` — one page
- `Site.children`, `Site.ancestors`, `Site.isDescendant` — the neighbourhood of a page
- `Site.status`, `Site.search`, `Site.pagesUsing` — all pages
- `Site.report` — tell of an event
-/

namespace Sitemap

/-- A site map at work. -/
structure Site where
  /-- The settings. -/
  config : SiteConfig
  /-- The page models and widget types in force. -/
  registry : Registry
  /-- The pages as readers see them. -/
  tree : Tree
  /-- The events reported so far, oldest first. -/
  reported : List Event

/-- The number of pages in each state of publication. -/
structure StatusCount where
  /-- Pages without an online version. -/
  unpublished : Nat
  /-- Published pages whose draft has not changed since. -/
  clean : Nat
  /-- Published pages whose draft has changed since. -/
  dirty : Nat
  /-- All pages. -/
  total : Nat
  deriving DecidableEq

namespace Site

/-- Tell of an event, if there is room for events at all. -/
def report (site : Site) (event : Event) : Site :=
  if site.config.logCapacity = 0 then site
  else { site with reported := site.reported ++ [event] }

/-- Let readers see another site map. -/
def withTree (site : Site) (tree : Tree) : Site :=
  { site with tree }

/-- Let readers see other contents in the draft frames of a page, as written at a time. A
    page that is not there is passed over, and a change that is refused is not seen. -/
def editSlots (site : Site) (code : String) (time : Timestamp)
    (change : Slots → Except Error Slots) : Except Error Site :=
  match site.tree.get? code with
  | none => .ok site
  | some page => do
    let slots ← change page.draft.slots
    return site.withTree (site.tree.edit code fun page => page.withSlots time slots)

/-- Let readers see other contents in the draft frames of a page, and tell of the frames. -/
def showSlots (site : Site) (code : String) (time : Timestamp) (frames : List Int)
    (change : Slots → Except Error Slots) : Except Error Unit × Site :=
  match site.editSlots code time change with
  | .ok site => (.ok (), site.report (.widgetsChanged code frames))
  | .error e => (.error e, site)

-- ════════════════════════════════════════════════════════════════════════
-- One page
-- ════════════════════════════════════════════════════════════════════════

/-- A page, for editors. -/
def draftPage (site : Site) (code : String) : Except Error Page :=
  match site.tree.get? code with
  | some page => .ok page
  | none => .error (.notFound code .draft)

/-- A page, for visitors: it must be online. -/
def onlinePage (site : Site) (code : String) : Except Error Page :=
  match (site.tree.get? code).filter Page.isOnline with
  | some page => .ok page
  | none => .error (.notFound code .online)

/-- The root page, for editors. -/
def draftRoot (site : Site) : Except Error Page :=
  match site.tree.root? with
  | some page => .ok page
  | none => .error (.misuse .noRoot)

/-- The root page, for visitors: it must be online. -/
def onlineRoot (site : Site) : Except Error Page := do
  let root ← site.draftRoot
  if root.isOnline then return root else throw (.notFound root.code .online)

-- ════════════════════════════════════════════════════════════════════════
-- Neighbourhood
-- ════════════════════════════════════════════════════════════════════════

/-- The children of a page that have an edition, in order. The page itself must have the
    edition, too. -/
def children (site : Site) (code : String) (edition : Edition) : Except Error (List Page) := do
  let parent ← site.draftPage code
  match parent.version edition with
  | some _ => return site.tree.childPages code edition
  | none => throw (.notFound code edition)

/-- The codes from the root page down to the parent of a page. -/
def ancestors (site : Site) (code : String) : Except Error (List String) :=
  if site.tree.contains code then .ok (site.tree.siblings.ancestors code).reverse
  else .error (.notFound code .draft)

/-- Whether a page sits anywhere below another one. -/
def isDescendant (site : Site) (code ancestor : String) : Bool :=
  site.tree.siblings.isDescendant code ancestor

-- ════════════════════════════════════════════════════════════════════════
-- All pages
-- ════════════════════════════════════════════════════════════════════════

/-- The pages by code. -/
def pages (site : Site) : List Page :=
  site.tree.pages.values

/-- The number of pages in a state of publication. -/
def countIn (site : Site) (state : PublishState) : Nat :=
  site.pages.countP fun page => page.publishState = state

/-- The number of pages in each state of publication. -/
def status (site : Site) : StatusCount where
  unpublished := site.countIn .unpublished
  clean := site.countIn .clean
  dirty := site.countIn .dirty
  total := site.tree.size

/-- The codes that contain a text in lower or upper case, in ascending order. -/
def search (site : Site) (token : String) : List String :=
  (site.pages.filter fun page => containsIgnoringCase page.code token).map fun page => page.code

/-- The codes of the pages that place a widget of a type in an edition, in ascending
    order. -/
def pagesUsing (site : Site) (typeCode : String) (edition : Edition) : List String :=
  (site.pages.filter fun page =>
    (page.version edition).any fun v => v.slots.containsType typeCode).map fun page => page.code

end Site

end Sitemap
