import Sitemap.Rows.Loading

/-!
# Edits of the rows

An edit of the stored site map changes several rows together. Positions are computed
from the rows at hand. An edit that is refused half-way has no result, so its caller is
left with the tables it started from.

## Main definitions

- `RowEdit.addPage`, `RowEdit.deletePage`, `RowEdit.movePage`, `RowEdit.swapPositions` —
  edits of the hierarchy
- `RowEdit.updatePage`, `RowEdit.updatePageGroup` — edits of one page
- `RowEdit.setPageOnline`, `RowEdit.setPageOffline` — publication
- `RowEdit.joinWidget`, `RowEdit.removeWidget`, `RowEdit.moveWidget` — edits of draft frames

## Design notes

Edits check what the rows themselves need, and nothing else: codes must be unique, and a
deleted page must have no children. Whether an edit makes sense for the site map is for
the caller to judge.
-/

namespace Sitemap

namespace RowEdit

/-- Let the outcome of a statement decide the outcome of an edit. -/
def require {α : Type} : Except StoreError α → Except Error α
  | .ok a => .ok a
  | .error e => .error (.store e)

-- ════════════════════════════════════════════════════════════════════════
-- Pages
-- ════════════════════════════════════════════════════════════════════════

/-- Store a page at the end of the children of its parent. Returns it with its position
    and the time of the write in both editions. -/
def addPage (r : Registry) (time : Timestamp) (page : Page) (t : Tables) :
    Except Error (Page × Tables) := do
  let position :=
    match page.parent with
    | some parent => t.siblings.nextPosition parent
    | none => 1
  let place : Placement := { page.toPlacement with position }
  let draft := page.draft.stamped time
  let online := page.online.map fun v => v.stamped time
  let t ← require (t.insertPage { toPlacement := place, group := page.group })
  let t ← require (t.insertVersion r .draft page.code draft)
  let t ←
    match online with
    | some v => require (t.insertVersion r .online page.code v)
    | none => pure t
  return ({ page with toPlacement := place, draft, online }, t)

/-- Drop both editions of a page. -/
def dropEditions (code : String) (t : Tables) : Tables :=
  Edition.all.foldl (fun t edition => (t.deleteWidgets edition code).deleteMetadata edition code) t

/-- Drop a page without children, and close the gap among its siblings. -/
def deletePage (code : String) (t : Tables) : Except Error (Unit × Tables) := do
  if t.hasChildren code then
    throw (.store (.violation (.remainingChildren code)))
  let (row, t) ← require ((dropEditions code t).deletePage code)
  match row.parent with
  | some parent => return ((), t.shiftPages parent row.position)
  | none => return ((), t)

/-- Rewrite the draft of a page, its parent and its group. Returns the draft as stored. -/
def updatePage (r : Registry) (time : Timestamp) (page : Page) (t : Tables) :
    Except Error (PageVersion × Tables) := do
  let draft := page.draft.stamped time
  let t := (t.deleteWidgets .draft page.code).deleteMetadata .draft page.code
  let t ← require (t.insertVersion r .draft page.code draft)
  let t ← require (t.updatePage page.code page.parent page.group)
  return (draft, t)

/-- Set the group of a page. -/
def updatePageGroup (code group : String) (t : Tables) : Except Error (Unit × Tables) := do
  let parent := (t.pages.get? code).bind (·.parent)
  return ((), ← require (t.updatePage code parent group))

/-- Copy the draft of a page to its online edition, replacing what was online. Both
    editions are stamped with the same time. -/
def setPageOnline (time : Timestamp) (code : String) (t : Tables) :
    Except Error (Timestamp × Tables) := do
  let t := (t.deleteWidgets .online code).deleteMetadata .online code
  let (copied, t) := t.copyDraftToOnline code
  require copied
  let t ← require (t.stampMetadata .draft code time)
  let t ← require (t.stampMetadata .online code time)
  return (time, t)

/-- Drop the online edition of a page; the draft stays. -/
def setPageOffline (code : String) (t : Tables) : Except Error (Unit × Tables) :=
  if t.pages.contains code then
    .ok ((), (t.deleteWidgets .online code).deleteMetadata .online code)
  else .error (.notFound code .draft)

/-- Move a page to the end of the children of another parent, and close the gap among
    its old siblings. Returns how the page moved, if it moved. -/
def movePage (code newParent : String) (t : Tables) :
    Except Error (Option ReparentPlan × Tables) := do
  match ← t.siblings.planReparent code newParent with
  | none => return (none, t)
  | some plan =>
    let t ← require (t.updateTreePosition plan.code plan.newParent plan.newPosition)
    return (some plan, t.shiftPages plan.oldParent plan.oldPosition)

/-- Exchange a page with its neighbour before it (`up`) or after it. Returns how it was
    exchanged, if it was. -/
def swapPositions (code : String) (up : Bool) (t : Tables) :
    Except Error (Option SwapPlan × Tables) := do
  match ← t.siblings.planSwap code up with
  | none => return (none, t)
  | some plan =>
    let t ← require (t.offsetPosition plan.up (-1))
    let t ← require (t.offsetPosition plan.down 1)
    return (some plan, t)

-- ════════════════════════════════════════════════════════════════════════
-- Widgets
-- ════════════════════════════════════════════════════════════════════════

/-- Place a widget in a draft frame, replacing any occupant. -/
def joinWidget (r : Registry) (time : Timestamp) (code : String) (frame : Int) (w : Widget)
    (t : Tables) : Except Error (Timestamp × Tables) := do
  let t := t.deleteWidget .draft code frame
  let t ← require (t.insertWidget .draft code frame (Tables.storedWidget r w))
  let t ← require (t.stampMetadata .draft code time)
  return (time, t)

/-- Empty a draft frame. -/
def removeWidget (time : Timestamp) (code : String) (frame : Int) (t : Tables) :
    Except Error (Timestamp × Tables) := do
  let t := t.deleteWidget .draft code frame
  let t ← require (t.stampMetadata .draft code time)
  return (time, t)

/-- Exchange the stored widgets of two draft frames. The first is parked meanwhile, so
    that no frame ever holds two widgets. -/
def exchangeFrames (parkingFrame : Int) (code : String) (source target : Int) (t : Tables) :
    Except StoreError Tables := do
  let (_, t) ← t.updateWidgetFrame .draft code source parkingFrame
  let (_, t) ← t.updateWidgetFrame .draft code target source
  let (_, t) ← t.updateWidgetFrame .draft code parkingFrame target
  return t

/-- Exchange two draft frames. -/
def moveWidget (parkingFrame : Int) (time : Timestamp) (code : String) (source target : Int)
    (t : Tables) : Except Error (Timestamp × Tables) := do
  let t ← require (exchangeFrames parkingFrame code source target t)
  let t ← require (t.stampMetadata .draft code time)
  return (time, t)

end RowEdit

end Sitemap
