import Sitemap.Keyed.Lemmas
import Sitemap.Page.Basic
import Sitemap.Siblings

/-!
# Row tables

The stored form of a site map: a table of pages, and for each edition a table of
metadata and a table of placed widgets. Each statement changes one table and keeps its
keys unique; references between the tables are checked once, when a transaction commits.

## Main definitions

- `Tables` — the five tables
- `Tables.insertPage`, `Tables.deletePage`, … — the statements
- `Tables.siblings` — the places of the stored pages
- `Tables.pagesOrdered` — the stored pages by parent, position and code

## Design notes

A refused statement leaves the tables as they were, with one exception:
`copyDraftToOnline` inserts several rows and stops at the first that is refused, so it
reports its failure together with the tables it got to.

Widgets of a page are filed together. Deleting the last widget of a page by its frame
drops the page from the widget table.
-/

namespace Sitemap

/-- The stored place of a page, with its owning group. -/
structure PageRow extends Placement where
  /-- The group that owns the page. -/
  group : String
  deriving DecidableEq

/-- The order in which stored pages are listed: by parent, position and code. Pages
    without a parent come first. -/
def PageRow.order (a b : PageRow) : Ordering :=
  (compare a.parent b.parent).then
    ((compare a.position b.position).then (compare a.code b.code))

/-- The row tables. -/
structure Tables where
  /-- The places of the pages, by page code. -/
  pages : Keyed String PageRow
  /-- The metadata of each edition, by page code. -/
  metadata : ByEdition (Keyed String Metadata)
  /-- The placed widgets of each edition, by page code and frame. -/
  widgets : ByEdition (Keyed String (Keyed Int Widget))
  deriving DecidableEq

namespace Tables

/-- Tables without rows. -/
def empty : Tables := ⟨∅, ⟨∅, ∅⟩, ⟨∅, ∅⟩⟩

instance : Inhabited Tables := ⟨empty⟩

-- ════════════════════════════════════════════════════════════════════════
-- Pages
-- ════════════════════════════════════════════════════════════════════════

/-- The stored pages by parent, position and code. -/
def pagesOrdered (t : Tables) : List PageRow :=
  t.pages.values.mergeSort fun a b => (a.order b).isLE

/-- The stored children of a page, by code. -/
def childRows (t : Tables) (parent : String) : List PageRow :=
  t.pages.values.filter fun row => row.parent = some parent

/-- Whether a stored page has `code` as its parent. -/
def hasChildren (t : Tables) (code : String) : Bool :=
  t.pages.values.any fun row => row.parent = some code

/-- The places of the stored pages. -/
def siblings (t : Tables) : Siblings where
  lookup code := (t.pages.get? code).map PageRow.toPlacement
  childPositions parent := (t.childRows parent).map fun row => some row.position
  childAt parent position :=
    ((t.childRows parent).find? fun row => row.position = position).map fun row => row.code
  count := t.pages.size

/-- Store a page. -/
def insertPage (t : Tables) (row : PageRow) : Except StoreError Tables :=
  if t.pages.contains row.code then .error (.violation (.duplicatePage row.code))
  else .ok { t with pages := t.pages.insert row.code row }

/-- Drop a page. Returns its row as well. -/
def deletePage (t : Tables) (code : String) : Except StoreError (PageRow × Tables) :=
  match t.pages.get? code with
  | some row => .ok (row, { t with pages := t.pages.erase code })
  | none => .error (.missingRow .pages code)

/-- Change the row of a stored page. -/
def modifyPage (t : Tables) (code : String) (f : PageRow → PageRow) : Except StoreError Tables :=
  if t.pages.contains code then .ok { t with pages := t.pages.modify code f }
  else .error (.missingRow .pages code)

/-- Set the parent and the group of a page. -/
def updatePage (t : Tables) (code : String) (parent : Option String) (group : String) :
    Except StoreError Tables :=
  t.modifyPage code fun row => { row with parent, group }

/-- Set the parent and the position of a page. -/
def updateTreePosition (t : Tables) (code parent : String) (position : Int) :
    Except StoreError Tables :=
  t.modifyPage code fun row => { row with parent := some parent, position }

/-- Add to the position of a page. -/
def offsetPosition (t : Tables) (code : String) (delta : Int) : Except StoreError Tables :=
  t.modifyPage code fun row => { row with position := row.position + delta }

/-- Close the gap that the child of `parent` at `position` leaves. -/
def shiftPages (t : Tables) (parent : String) (position : Int) : Tables :=
  { t with
    pages := t.pages.map fun _ row =>
      { row with toPlacement := row.toPlacement.closeGap parent position } }

/-- The number of stored pages that closing a gap moves. -/
def countAfter (t : Tables) (parent : String) (position : Int) : Nat :=
  Sitemap.countAfter parent position (t.pages.values.map PageRow.toPlacement)

-- ════════════════════════════════════════════════════════════════════════
-- Metadata
-- ════════════════════════════════════════════════════════════════════════

/-- The metadata of a page in an edition. -/
def metadataOf (t : Tables) (edition : Edition) (code : String) : Option Metadata :=
  (t.metadata.get edition).get? code

/-- Replace the metadata table of an edition. -/
def setMetadata (t : Tables) (edition : Edition) (table : Keyed String Metadata) : Tables :=
  { t with metadata := t.metadata.set edition table }

/-- Store metadata of a page. -/
def insertMetadata (t : Tables) (edition : Edition) (code : String) (row : Metadata) :
    Except StoreError Tables :=
  if (t.metadata.get edition).contains code then
    .error (.violation (.duplicateMetadata edition code))
  else .ok (t.setMetadata edition ((t.metadata.get edition).insert code row))

/-- Drop the metadata of a page. -/
def deleteMetadata (t : Tables) (edition : Edition) (code : String) : Tables :=
  t.setMetadata edition ((t.metadata.get edition).erase code)

/-- Set the time of the last write in the metadata of a page. -/
def stampMetadata (t : Tables) (edition : Edition) (code : String) (time : Timestamp) :
    Except StoreError Tables :=
  if (t.metadata.get edition).contains code then
    .ok <| t.setMetadata edition <| (t.metadata.get edition).modify code fun row =>
      { row with updatedAt := some time }
  else .error (.missingRow (.metadata edition) code)

-- ════════════════════════════════════════════════════════════════════════
-- Widgets
-- ════════════════════════════════════════════════════════════════════════

/-- The widgets of a page in an edition, by frame. -/
def widgetsOf (t : Tables) (edition : Edition) (code : String) : Keyed Int Widget :=
  ((t.widgets.get edition).get? code).getD ∅

/-- Replace the widget table of an edition. -/
def setWidgets (t : Tables) (edition : Edition) (table : Keyed String (Keyed Int Widget)) :
    Tables :=
  { t with widgets := t.widgets.set edition table }

/-- Store a widget. -/
def insertWidget (t : Tables) (edition : Edition) (code : String) (frame : Int) (w : Widget) :
    Except StoreError Tables :=
  let frames := t.widgetsOf edition code
  if frames.contains frame then .error (.violation (.frameOccupied edition frame code))
  else .ok (t.setWidgets edition ((t.widgets.get edition).insert code (frames.insert frame w)))

/-- Store widgets one after the other, up to the first that is refused. -/
def insertWidgets (edition : Edition) (code : String) :
    List (Int × Widget) → Tables → Except StoreError Unit × Tables
  | [], t => (.ok (), t)
  | (frame, w) :: rest, t =>
    match t.insertWidget edition code frame w with
    | .ok t => insertWidgets edition code rest t
    | .error e => (.error e, t)

/-- Drop all widgets of a page. -/
def deleteWidgets (t : Tables) (edition : Edition) (code : String) : Tables :=
  t.setWidgets edition ((t.widgets.get edition).erase code)

/-- Drop the widget in a frame. -/
def deleteWidget (t : Tables) (edition : Edition) (code : String) (frame : Int) : Tables :=
  match (t.widgets.get edition).get? code with
  | none => t
  | some frames =>
    let frames := frames.erase frame
    let table := t.widgets.get edition
    t.setWidgets edition
      (if frames.isEmpty then table.erase code else table.insert code frames)

/-- Move the widget in a frame to another frame, which must be free. Without a widget
    nothing is moved. Returns the number of widgets moved as well. -/
def updateWidgetFrame (t : Tables) (edition : Edition) (code : String) (source target : Int) :
    Except StoreError (Nat × Tables) :=
  let frames := t.widgetsOf edition code
  match frames.get? source with
  | none => .ok (0, t)
  | some w =>
    if frames.contains target then .error (.violation (.frameOccupied edition target code))
    else
      let moved := (frames.erase source).insert target w
      .ok (1, t.setWidgets edition ((t.widgets.get edition).insert code moved))

-- ════════════════════════════════════════════════════════════════════════
-- Publication
-- ════════════════════════════════════════════════════════════════════════

/-- Copy the draft rows of a page to the online tables, metadata first, up to the first
    row that is refused. -/
def copyDraftToOnline (t : Tables) (code : String) : Except StoreError Unit × Tables :=
  match t.metadataOf .draft code with
  | none => (.error (.missingRow (.metadata .draft) code), t)
  | some row =>
    match t.insertMetadata .online code row with
    | .error e => (.error e, t)
    | .ok t => insertWidgets .online code (t.widgetsOf .draft code).entries t

-- ════════════════════════════════════════════════════════════════════════
-- Integrity
-- ════════════════════════════════════════════════════════════════════════

/-- The first reference of a stored page that leads nowhere. -/
def pageViolation (t : Tables) (row : PageRow) : Option Violation :=
  match row.parent.filter fun parent => !t.pages.contains parent with
  | some parent => some (.missingParent row.code parent)
  | none =>
    if t.metadata.draft.contains row.code then none else some (.missingDraft row.code)

/-- The first row of an edition that belongs to no stored page. -/
def editionViolation (t : Tables) (edition : Edition) : Option Violation :=
  match (t.metadata.get edition).keys.find? fun code => !t.pages.contains code with
  | some code => some (.strayMetadata edition code)
  | none =>
    ((t.widgets.get edition).keys.find? fun code => !t.pages.contains code).map
      (.strayWidgets edition)

/-- The first reference between the tables that leads nowhere. Every parent, every row
    of metadata and every widget must belong to a stored page, and every stored page must
    have draft metadata. -/
def violation (t : Tables) : Option Violation :=
  match t.pages.values.findSome? t.pageViolation with
  | some v => some v
  | none => Edition.all.findSome? t.editionViolation

/-- Refuse tables in which a reference leads nowhere. -/
def checkReferences (t : Tables) : Except StoreError Unit :=
  match t.violation with
  | some v => .error (.violation v)
  | none => .ok ()

end Tables

end Sitemap
