import Sitemap.Rows.Basic

/-!
# Stored pages

The pages that row tables describe, and the rows that describe a version of a page.

## Main definitions

- `Tables.loadVersion` — one edition of a stored page
- `Tables.loadPages` — all stored pages, by parent, position and code
- `Tables.insertVersion` — store one edition of a page

## Design notes

A version is loaded with the number of frames that its model has now. Widgets in other
frames stay in the tables but are not shown, and a model that is no longer registered
has no frames.
-/

namespace Sitemap

namespace Tables

/-- One edition of a stored page; `none` without metadata. -/
def loadVersion (t : Tables) (r : Registry) (edition : Edition) (code : String) :
    Option PageVersion :=
  (t.metadataOf edition code).map fun metadata =>
    { toMetadata := metadata
      slots := .ofRows ((r.frameCount metadata.model).getD 0) (t.widgetsOf edition code).entries }

/-- The page that a row describes, with its editions. -/
def loadPage (t : Tables) (r : Registry) (row : PageRow) : Except StoreError Page :=
  match t.loadVersion r .draft row.code with
  | none => .error (.missingRow (.metadata .draft) row.code)
  | some draft =>
    .ok
      { toPlacement := row.toPlacement
        group := row.group
        draft
        online := t.loadVersion r .online row.code }

/-- All stored pages, by parent, position and code. -/
def loadPages (t : Tables) (r : Registry) : Except StoreError (List Page) :=
  t.pagesOrdered.mapM (t.loadPage r)

/-- A widget as it is stored. -/
def storedWidget (r : Registry) (w : Widget) : Widget :=
  w.normalize (r.isLogic w)

/-- Store one edition of a page: its metadata, then its widgets by frame. -/
def insertVersion (t : Tables) (r : Registry) (edition : Edition) (code : String)
    (v : PageVersion) : Except StoreError Tables := do
  let t ← t.insertMetadata edition code v.toMetadata
  let rows := v.slots.occupied.map fun (frame, w) => (frame, storedWidget r w)
  match insertWidgets edition code rows t with
  | (.ok (), t) => return t
  | (.error e, _) => throw e

end Tables

end Sitemap
