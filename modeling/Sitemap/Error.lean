import Sitemap.Checksum
import Sitemap.Edition

/-!
# Errors

Why an operation on a site map is refused. Every error names its cause; the wording
is decided here and nowhere else.

## Main definitions

- `Violation` — a rule of the row tables that a statement or a commit would break
- `SnapshotFault` — a damage of the snapshot file
- `StoreError` — a failure of the row store
- `Misuse` — a request that is never allowed
- `Error` — a refused operation
- `Error.message`, `StoreError.message` — the texts
-/

namespace Sitemap

/-- The tables of the row store. -/
inductive TableName where
  /-- One row for each page. -/
  | pages
  /-- The metadata of one edition. -/
  | metadata (edition : Edition)
  /-- The placed widgets of one edition. -/
  | widgets (edition : Edition)
  deriving DecidableEq

/-- The name of a table in messages. -/
def TableName.text : TableName → String
  | .pages => "pages"
  | .metadata edition => "page_metadata_" ++ edition.name
  | .widgets edition => "widget_config_" ++ edition.name

/-- A rule of the row tables that a statement or a commit would break. -/
inductive Violation where
  /-- A page with this code is stored already. -/
  | duplicatePage (code : String)
  /-- Metadata of this page is stored already. -/
  | duplicateMetadata (edition : Edition) (code : String)
  /-- The frame of the page holds a widget already. -/
  | frameOccupied (edition : Edition) (frame : Int) (code : String)
  /-- The page to be deleted is the parent of others. -/
  | remainingChildren (code : String)
  /-- The parent of the page is not stored. -/
  | missingParent (code parent : String)
  /-- The page has no metadata in its draft edition. -/
  | missingDraft (code : String)
  /-- There is metadata of a page that is not stored. -/
  | strayMetadata (edition : Edition) (code : String)
  /-- There are widgets of a page that is not stored. -/
  | strayWidgets (edition : Edition) (code : String)
  deriving DecidableEq

namespace Violation

/-- The table whose rule is broken. -/
def table : Violation → TableName
  | duplicatePage _ | remainingChildren _ | missingParent _ _ => .pages
  | duplicateMetadata edition _ | strayMetadata edition _ => .metadata edition
  | missingDraft _ => .metadata .draft
  | frameOccupied edition _ _ | strayWidgets edition _ => .widgets edition

/-- What is wrong, in words. -/
def details : Violation → String
  | duplicatePage code | duplicateMetadata _ code => s!"duplicate code '{code}'"
  | frameOccupied _ frame code => s!"frame {frame} of page '{code}' already occupied"
  | remainingChildren code => s!"page '{code}' still has children"
  | missingParent code parent => s!"page '{code}' references missing parent '{parent}'"
  | missingDraft code => s!"page '{code}' has no draft metadata"
  | strayMetadata _ code => s!"metadata references missing page '{code}'"
  | strayWidgets _ code => s!"widget rows reference missing page '{code}'"

end Violation

/-- A damage of the snapshot file. -/
inductive SnapshotFault where
  /-- No line ends in the file. -/
  | missingHeader
  /-- The first line is not valid UTF-8. -/
  | undecodableHeader
  /-- The first line does not start with the name of the format. -/
  | unexpectedHeader (header : String)
  /-- The first line shows no checksum. -/
  | missingChecksum
  /-- The body does not have the checksum that the first line shows. -/
  | checksumMismatch (expected found : UInt32)
  deriving DecidableEq

/-- What is wrong with the file, in words. -/
def SnapshotFault.details : SnapshotFault → String
  | missingHeader => "missing snapshot header"
  | undecodableHeader => "snapshot header is not UTF-8"
  | unexpectedHeader header => s!"unexpected header '{header}'"
  | missingChecksum => "missing snapshot checksum"
  | checksumMismatch expected found =>
    let shown := String.ofList (Checksum.hexadecimal expected)
    let actual := String.ofList (Checksum.hexadecimal found)
    s!"checksum mismatch: expected 0x{shown}, got 0x{actual}"

/-- A failure of the row store. -/
inductive StoreError where
  /-- A rule of the tables would be broken. -/
  | violation (rule : Violation)
  /-- A row that must exist does not. -/
  | missingRow (table : TableName) (key : String)
  /-- The commit was made to fail on request. -/
  | requestedFailure
  /-- The file system refused to read or write. -/
  | fileSystem
  /-- The body of the snapshot file does not describe tables. -/
  | malformedBody
  /-- The snapshot file is damaged. -/
  | corrupted (fault : SnapshotFault)
  deriving DecidableEq

/-- The text of a failure of the row store. -/
def StoreError.message : StoreError → String
  | violation rule =>
    "constraint violation on " ++ rule.table.text ++ ": " ++ rule.details
  | missingRow table key => "missing row in " ++ table.text ++ " for key " ++ key
  | requestedFailure => "I/O error: injected commit failure"
  | fileSystem => "I/O error: the file system refused"
  | malformedBody => "codec error: the body does not describe tables"
  | corrupted fault => "corrupted snapshot: " ++ fault.details

/-- A request that is never allowed. -/
inductive Misuse where
  /-- The root page stays where it is. -/
  | moveRoot
  /-- The root page cannot be deleted. -/
  | deleteRoot
  /-- The site map has no root page. -/
  | noRoot
  /-- The parking frame must lie outside every page model. -/
  | parkingFrameNotNegative
  deriving DecidableEq

/-- The text of a request that is never allowed. -/
def Misuse.details : Misuse → String
  | moveRoot => "the root page cannot be moved"
  | deleteRoot => "the root page cannot be deleted"
  | noRoot => "the page tree has no root"
  | parkingFrameNotNegative => "sentinel frame must be negative"

/-- Why an operation is refused. -/
inductive Error where
  /-- The page does not exist in the edition. -/
  | notFound (code : String) (edition : Edition)
  /-- The page model has no such frame. -/
  | frameOutOfBounds (frame : Int) (frameCount : Nat)
  /-- The new parent lies in the subtree that would move. -/
  | cyclicMove (code target : String)
  /-- The widget in the frame may not be changed, or not be placed like this. -/
  | lockedWidget (typeCode : String) (frame : Int)
  /-- The page has children. -/
  | hasChildren (code : String)
  /-- The page is online. -/
  | pagePublished (code : String)
  /-- The code is taken. -/
  | duplicateCode (code : String)
  /-- The page model is not registered. -/
  | unknownModel (model : String)
  /-- The widget type is not registered. -/
  | unknownWidgetType (typeCode : String)
  /-- The version has another number of frames than its model. -/
  | frameCountMismatch (model : String) (expected found : Nat)
  /-- The request is never allowed. -/
  | misuse (reason : Misuse)
  /-- The row store failed, and nothing was written. -/
  | store (cause : StoreError)
  deriving DecidableEq

/-- The text of a refusal. -/
def Error.message : Error → String
  | notFound code edition => "Page '" ++ code ++ "' not found in the " ++ edition.name ++ " tree"
  | frameOutOfBounds frame frameCount =>
    s!"Frame {frame} out of bounds: the page model defines {frameCount} frames"
  | cyclicMove code target =>
    s!"Cannot move page '{code}' under '{target}': target is inside the moved subtree"
  | lockedWidget typeCode frame => s!"Widget type '{typeCode}' in frame {frame} is locked"
  | hasChildren code => s!"Page '{code}' still has children"
  | pagePublished code => s!"Page '{code}' is online and must be taken offline before deletion"
  | duplicateCode code => s!"Page code '{code}' already exists"
  | unknownModel model => s!"Unknown page model '{model}'"
  | unknownWidgetType typeCode => s!"Unknown widget type '{typeCode}'"
  | frameCountMismatch model expected found =>
    s!"Page model '{model}' defines {expected} frames, version carries {found}"
  | misuse reason => "Invalid operation: " ++ reason.details
  | store cause => "Persistence failure: " ++ cause.message

end Sitemap
