import Sitemap.Rows.Basic

/-!
# Statements

The statements on row tables as data, so that a transaction is a list of them.

## Main definitions

- `Statement` — a statement with its arguments
- `Statement.run` — the answer of a statement and the tables after it
- `Statement.runAll` — statements one after the other, going on after a refused one
-/

namespace Sitemap

/-- A statement on the row tables. -/
inductive Statement where
  /-- Store a page. -/
  | insertPage (row : PageRow)
  /-- Drop a page. -/
  | deletePage (code : String)
  /-- Set the parent and the group of a page. -/
  | updatePage (code : String) (parent : Option String) (group : String)
  /-- Set the parent and the position of a page. -/
  | updateTreePosition (code parent : String) (position : Int)
  /-- Add to the position of a page. -/
  | offsetPosition (code : String) (delta : Int)
  /-- Close the gap that a child leaves. -/
  | shiftPages (parent : String) (position : Int)
  /-- Store metadata. -/
  | insertMetadata (edition : Edition) (code : String) (row : Metadata)
  /-- Drop metadata. -/
  | deleteMetadata (edition : Edition) (code : String)
  /-- Set the time of the last write. -/
  | stampMetadata (edition : Edition) (code : String) (time : Timestamp)
  /-- Store a widget. -/
  | insertWidget (edition : Edition) (code : String) (frame : Int) (w : Widget)
  /-- Drop all widgets of a page. -/
  | deleteWidgets (edition : Edition) (code : String)
  /-- Drop a widget. -/
  | deleteWidget (edition : Edition) (code : String) (frame : Int)
  /-- Move a widget to another frame. -/
  | updateWidgetFrame (edition : Edition) (code : String) (source target : Int)
  /-- Copy the draft rows of a page to the online tables. -/
  | copyDraftToOnline (code : String)

/-- What a statement answers. -/
inductive StatementReply where
  /-- It is done. -/
  | done
  /-- The dropped row. -/
  | row (row : PageRow)
  /-- Whether there was a row to drop. -/
  | found (found : Bool)
  /-- The number of rows changed. -/
  | count (count : Nat)

namespace Statement

/-- The outcome of a statement that a refusal leaves without effect. -/
def settle {α : Type} (before : Tables) (outcome : Except StoreError α)
    (after : α → StatementReply × Tables) : Except StoreError StatementReply × Tables :=
  match outcome with
  | .ok a => ((.ok (after a).1), (after a).2)
  | .error e => (.error e, before)

/-- Run a statement: its answer and the tables after it. -/
def run (s : Statement) (t : Tables) : Except StoreError StatementReply × Tables :=
  match s with
  | insertPage row => settle t (t.insertPage row) fun t => (.done, t)
  | deletePage code => settle t (t.deletePage code) fun (row, t) => (.row row, t)
  | updatePage code parent group => settle t (t.updatePage code parent group) fun t => (.done, t)
  | updateTreePosition code parent position =>
    settle t (t.updateTreePosition code parent position) fun t => (.done, t)
  | offsetPosition code delta => settle t (t.offsetPosition code delta) fun t => (.done, t)
  | shiftPages parent position =>
    (.ok (.count (t.countAfter parent position)), t.shiftPages parent position)
  | insertMetadata edition code row =>
    settle t (t.insertMetadata edition code row) fun t => (.done, t)
  | deleteMetadata edition code =>
    (.ok (.found (t.metadataOf edition code).isSome), t.deleteMetadata edition code)
  | stampMetadata edition code time =>
    settle t (t.stampMetadata edition code time) fun t => (.done, t)
  | insertWidget edition code frame w =>
    settle t (t.insertWidget edition code frame w) fun t => (.done, t)
  | deleteWidgets edition code =>
    (.ok (.count (t.widgetsOf edition code).size), t.deleteWidgets edition code)
  | deleteWidget edition code frame =>
    (.ok (.found ((t.widgetsOf edition code).contains frame)), t.deleteWidget edition code frame)
  | updateWidgetFrame edition code source target =>
    settle t (t.updateWidgetFrame edition code source target) fun (n, t) => (.count n, t)
  | copyDraftToOnline code =>
    let (outcome, t) := t.copyDraftToOnline code
    (outcome.map fun _ => .done, t)

/-- Run statements one after the other. A refused statement does not stop the others. -/
def runAll (statements : List Statement) (t : Tables) : Tables :=
  statements.foldl (fun t s => (s.run t).2) t

end Statement

end Sitemap
