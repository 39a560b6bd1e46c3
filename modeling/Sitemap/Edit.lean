import Sitemap.Environment.Basic
import Sitemap.RowEdit

/-!
# Edits of the stored site map

The edits of the rows as data. Each runs as one transaction, so that either all of its
changes become visible or none.

## Main definitions

- `Edit` — an edit with its arguments
- `Edit.run` — the answer of an edit and the tables after it
- `Environment.edit` — run an edit in a transaction of its own
-/

namespace Sitemap

/-- An edit of the stored site map. -/
inductive Edit where
  /-- Store a page at the end of the children of its parent. -/
  | addPage (page : Page)
  /-- Drop a page without children. -/
  | deletePage (code : String)
  /-- Rewrite the draft of a page, its parent and its group. -/
  | updatePage (page : Page)
  /-- Set the group of a page. -/
  | updatePageGroup (code group : String)
  /-- Copy the draft of a page to its online edition. -/
  | setPageOnline (code : String)
  /-- Drop the online edition of a page. -/
  | setPageOffline (code : String)
  /-- Move a page to the end of the children of another parent. -/
  | movePage (code newParent : String)
  /-- Exchange a page with a neighbour. -/
  | swapPositions (code : String) (up : Bool)
  /-- Place a widget in a draft frame. -/
  | joinWidget (code : String) (frame : Int) (w : Widget)
  /-- Empty a draft frame. -/
  | removeWidget (code : String) (frame : Int)
  /-- Exchange two draft frames. -/
  | moveWidget (code : String) (source target : Int)

/-- What an edit answers. -/
inductive EditReply where
  /-- It is done. -/
  | done
  /-- The page as stored. -/
  | page (page : Page)
  /-- The version as stored. -/
  | version (version : PageVersion)
  /-- The time that the changed rows are stamped with. -/
  | stamped (time : Timestamp)
  /-- How the page moved, if it moved. -/
  | moved (plan : Option ReparentPlan)
  /-- How the page was exchanged, if it was. -/
  | swapped (plan : Option SwapPlan)
  deriving DecidableEq

namespace Edit

/-- Give the answer of an edit its common form. -/
def reply {α : Type} (answer : α → EditReply) (outcome : Except Error (α × Tables)) :
    Except Error (EditReply × Tables) :=
  outcome.map fun (a, t) => (answer a, t)

/-- Run an edit at a time: its answer and the tables after it. -/
def run (r : Registry) (parkingFrame : Int) (time : Timestamp) (edit : Edit) (t : Tables) :
    Except Error (EditReply × Tables) :=
  match edit with
  | .addPage page => reply .page (RowEdit.addPage r time page t)
  | .deletePage code => reply (fun _ => .done) (RowEdit.deletePage code t)
  | .updatePage page => reply .version (RowEdit.updatePage r time page t)
  | .updatePageGroup code group => reply (fun _ => .done) (RowEdit.updatePageGroup code group t)
  | .setPageOnline code => reply .stamped (RowEdit.setPageOnline time code t)
  | .setPageOffline code => reply (fun _ => .done) (RowEdit.setPageOffline code t)
  | .movePage code newParent => reply .moved (RowEdit.movePage code newParent t)
  | .swapPositions code up => reply .swapped (RowEdit.swapPositions code up t)
  | .joinWidget code frame w => reply .stamped (RowEdit.joinWidget r time code frame w t)
  | .removeWidget code frame => reply .stamped (RowEdit.removeWidget time code frame t)
  | .moveWidget code source target =>
    reply .stamped (RowEdit.moveWidget parkingFrame time code source target t)

end Edit

/-- Run an edit in a transaction of its own. -/
def Environment.edit (env : Environment) (r : Registry) (time : Timestamp) (e : Edit) :
    Except Error EditReply × Environment :=
  env.write (e.run r env.parkingFrame time)

end Sitemap
