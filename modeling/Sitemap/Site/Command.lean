import Sitemap.Site.Hosted

/-!
# Commands

The requests to a hosted site as data, so that a run of the site is a list of them.

## Main definitions

- `Command` — a request with its arguments
- `Answer` — what a request answers
- `Command.run` — the answer of a request and the site after it
-/

namespace Sitemap

/-- A request to a hosted site. -/
inductive Command where
  /-- Create a page as the last child of a parent. -/
  | addPage (parent code group : String) (draft : PageVersion)
  /-- Replace the draft of a page. -/
  | updatePage (code : String) (draft : PageVersion)
  /-- Set the group of a page. -/
  | updatePageGroup (code group : String)
  /-- Delete a page without children. -/
  | deletePage (code : String)
  /-- Move a page to the end of the children of another parent. -/
  | movePage (code newParent : String)
  /-- Exchange a page with a neighbour. -/
  | movePageStep (code : String) (up : Bool)
  /-- Let visitors see the draft of a page. -/
  | setPageOnline (code : String)
  /-- Hide a page from visitors. -/
  | setPageOffline (code : String)
  /-- Place a widget in a draft frame. -/
  | joinWidget (code : String) (frame : Int) (w : Widget)
  /-- Exchange the contents of two draft frames. -/
  | moveWidget (code : String) (source target : Int)
  /-- Empty a draft frame. -/
  | removeWidget (code : String) (frame : Int)
  /-- Build the site map anew from the rows. -/
  | refresh

/-- What a request answers. -/
inductive Answer where
  /-- It is done. -/
  | done
  /-- The page after the request. -/
  | page (page : Page)
  /-- Whether the page moved. -/
  | moved (moved : Bool)
  deriving DecidableEq

namespace Command

/-- Give the answer of a request its common form. -/
def answer {α : Type} (f : α → Answer) (outcome : Except Error α × Hosted) :
    Except Error Answer × Hosted :=
  (outcome.1.map f, outcome.2)

/-- Run a request at a time: its answer and the site after it. -/
def run (time : Timestamp) (command : Command) (h : Hosted) : Except Error Answer × Hosted :=
  match command with
  | .addPage parent code group draft => answer .page (h.addPage time parent code group draft)
  | .updatePage code draft => answer .page (h.updatePage time code draft)
  | .updatePageGroup code group => answer .page (h.updatePageGroup code group)
  | .deletePage code => answer (fun _ => .done) (h.deletePage code)
  | .movePage code newParent => answer .page (h.movePage code newParent)
  | .movePageStep code up => answer .moved (h.movePageStep code up)
  | .setPageOnline code => answer .page (h.setPageOnline time code)
  | .setPageOffline code => answer .page (h.setPageOffline code)
  | .joinWidget code frame w => answer (fun _ => .done) (h.joinWidget time code frame w)
  | .moveWidget code source target =>
    answer (fun _ => .done) (h.moveWidget time code source target)
  | .removeWidget code frame => answer (fun _ => .done) (h.removeWidget time code frame)
  | .refresh => answer (fun _ => .done) h.refresh

end Command

end Sitemap
