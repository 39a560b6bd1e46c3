import Sitemap.Edit
import Sitemap.Site.Validation

/-!
# Hosted sites

A site on the environment that keeps its pages. Every request is first judged against the
site map in memory, then carried out on the rows in one transaction, and only after the
commit made visible to readers and reported.

## Main definitions

- `Hosted` — an environment and a site on it
- `Site.openOn` — open a site on an environment
- `Hosted.addPage`, `Hosted.updatePage`, `Hosted.deletePage`, … — the requests

## Design notes

Between the commit and the report of a request the site map in memory is brought up to
date, and that step has failures of its own: a frame that does not exist, a page that is
not found. The judgement before the transaction is what keeps them from happening.

Several sites may sit on one environment: the site map of a site can therefore be behind
the rows, until it is refreshed.
-/

namespace Sitemap

/-- A site on the environment that keeps its pages. -/
structure Hosted where
  /-- The environment. -/
  env : Environment
  /-- The site. -/
  site : Site

-- ════════════════════════════════════════════════════════════════════════
-- Opening
-- ════════════════════════════════════════════════════════════════════════

namespace RootSeed

/-- The root page that an empty store is given. -/
def page (seed : RootSeed) (r : Registry) : Except Error Page :=
  (PageVersion.ofModel r seed.model).map fun draft =>
    { code := seed.code
      parent := none
      position := 0
      group := seed.group
      draft
      online := none }

/-- Store the root page in an empty store. -/
def plant (seed : RootSeed) (r : Registry) (time : Timestamp) (env : Environment) :
    Except Error (List Page) × Environment :=
  match seed.page r with
  | .error e => (.error e, env)
  | .ok page =>
    match env.write (RowEdit.addPage r time page) with
    | (.error e, env) => (.error e, env)
    | (.ok stored, env) => (.ok [stored], env)

end RootSeed

/-- The pages of a store, which is given a root page when it has none. -/
def SiteConfig.pages (config : SiteConfig) (r : Registry) (time : Timestamp)
    (env : Environment) : Except Error (List Page) × Environment :=
  match env.committed.loadPages r with
  | .error e => (.error (.store e), env)
  | .ok pages =>
    match pages, config.root with
    | [], some seed => seed.plant r time env
    | [], none | _ :: _, _ => (.ok pages, env)

/-- Open a site on an environment. -/
def Site.openOn (config : SiteConfig) (r : Registry) (time : Timestamp) (env : Environment) :
    Except Error Site × Environment :=
  let (pages, env) := config.pages r time env
  (pages.map fun pages => ⟨config, r, .ofPages pages, []⟩, env)

namespace Hosted

/-- Go on with what the site accepts; what it refuses changes nothing. -/
def judge {α β : Type} (h : Hosted) (judged : Except Error α)
    (act : α → Except Error β × Hosted) : Except Error β × Hosted :=
  match judged with
  | .error e => (.error e, h)
  | .ok a => act a

/-- Run statements in one transaction. Once they are committed, make them visible on the
    site. The transaction stays committed even if that goes wrong. -/
def transact {α β : Type} (h : Hosted) (statements : Tables → Except Error (α × Tables))
    (publish : α → Site → Except Error β × Site) : Except Error β × Hosted :=
  match h.env.write statements with
  | (.error e, env) => (.error e, { h with env })
  | (.ok a, env) => ((publish a h.site).1, ⟨env, (publish a h.site).2⟩)

/-- Make the next commit fail. -/
def failNextCommit (h : Hosted) : Hosted :=
  { h with env := h.env.failNextCommit }

-- ════════════════════════════════════════════════════════════════════════
-- Pages
-- ════════════════════════════════════════════════════════════════════════

/-- Create a page as the last child of a parent. -/
def addPage (h : Hosted) (time : Timestamp) (parent code group : String) (draft : PageVersion) :
    Except Error Page × Hosted :=
  h.judge (h.site.acceptNewPage parent code group draft) fun page =>
    h.transact (RowEdit.addPage h.site.registry time page) fun stored site =>
      (.ok stored, (site.withTree (site.tree.insert stored)).report (.added code parent))

/-- Replace the draft of a page. -/
def updatePage (h : Hosted) (time : Timestamp) (code : String) (draft : PageVersion) :
    Except Error Page × Hosted :=
  h.judge (h.site.acceptDraft code draft) fun page =>
    h.transact (RowEdit.updatePage h.site.registry time page) fun draft site =>
      let page := { page with draft }
      (.ok page, (site.withTree (site.tree.replace page)).report (.updated code))

/-- Set the group of a page. -/
def updatePageGroup (h : Hosted) (code group : String) : Except Error Page × Hosted :=
  h.judge (h.site.draftPage code) fun current =>
    h.transact (RowEdit.updatePageGroup code group) fun _ site =>
      let page := { current with group }
      (.ok page, (site.withTree (site.tree.replace page)).report (.updated code))

/-- Delete a page without children. -/
def deletePage (h : Hosted) (code : String) : Except Error Unit × Hosted :=
  h.judge (h.site.acceptDeletion code) fun page =>
    h.transact (RowEdit.deletePage code) fun _ site =>
      let site := site.withTree (site.tree.remove code)
      let site := if page.isOnline then site.report (.unpublished code) else site
      (.ok (), site.report (.deleted code))

/-- Move a page to the end of the children of another parent. A page that is there
    already stays where it is. -/
def movePage (h : Hosted) (code newParent : String) : Except Error Page × Hosted :=
  h.judge (h.site.acceptMove code newParent) fun (current, planned) =>
    match planned with
    | none => (.ok current, h)
    | some _ =>
      h.transact (RowEdit.movePage code newParent) fun moved site =>
        match moved with
        | none => (.ok current, site)
        | some plan =>
          let site := site.withTree (site.tree.applyReparent plan)
          (site.draftPage code, site.report (.moved code plan.newParent plan.newPosition))

/-- Exchange a page with its neighbour before it (`up`) or after it. Returns whether there
    was one. -/
def movePageStep (h : Hosted) (code : String) (up : Bool) : Except Error Bool × Hosted :=
  h.judge (h.site.draftPage code) fun _ =>
    h.transact (RowEdit.swapPositions code up) fun swapped site =>
      match swapped with
      | none => (.ok false, site)
      | some plan =>
        let site := site.withTree (site.tree.applySwap plan)
        match site.tree.get? code with
        | none => (.ok true, site)
        | some page => (.ok true, site.report (.moved code (page.parent.getD "") page.position))

-- ════════════════════════════════════════════════════════════════════════
-- Publication
-- ════════════════════════════════════════════════════════════════════════

/-- Let visitors see the draft of a page. -/
def setPageOnline (h : Hosted) (time : Timestamp) (code : String) : Except Error Page × Hosted :=
  h.judge (h.site.draftPage code) fun _ =>
    h.transact (RowEdit.setPageOnline time code) fun time site =>
      let site := site.withTree (site.tree.edit code fun page => page.published time)
      (site.draftPage code, site.report (.published code))

/-- Hide a page from visitors. A page that is not online stays as it is. -/
def setPageOffline (h : Hosted) (code : String) : Except Error Page × Hosted :=
  h.judge (h.site.draftPage code) fun current =>
    if current.isOnline then
      h.transact (RowEdit.setPageOffline code) fun _ site =>
        (.ok current.unpublished,
          (site.withTree (site.tree.edit code Page.unpublished)).report (.unpublished code))
    else (.ok current, h)

-- ════════════════════════════════════════════════════════════════════════
-- Widgets
-- ════════════════════════════════════════════════════════════════════════

/-- Place a widget in a draft frame. -/
def joinWidget (h : Hosted) (time : Timestamp) (code : String) (frame : Int) (w : Widget) :
    Except Error Unit × Hosted :=
  h.judge (h.site.acceptJoin code frame w) fun w =>
    h.transact (RowEdit.joinWidget h.site.registry time code frame w) fun time site =>
      site.showSlots code time [frame] fun slots => (slots.set frame w).map Prod.snd

/-- Exchange the contents of two draft frames. -/
def moveWidget (h : Hosted) (time : Timestamp) (code : String) (source target : Int) :
    Except Error Unit × Hosted :=
  h.judge (h.site.acceptExchange code source target) fun _ =>
    if source = target then (.ok (), h)
    else
      h.transact (RowEdit.moveWidget h.env.parkingFrame time code source target) fun time site =>
        site.showSlots code time [source, target] fun slots => slots.move source target

/-- Empty a draft frame. An empty frame stays as it is. -/
def removeWidget (h : Hosted) (time : Timestamp) (code : String) (frame : Int) :
    Except Error Unit × Hosted :=
  h.judge (h.site.acceptRemoval code frame) fun occupant =>
    match occupant with
    | none => (.ok (), h)
    | some _ =>
      h.transact (RowEdit.removeWidget time code frame) fun time site =>
        site.showSlots code time [frame] fun slots => (slots.clear frame).map Prod.snd

-- ════════════════════════════════════════════════════════════════════════
-- Refreshing
-- ════════════════════════════════════════════════════════════════════════

/-- Build the site map anew from the rows. -/
def refresh (h : Hosted) : Except Error Unit × Hosted :=
  match h.env.committed.loadPages h.site.registry with
  | .error e => (.error (.store e), h)
  | .ok pages => (.ok (), { h with site := h.site.withTree (.ofPages pages) })

end Hosted

end Sitemap
