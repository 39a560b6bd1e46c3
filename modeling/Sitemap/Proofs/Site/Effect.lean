import Sitemap.Proofs.Site.Granted

/-!
# Effects of requests

All that a request can do to the committed tables and to the site map in memory: it leaves
both as they are, it builds the site map anew, or it commits the tables that its statements
lead to and then makes one change to the site map.

## Main definitions

- `Hosted.Keeps` — tables and site map are those from before
- `Hosted.Commits` — tables were committed, and the site map was changed
- `Command.Idle` — a request that finds everything as it asks for
- `Command.Effect` — what a request did

## Main results

- `Command.effect_of_run` — every request has one of these effects

## Design notes

Nothing is said here of how the tables and the site map relate, so the effects hold for a site
map that is behind the rows, too.
-/

namespace Sitemap

namespace Hosted

/-- Tables and site map are those from before. -/
structure Keeps (before after : Hosted) : Prop where
  /-- The same tables are committed. -/
  committed : after.env.committed = before.env.committed
  /-- The parking frame stays. -/
  parkingFrame : after.env.parkingFrame = before.env.parkingFrame
  /-- The same site map is shown. -/
  tree : after.site.tree = before.site.tree
  /-- The registry stays. -/
  registry : after.site.registry = before.site.registry

/-- The tables `t` were committed, and `tree` is shown since. -/
structure Commits (before : Hosted) (t : Tables) (tree : Tree) (after : Hosted) : Prop where
  /-- The tables are committed. -/
  env : before.env.Commits t after.env
  /-- The site map is shown. -/
  tree : after.site.tree = tree
  /-- The registry stays. -/
  registry : after.site.registry = before.site.registry

/-- A refused request keeps everything. -/
theorem Refuses.keeps {h h' : Hosted} {e : Error} (hrefuses : h.Refuses e h') : h.Keeps h' where
  committed := hrefuses.env.committed
  parkingFrame := hrefuses.env.parkingFrame
  tree := by rw [hrefuses.site]
  registry := by rw [hrefuses.site]

theorem Keeps.refl (h : Hosted) : h.Keeps h := ⟨rfl, rfl, rfl, rfl⟩

end Hosted

namespace Command

/-- The page that a request is about. -/
def code : Command → Option String
  | .addPage _ code _ _ | .updatePage code _ | .updatePageGroup code _ | .deletePage code
  | .movePage code _ | .movePageStep code _ | .setPageOnline code | .setPageOffline code
  | .joinWidget code _ _ | .moveWidget code _ _ | .removeWidget code _ => some code
  | .refresh => none

/-- The answer is the page of a code in a site map, if it is a page at all. -/
def Answers (tree : Tree) (code : Option String) (outcome : Except Error Answer) : Prop :=
  ∀ page, outcome = .ok (.page page) → ∃ c, code = some c ∧ tree.get? c = some page

/-- A request that is accepted although there is nothing to do, and its answer. -/
inductive Idle (site : Site) : Command → Answer → Prop where
  /-- The page is below the parent already. -/
  | movePage {code newParent page} (hpage : site.tree.get? code = some page)
    (haccepted : site.acceptMove code newParent = .ok (page, none)) :
    Idle site (.movePage code newParent) (.page page)
  /-- The page is offline already. -/
  | setPageOffline {code page} (hpage : site.tree.get? code = some page)
    (hoffline : page.online = none) : Idle site (.setPageOffline code) (.page page)
  /-- A frame would be exchanged with itself. -/
  | moveWidget {code frame} (haccepted : site.acceptExchange code frame frame = .ok ()) :
    Idle site (.moveWidget code frame frame) .done
  /-- The frame is empty already. -/
  | removeWidget {code frame} (haccepted : site.acceptRemoval code frame = .ok none) :
    Idle site (.removeWidget code frame) .done

variable {h h' : Hosted} {time : Timestamp}

/-- What a request at a time did to a hosted site, and what it answered. -/
inductive Effect (h h' : Hosted) (time : Timestamp) :
    Command → Except Error Answer → Prop where
  /-- Nothing changed. -/
  | kept {command outcome} (hkeeps : h.Keeps h')
    (hidle : ∀ a, outcome = .ok a → Idle h.site command a) : Effect h h' time command outcome
  /-- The site map was built anew. -/
  | refreshed {pages} (hload : h.env.committed.loadPages h.site.registry = .ok pages)
    (henv : h'.env = h.env) (htree : h'.site.tree = .ofPages pages)
    (hregistry : h'.site.registry = h.site.registry) : Effect h h' time .refresh (.ok .done)
  /-- A page was added. -/
  | added {parent code group draft page stored t}
    (haccepted : h.site.acceptNewPage parent code group draft = .ok page)
    (hedit : RowEdit.addPage h.site.registry time page h.env.committed = .ok (stored, t))
    (hcommits : h.Commits t (h.site.tree.insert stored) h') :
    Effect h h' time (.addPage parent code group draft) (.ok (.page stored))
  /-- The draft of a page was replaced. -/
  | updated {code draft page stored t} (haccepted : h.site.acceptDraft code draft = .ok page)
    (hedit : RowEdit.updatePage h.site.registry time page h.env.committed = .ok (stored, t))
    (hcommits : h.Commits t (h.site.tree.replace { page with draft := stored }) h') :
    Effect h h' time (.updatePage code draft) (.ok (.page { page with draft := stored }))
  /-- The group of a page was set. -/
  | regrouped {code group page t} {u : Unit} (hpage : h.site.tree.get? code = some page)
    (hedit : RowEdit.updatePageGroup code group h.env.committed = .ok (u, t))
    (hcommits : h.Commits t (h.site.tree.replace { page with group }) h') :
    Effect h h' time (.updatePageGroup code group) (.ok (.page { page with group }))
  /-- A page was deleted. -/
  | deleted {code page t} {u : Unit} (haccepted : h.site.acceptDeletion code = .ok page)
    (hedit : RowEdit.deletePage code h.env.committed = .ok (u, t))
    (hcommits : h.Commits t (h.site.tree.remove code) h') :
    Effect h h' time (.deletePage code) (.ok .done)
  /-- A page turned out to be below its new parent already. -/
  | stayed {code newParent page t} (hpage : h.site.tree.get? code = some page)
    (hedit : RowEdit.movePage code newParent h.env.committed = .ok (none, t))
    (hcommits : h.Commits t h.site.tree h') :
    Effect h h' time (.movePage code newParent) (.ok (.page page))
  /-- A page moved below another parent. -/
  | moved {code newParent plan page t}
    (hedit : RowEdit.movePage code newParent h.env.committed = .ok (some plan, t))
    (hcommits : h.Commits t (h.site.tree.applyReparent plan) h')
    (hpage : (h.site.tree.applyReparent plan).get? code = some page) :
    Effect h h' time (.movePage code newParent) (.ok (.page page))
  /-- A page had no neighbour to be exchanged with. -/
  | unswapped {code up t}
    (hedit : RowEdit.swapPositions code up h.env.committed = .ok (none, t))
    (hcommits : h.Commits t h.site.tree h') :
    Effect h h' time (.movePageStep code up) (.ok (.moved false))
  /-- A page was exchanged with a neighbour. -/
  | swapped {code up plan t}
    (hedit : RowEdit.swapPositions code up h.env.committed = .ok (some plan, t))
    (hcommits : h.Commits t (h.site.tree.applySwap plan) h') :
    Effect h h' time (.movePageStep code up) (.ok (.moved true))
  /-- A page went online. -/
  | published {code stamp page t}
    (hedit : RowEdit.setPageOnline time code h.env.committed = .ok (stamp, t))
    (hcommits : h.Commits t (h.site.tree.edit code fun page => page.published stamp) h')
    (hpage : h'.site.tree.get? code = some page) :
    Effect h h' time (.setPageOnline code) (.ok (.page page))
  /-- A page went offline. -/
  | unpublished {code page t} {u : Unit} (hpage : h.site.tree.get? code = some page)
    (hedit : RowEdit.setPageOffline code h.env.committed = .ok (u, t))
    (hcommits : h.Commits t (h.site.tree.edit code Page.unpublished) h') :
    Effect h h' time (.setPageOffline code) (.ok (.page page.unpublished))
  /-- A frame was filled. -/
  | joined {code frame w accepted stamp page t} (hpage : h.site.tree.get? code = some page)
    (haccepted : h.site.acceptWidget frame w = .ok accepted)
    (hframe : page.draft.slots.containsFrame frame = true)
    (hedit : RowEdit.joinWidget h.site.registry time code frame accepted h.env.committed =
      .ok (stamp, t))
    (hcommits : h.Commits t (h.site.tree.edit code fun p =>
      p.withSlots stamp (page.draft.slots.put frame (some accepted))) h')
    (hjoin : h.site.acceptJoin code frame w = .ok accepted) :
    Effect h h' time (.joinWidget code frame w) (.ok .done)
  /-- Two frames were exchanged. -/
  | exchanged {code source target stamp page t} (hpage : h.site.tree.get? code = some page)
    (hne : source ≠ target) (hsource : page.draft.slots.containsFrame source = true)
    (htarget : page.draft.slots.containsFrame target = true)
    (hedit : RowEdit.moveWidget h.env.parkingFrame time code source target h.env.committed =
      .ok (stamp, t))
    (hcommits : h.Commits t (h.site.tree.edit code fun p =>
      p.withSlots stamp (page.draft.slots.exchange source target)) h')
    (hexchange : h.site.acceptExchange code source target = .ok ()) :
    Effect h h' time (.moveWidget code source target) (.ok .done)
  /-- A frame was emptied. -/
  | removed {code frame w stamp page t} (hpage : h.site.tree.get? code = some page)
    (hframe : page.draft.slots.containsFrame frame = true)
    (hedit : RowEdit.removeWidget time code frame h.env.committed = .ok (stamp, t))
    (hcommits : h.Commits t (h.site.tree.edit code fun p =>
      p.withSlots stamp (page.draft.slots.put frame none)) h')
    (hremoval : h.site.acceptRemoval code frame = .ok (some w)) :
    Effect h h' time (.removeWidget code frame) (.ok .done)

-- ════════════════════════════════════════════════════════════════════════
-- Every request has an effect
-- ════════════════════════════════════════════════════════════════════════

/-- A request that finds everything as it asks for answers with the page that is shown. -/
theorem Idle.answers {site : Site} {command : Command} {a : Answer}
    (hidle : Idle site command a) : Answers site.tree command.code (.ok a) := by
  intro page heq
  cases hidle with
  | movePage hpage | setPageOffline hpage =>
    cases heq
    exact ⟨_, rfl, hpage⟩
  | moveWidget | removeWidget => cases heq

theorem ok_of_answer {α : Type} {f : α → Answer} {a : Answer}
    {outcome : Except Error α × Hosted} (hanswer : answer f outcome = (.ok a, h')) :
    ∃ b, outcome = (.ok b, h') ∧ f b = a := by
  obtain ⟨result, h''⟩ := outcome
  cases result with
  | error e => cases hanswer
  | ok b =>
    cases hanswer
    exact ⟨b, rfl, rfl⟩

@[simp]
theorem tree_report (site : Site) (event : Event) : (site.report event).tree = site.tree := by
  unfold Site.report
  split <;> rfl

@[simp]
theorem registry_report (site : Site) (event : Event) :
    (site.report event).registry = site.registry := by
  unfold Site.report
  split <;> rfl

@[simp]
theorem tree_reportAll (site : Site) (events : List Event) :
    (events.foldl Site.report site).tree = site.tree := by
  induction events generalizing site with
  | nil => rfl
  | cons event events ih => rw [List.foldl_cons, ih, tree_report]

@[simp]
theorem registry_reportAll (site : Site) (events : List Event) :
    (events.foldl Site.report site).registry = site.registry := by
  induction events generalizing site with
  | nil => rfl
  | cons event events ih => rw [List.foldl_cons, ih, registry_report]

/-- A site that shows another site map and tells of it keeps its registry. -/
theorem commits_of_report {t : Tables} {tree : Tree} {event : Event}
    (henv : h.env.Commits t h'.env)
    (hsite : h'.site = (h.site.withTree tree).report event) : h.Commits t tree h' where
  env := henv
  tree := by rw [hsite, tree_report]; rfl
  registry := by rw [hsite, registry_report]; rfl

/-- A draft that was replaced was accepted, stored with the parent that the site map shows, and
    made visible. -/
theorem updated_of_run {code : String} {draft : PageVersion} {a : Answer}
    (hrun : (Command.updatePage code draft).run time h = (.ok a, h')) :
    ∃ page stored t, h.site.acceptDraft code draft = .ok page ∧
      RowEdit.updatePage h.site.registry time page h.env.committed = .ok (stored, t) ∧
      h.Commits t (h.site.tree.replace { page with draft := stored }) h' ∧
      a = .page { page with draft := stored } := by
  obtain ⟨_, hact, rfl⟩ := ok_of_answer hrun
  obtain ⟨page, stored, t, haccepted, hedit, rfl, henv, hsite⟩ := Hosted.updatePage_eq_ok hact
  exact ⟨page, stored, t, haccepted, hedit, commits_of_report henv hsite, rfl⟩

/-- Slots that are shown are shown in a site map that is committed. -/
theorem commits_of_showsSlots {code : String} {stamp : Timestamp} {frames : List Int}
    {slots : Slots} {t : Tables} (hshows : h.ShowsSlots code stamp frames slots t h') :
    h.Commits t (h.site.tree.edit code fun p => p.withSlots stamp slots) h' :=
  commits_of_report hshows.env hshows.site

/-- Every request has one of the effects. -/
theorem effect_of_run {command : Command} {outcome : Except Error Answer}
    (hrun : command.run time h = (outcome, h')) : Effect h h' time command outcome := by
  cases outcome with
  | error e => exact .kept (refuses_of_run hrun).keeps fun _ heq => nomatch heq
  | ok a =>
  cases command with
  | addPage parent code group draft =>
    obtain ⟨_, hact, rfl⟩ := ok_of_answer hrun
    obtain ⟨page, t, haccepted, hedit, henv, hsite⟩ := Hosted.addPage_eq_ok hact
    exact .added haccepted hedit (commits_of_report henv hsite)
  | updatePage code draft =>
    obtain ⟨page, stored, t, haccepted, hedit, hcommits, rfl⟩ := updated_of_run hrun
    exact .updated haccepted hedit hcommits
  | updatePageGroup code group =>
    obtain ⟨_, hact, rfl⟩ := ok_of_answer hrun
    obtain ⟨page, t, hpage, hedit, rfl, henv, hsite⟩ := Hosted.updatePageGroup_eq_ok hact
    exact .regrouped hpage hedit (commits_of_report henv hsite)
  | deletePage code =>
    obtain ⟨_, hact, rfl⟩ := ok_of_answer hrun
    obtain ⟨page, t, haccepted, hedit, henv, hsite⟩ := Hosted.deletePage_eq_ok hact
    exact .deleted haccepted hedit
      ⟨henv, by rw [hsite, tree_reportAll]; rfl, by rw [hsite, registry_reportAll]; rfl⟩
  | movePage code newParent =>
    obtain ⟨_, hact, rfl⟩ := ok_of_answer hrun
    obtain ⟨current, planned, haccepted, hmoved⟩ := Hosted.movePage_eq_ok hact
    have hcurrent : h.site.tree.get? code = some current := by
      simp only [Site.acceptMove, bind_eq_ok, Site.draftPage_eq_ok] at haccepted
      obtain ⟨page, hpage, plan, -, heq⟩ := haccepted
      cases heq
      exact hpage
    obtain ⟨rfl, rfl, rfl⟩ | ⟨moved, t, hedit, henv, hshown⟩ := hmoved
    · refine .kept (.refl _) fun a heq => ?_
      cases heq
      exact .movePage hcurrent haccepted
    · cases moved with
      | none =>
        obtain ⟨rfl, hsite⟩ := hshown
        exact .stayed hcurrent hedit ⟨henv, by rw [hsite], by rw [hsite]⟩
      | some plan =>
        obtain ⟨hpage, hsite⟩ := hshown
        exact .moved hedit (commits_of_report henv hsite) hpage
  | movePageStep code up =>
    obtain ⟨_, hact, rfl⟩ := ok_of_answer hrun
    obtain ⟨swapped, t, hedit, henv, hshown⟩ := Hosted.movePageStep_eq_ok hact
    cases swapped with
    | none =>
      obtain ⟨rfl, hsite⟩ := hshown
      exact .unswapped hedit ⟨henv, by rw [hsite], by rw [hsite]⟩
    | some plan =>
      obtain ⟨rfl, hsite⟩ := hshown
      split at hsite
      · exact .swapped hedit ⟨henv, by rw [hsite]; rfl, by rw [hsite]; rfl⟩
      · exact .swapped hedit (commits_of_report henv hsite)
  | setPageOnline code =>
    obtain ⟨_, hact, rfl⟩ := ok_of_answer hrun
    obtain ⟨_, stamp, t, -, hedit, henv, hpage, hsite⟩ := Hosted.setPageOnline_eq_ok hact
    have hcommits := commits_of_report henv hsite
    exact .published hedit hcommits (by rwa [hcommits.tree])
  | setPageOffline code =>
    obtain ⟨_, hact, rfl⟩ := ok_of_answer hrun
    obtain ⟨current, hcurrent, ⟨hoffline, rfl, rfl⟩ | ⟨t, hedit, rfl, henv, hsite⟩⟩ :=
      Hosted.setPageOffline_eq_ok hact
    · refine .kept (.refl _) fun a heq => ?_
      cases heq
      exact .setPageOffline hcurrent hoffline
    · exact .unpublished hcurrent hedit (commits_of_report henv hsite)
  | joinWidget code frame w =>
    obtain ⟨_, hact, rfl⟩ := ok_of_answer hrun
    obtain ⟨accepted, page, stamp, t, haccepted, hwidget, hpage, hframe, hedit, hshows⟩ :=
      Hosted.joinWidget_eq_ok hact
    exact .joined hpage hwidget hframe hedit (commits_of_showsSlots hshows) haccepted
  | moveWidget code source target =>
    obtain ⟨_, hact, rfl⟩ := ok_of_answer hrun
    obtain ⟨haccepted, ⟨rfl, rfl⟩ |
      ⟨hne, page, stamp, t, hpage, hsource, htarget, hedit, hshows⟩⟩ :=
      Hosted.moveWidget_eq_ok hact
    · refine .kept (.refl _) fun a heq => ?_
      cases heq
      exact .moveWidget haccepted
    · exact .exchanged hpage hne hsource htarget hedit (commits_of_showsSlots hshows) haccepted
  | removeWidget code frame =>
    obtain ⟨_, hact, rfl⟩ := ok_of_answer hrun
    obtain ⟨occupant, haccepted, ⟨rfl, rfl⟩ |
      ⟨w, page, stamp, t, rfl, hpage, hframe, hedit, hshows⟩⟩ := Hosted.removeWidget_eq_ok hact
    · refine .kept (.refl _) fun a heq => ?_
      cases heq
      exact .removeWidget haccepted
    · exact .removed hpage hframe hedit (commits_of_showsSlots hshows) haccepted
  | refresh =>
    obtain ⟨_, hact, rfl⟩ := ok_of_answer hrun
    obtain ⟨pages, hload, rfl⟩ := Hosted.refresh_eq_ok hact
    exact .refreshed hload rfl rfl rfl

end Command

end Sitemap
