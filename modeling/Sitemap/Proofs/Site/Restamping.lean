import Sitemap.Proofs.Rows.Restamping
import Sitemap.Proofs.Site.Leftovers
import Sitemap.Proofs.Site.Locking
import Sitemap.Proofs.Site.Redundancy
import Sitemap.Proofs.Site.Undoing

/-!
# Contents taken back

A widget that was placed is removed, an exchange of frames is made once more, and a page that went
online goes offline. The second request succeeds whenever the first one did. All rows and the site
map are those from before, and only the time of the last write of the draft tells that there was
something.

## Main definitions

- `Hosted.Restamps` — a site before and after requests of which only the time is left

## Main results

- `Hosted.IsMirrored.restamps` — a stamp of the rows of a mirror is one of its site map
- `Site.isTidy_run_of_openOn` — a site that opened on an empty store leaves tidy rows
- `Hosted.IsMirrored.exists_placement_undone`, `Hosted.IsMirrored.exists_exchange_undone`,
  `Hosted.IsMirrored.exists_publication_undone` — one request at a site that mirrors tidy rows
- `content_requests_undo` — the same at every state that a site comes to
-/

namespace Sitemap

/-- The page with another time of the last write of its draft. -/
def Page.restamped (p : Page) (time : Timestamp) : Page :=
  { p with draft := p.draft.stamped time }

/-- The rows and the site map are those from before, but for the time of the last write of a
    draft. -/
structure Hosted.Restamps (before : Hosted) (code : String) (time : Timestamp)
    (after : Hosted) : Prop where
  /-- The metadata of the draft has the time, and all other rows stay. -/
  committed :
    before.env.committed.stampMetadata .draft code time = .ok after.env.committed
  /-- The page is shown with the time, and all the rest of the site map stays. -/
  tree : after.site.tree = before.site.tree.edit code fun p => p.restamped time

-- ════════════════════════════════════════════════════════════════════════
-- Stamps
-- ════════════════════════════════════════════════════════════════════════

section Stamps

variable {t t' : Tables} {r : Registry} {code : String} {time : Timestamp}

/-- A stamped draft shows what it showed before. -/
theorem Tables.contents_of_stampMetadata (h : t.stampMetadata .draft code time = .ok t') :
    t'.contents r = fun c =>
      if c = code then (t.contents r c).map fun k => k.withSlots time id
      else t.contents r c := by
  obtain ⟨htouches, ⟨row, hrow, hrow'⟩, hwidgets⟩ := touches_of_stampMetadata h
  refine contents_of_draft htouches hrow hrow' fun slots hload => ?_
  rw [hwidgets]
  exact (loadVersion_eq_some_iff.1 hload).2.symm

/-- A site map that shows a stamp keeps up with rows that got it. -/
theorem Tree.Mirrors.restamped {tree : Tree} (h : tree.Mirrors r t)
    (hstamp : t.stampMetadata .draft code time = .ok t') :
    (tree.edit code fun p => p.restamped time).Mirrors r t' where
  follows := by
    rw [Tables.places_congr (Tables.touches_of_stampMetadata hstamp).1.pages]
    exact h.follows.edit fun _ => rfl
  contents := by
    rw [Tables.contents_of_stampMetadata hstamp, ← h.contents]
    exact Tree.contents_edit fun _ => rfl

end Stamps

namespace Hosted

variable {h h' before after : Hosted} {code : String} {page : Page} {frame : Int}
  {time now : Timestamp}

/-- Where the rows of a mirror differ by a stamp, so does what it shows. -/
theorem IsMirrored.restamps (hmirrored : h.IsMirrored) (hmirrored' : h'.IsMirrored)
    (hregistry : h'.site.registry = h.site.registry)
    (hlists : h'.site.tree.childLists = h.site.tree.childLists)
    (hrows : h.env.committed.stampMetadata .draft code time = .ok h'.env.committed) :
    h.Restamps code time h' where
  committed := hrows
  tree := by
    have hmirrors := hmirrored'.mirrors
    rw [hregistry] at hmirrors
    refine (hmirrors.showsSame (hmirrored.mirrors.restamped hrows)).eq fun c => ?_
    rw [hlists]
    rfl

/-- A mirror shows the versions that are loaded from the rows. -/
theorem IsMirrored.loadVersion_of_get? (hmirrored : h.IsMirrored)
    (hpage : h.site.tree.get? code = some page) :
    h.env.committed.loadVersion h.site.registry .draft code = some page.draft ∧
      h.env.committed.loadVersion h.site.registry .online code = page.online := by
  have hcontent := Tree.contents_of_get? hpage
  rw [hmirrored.mirrors.contents] at hcontent
  obtain ⟨-, -, -, hdraft, honline⟩ := Tables.contents_eq_some_iff.1 hcontent
  exact ⟨hdraft, honline⟩

end Hosted

-- ════════════════════════════════════════════════════════════════════════
-- Tidy rows
-- ════════════════════════════════════════════════════════════════════════

/-- Whatever is requested leaves rows linked and tidy. -/
theorem Command.isTidy_run {h : Hosted}
    (htidy : h.env.committed.IsLinked ∧ h.env.committed.IsTidy) (time : Timestamp)
    (command : Command) :
    (command.run time h).2.env.committed.IsLinked ∧
      (command.run time h).2.env.committed.IsTidy := by
  have hdata : command.AllData (fun _ => True) (fun _ => True) h.site.registry :=
    Shared.Step.allData_of_stored (fun _ => trivial) (fun _ _ => trivial)
      (.request 0 time command) h.site.registry
  have hedited : h.env.IsEdited (fun _ => True) (fun _ => True) h.site.registry time
      (command.run time h).2.env := isEdited_run hdata
  rcases hedited with hsame | ⟨edit, -, hedit⟩
  · rwa [hsame]
  · rw [hedit]
    exact Environment.isTidy_edit htidy _ time edit

theorem Hosted.isTidy_run {h : Hosted}
    (htidy : h.env.committed.IsLinked ∧ h.env.committed.IsTidy) (steps : List Step) :
    (h.run steps).env.committed.IsLinked ∧ (h.run steps).env.committed.IsTidy := by
  induction steps generalizing h with
  | nil => exact htidy
  | cons step steps ih =>
    refine ih ?_
    cases step with
    | request time command => exact Command.isTidy_run htidy time command
    | failNextCommit => exact htidy

/-- A site that opened on an empty store leaves tidy rows after any run. -/
theorem Site.isTidy_run_of_openOn {config : SiteConfig} {r : Registry} {time : Timestamp}
    {env env' : Environment} {site : Site} (hvacant : env.IsVacant)
    (hopen : Site.openOn config r time env = (.ok site, env')) (steps : List Hosted.Step) :
    (Hosted.run ⟨env', site⟩ steps).env.committed.IsTidy := by
  have htidy : env.committed.IsLinked ∧ env.committed.IsTidy := by
    rw [hvacant.committed]
    exact ⟨Tables.checkReferences_eq_ok.1 rfl, Tables.isTidy_empty⟩
  have hedited : env.IsEdited (fun _ => True) (fun _ => True) r time
      (Site.openOn config r time env).2 := Site.isEdited_openOn trivial config r time env
  have hopened : env'.committed.IsLinked ∧ env'.committed.IsTidy := by
    rw [hopen] at hedited
    rcases hedited with rfl | ⟨edit, -, rfl⟩
    · exact htidy
    · exact Environment.isTidy_edit htidy r time edit
  exact (Hosted.isTidy_run hopened steps).2

-- ════════════════════════════════════════════════════════════════════════
-- Pages that are altered in place
-- ════════════════════════════════════════════════════════════════════════

namespace Hosted

variable {h h' between after : Hosted} {code : String} {page page' : Page} {frame : Int}
  {now : Timestamp} {a : Answer}

/-- A page was altered in its place, on a site that mirrors the rows since. -/
structure Alters (before : Hosted) (code : String) (page : Page) (after : Hosted) : Prop where
  /-- The rows are mirrored. -/
  mirrored : after.IsMirrored
  /-- The registry stays. -/
  registry : after.site.registry = before.site.registry
  /-- The parking frame stays. -/
  parkingFrame : after.env.parkingFrame = before.env.parkingFrame
  /-- Tables can be stored. -/
  canStore : after.env.CanStore
  /-- The lists of children stay. -/
  childLists : after.site.tree.childLists = before.site.tree.childLists
  /-- The page is shown as it is now. -/
  get? : after.site.tree.get? code = some page

/-- A request that commits a change of one page alters it. -/
theorem Commits.alters {t : Tables} {f : Page → Page} {command : Command}
    (hcommits : h.Commits t (h.site.tree.edit code f) h') (hmirrored : h.IsMirrored)
    (hpage : h.site.tree.get? code = some page) (hrun : command.run now h = (.ok a, h'))
    (hstore : h'.env.CanStore) : h'.env.committed = t ∧ h.Alters code (f page) h' := by
  obtain ⟨hmirrored', hregistry⟩ := hmirrored.of_run hrun
  obtain ⟨henv, htree, -⟩ := hcommits
  refine ⟨henv.committed, hmirrored', hregistry, henv.parkingFrame, hstore, ?_, ?_⟩
  · rw [htree]
    rfl
  · rw [htree, Tree.get?_edit, if_pos rfl, hpage]
    rfl

/-- Two alterations of one page restamp it when they restamp the rows. -/
theorem IsMirrored.restamps_of_alters (hmirrored : h.IsMirrored)
    (hfirst : h.Alters code page between) (hsecond : between.Alters code page' after)
    (hrows : h.env.committed.stampMetadata .draft code now = .ok after.env.committed) :
    h.Restamps code now after :=
  hmirrored.restamps hsecond.mirrored (hsecond.registry.trans hfirst.registry)
    (hsecond.childLists.trans hfirst.childLists) hrows

namespace IsMirrored

/-- A widget that was placed was accepted before, and is in its frame. -/
theorem alters_of_joinWidget (hmirrored : h.IsMirrored) {w : Widget}
    (hpage : h.site.tree.get? code = some page)
    (hrun : (Command.joinWidget code frame w).run now h = (.ok a, h')) :
    a = .done ∧ ∃ accepted, h.site.acceptJoin code frame w = .ok accepted ∧
      RowEdit.joinWidget h.site.registry now code frame accepted h.env.committed =
        .ok (now, h'.env.committed) ∧
      h.Alters code (page.withSlots now (page.draft.slots.put frame (some accepted))) h' := by
  obtain ⟨_, hjoin, rfl⟩ := Command.ok_of_answer hrun
  obtain ⟨_, -, hact⟩ := judge_eq_ok hjoin
  obtain ⟨accepted, found, stamp, t, haccepted, -, hfound, -, hedit, hshows⟩ :=
    joinWidget_eq_ok hjoin
  obtain rfl := Option.some.inj (hpage.symm.trans hfound)
  obtain ⟨rfl, -⟩ := RowEdit.touches_of_joinWidget hedit
  obtain ⟨rfl, halters⟩ := (Command.commits_of_showsSlots hshows).alters hmirrored hpage hrun
    (canStore_of_transact hact)
  exact ⟨rfl, accepted, haccepted, hedit, halters⟩

/-- A widget that was removed is in its frame no longer. -/
theorem alters_of_removeWidget (hmirrored : h.IsMirrored) {w : Widget}
    (hpage : h.site.tree.get? code = some page)
    (hplaced : page.draft.slots.widgetAt frame = some w)
    (hrun : (Command.removeWidget code frame).run now h = (.ok a, h')) :
    a = .done ∧
      RowEdit.removeWidget now code frame h.env.committed = .ok (now, h'.env.committed) ∧
      h.Alters code (page.withSlots now (page.draft.slots.put frame none)) h' := by
  obtain ⟨_, hremove, rfl⟩ := Command.ok_of_answer hrun
  obtain ⟨occupant, haccepted, hact⟩ := judge_eq_ok hremove
  obtain ⟨found, hfound, -, rfl⟩ := Site.exists_page_of_acceptRemoval haccepted
  obtain rfl := Option.some.inj (hpage.symm.trans hfound)
  rw [hplaced] at haccepted hact
  obtain ⟨occupant, haccepted', hresult⟩ := removeWidget_eq_ok hremove
  obtain rfl := Except.ok.inj (haccepted.symm.trans haccepted')
  obtain ⟨hnone, -⟩ | ⟨_, found, stamp, t, -, hfound, -, hedit, hshows⟩ := hresult
  · cases hnone
  obtain rfl := Option.some.inj (hpage.symm.trans hfound)
  obtain ⟨rfl, -⟩ := RowEdit.touches_of_removeWidget hedit
  obtain ⟨rfl, halters⟩ := (Command.commits_of_showsSlots hshows).alters hmirrored hpage hrun
    (canStore_of_transact hact)
  exact ⟨rfl, hedit, halters⟩

/-- Two frames that were exchanged were accepted before, and hold each other's widgets. -/
theorem alters_of_moveWidget (hmirrored : h.IsMirrored) {source target : Int}
    (hne : source ≠ target)
    (hrun : (Command.moveWidget code source target).run now h = (.ok a, h')) :
    a = .done ∧ h.site.acceptExchange code source target = .ok () ∧ ∃ page,
      h.site.tree.get? code = some page ∧ page.draft.slots.containsFrame source = true ∧
      page.draft.slots.containsFrame target = true ∧
      RowEdit.moveWidget h.env.parkingFrame now code source target h.env.committed =
        .ok (now, h'.env.committed) ∧
      h.Alters code (page.withSlots now (page.draft.slots.exchange source target)) h' := by
  obtain ⟨_, hmove, rfl⟩ := Command.ok_of_answer hrun
  obtain ⟨_, -, hact⟩ := judge_eq_ok hmove
  rw [if_neg hne] at hact
  obtain ⟨haccepted, ⟨hsame, -⟩ | ⟨-, page, stamp, t, hpage, hsource, htarget, hedit, hshows⟩⟩ :=
    moveWidget_eq_ok hmove
  · exact absurd hsame hne
  obtain rfl := RowEdit.stamp_of_moveWidget hedit
  obtain ⟨rfl, halters⟩ := (Command.commits_of_showsSlots hshows).alters hmirrored hpage hrun
    (canStore_of_transact hact)
  exact ⟨rfl, haccepted, page, hpage, hsource, htarget, hedit, halters⟩

/-- A page that was published shows its draft online. -/
theorem alters_of_setPageOnline (hmirrored : h.IsMirrored)
    (hpage : h.site.tree.get? code = some page)
    (hrun : (Command.setPageOnline code).run now h = (.ok a, h')) :
    a = .page (page.published now) ∧
      RowEdit.setPageOnline now code h.env.committed = .ok (now, h'.env.committed) ∧
      h.Alters code (page.published now) h' := by
  obtain ⟨shown, hpublish, rfl⟩ := Command.ok_of_answer hrun
  obtain ⟨_, -, hact⟩ := judge_eq_ok hpublish
  obtain ⟨_, stamp, t, -, hedit, henv, hshown, hsite⟩ := setPageOnline_eq_ok hpublish
  obtain ⟨rfl, -⟩ := RowEdit.touches_of_setPageOnline hedit
  obtain ⟨rfl, halters⟩ := (Command.commits_of_report henv hsite).alters hmirrored hpage hrun
    (canStore_of_transact hact)
  rw [Tree.get?_edit, if_pos rfl, hpage] at hshown
  cases hshown
  exact ⟨rfl, hedit, halters⟩

/-- A page that was taken offline shows nothing there. -/
theorem alters_of_setPageOffline (hmirrored : h.IsMirrored) {v : PageVersion}
    (hpage : h.site.tree.get? code = some page) (honline : page.online = some v)
    (hrun : (Command.setPageOffline code).run now h = (.ok a, h')) :
    a = .page page.unpublished ∧
      RowEdit.setPageOffline code h.env.committed = .ok ((), h'.env.committed) ∧
      h.Alters code page.unpublished h' := by
  obtain ⟨shown, hhide, rfl⟩ := Command.ok_of_answer hrun
  obtain ⟨current, hcurrent, hact⟩ := judge_eq_ok hhide
  obtain rfl := Option.some.inj (hpage.symm.trans (Site.draftPage_eq_ok.1 hcurrent))
  rw [if_pos (by rw [Page.isOnline, honline]; rfl)] at hact
  obtain ⟨found, hfound, hresult⟩ := setPageOffline_eq_ok hhide
  obtain rfl := Option.some.inj (hpage.symm.trans hfound)
  obtain ⟨hnone, -⟩ | ⟨t, hedit, rfl, henv, hsite⟩ := hresult
  · cases hnone.symm.trans honline
  obtain ⟨rfl, halters⟩ := (Command.commits_of_report henv hsite).alters hmirrored hpage hrun
    (canStore_of_transact hact)
  exact ⟨rfl, hedit, halters⟩

-- ════════════════════════════════════════════════════════════════════════
-- Requests that succeed
-- ════════════════════════════════════════════════════════════════════════

/-- A widget that is accepted for a frame is placed there. -/
theorem exists_placement (hmirrored : h.IsMirrored) (hstore : h.env.CanStore) {w accepted : Widget}
    (hpage : h.site.tree.get? code = some page)
    (hjudged : h.site.acceptJoin code frame w = .ok accepted) (now : Timestamp) : ∃ after,
      (Command.joinWidget code frame w).run now h = (.ok .done, after) ∧
        RowEdit.joinWidget h.site.registry now code frame accepted h.env.committed =
          .ok (now, after.env.committed) ∧
        h.Alters code (page.withSlots now (page.draft.slots.put frame (some accepted))) after := by
  have hverdict : (Command.joinWidget code frame w).verdict h.site = .ok () :=
    map_eq_ok.2 ⟨_, hjudged, rfl⟩
  obtain ⟨_, after, hrun⟩ := Command.exists_run_of_verdict hmirrored hstore hverdict now
  obtain ⟨rfl, found, hfound, hedit, halters⟩ := hmirrored.alters_of_joinWidget hpage hrun
  obtain rfl := Except.ok.inj (hjudged.symm.trans hfound)
  exact ⟨after, hrun, hedit, halters⟩

/-- A widget that is not locked is removed from its frame. -/
theorem exists_removal (hmirrored : h.IsMirrored) (hstore : h.env.CanStore) {w : Widget}
    (hpage : h.site.tree.get? code = some page)
    (hplaced : page.draft.slots.widgetAt frame = some w)
    (hfree : h.site.IsFree page.draft frame) (now : Timestamp) : ∃ after,
      (Command.removeWidget code frame).run now h = (.ok .done, after) ∧
        RowEdit.removeWidget now code frame h.env.committed = .ok (now, after.env.committed) ∧
        h.Alters code (page.withSlots now (page.draft.slots.put frame none)) after := by
  have hjudged :=
    Site.acceptRemoval_of_isFree hpage (Slots.containsFrame_of_widgetAt hplaced) hfree
  have hverdict : (Command.removeWidget code frame).verdict h.site = .ok () :=
    map_eq_ok.2 ⟨_, hjudged, rfl⟩
  obtain ⟨_, after, hrun⟩ := Command.exists_run_of_verdict hmirrored hstore hverdict now
  obtain ⟨rfl, hedit, halters⟩ := hmirrored.alters_of_removeWidget hpage hplaced hrun
  exact ⟨after, hrun, hedit, halters⟩

-- ════════════════════════════════════════════════════════════════════════
-- Requests that are taken back
-- ════════════════════════════════════════════════════════════════════════

/-- A widget of a type that is not locked can be placed in a free frame, and be removed again. -/
theorem exists_placement_undone (hmirrored : h.IsMirrored) (htidy : h.env.committed.IsTidy)
    (hstore : h.env.CanStore) {w : Widget} {info : WidgetType}
    (hpage : h.site.tree.get? code = some page)
    (hframe : page.draft.slots.containsFrame frame = true)
    (hempty : page.draft.slots.widgetAt frame = none)
    (hinfo : h.site.registry.widgetType w.typeCode = some info) (hunlocked : info.locked = false)
    (now later : Timestamp) : ∃ between after,
      (Command.joinWidget code frame w).run now h = (.ok .done, between) ∧
        (Command.removeWidget code frame).run later between = (.ok .done, after) ∧
        h.Restamps code later after := by
  -- nothing is in the frame, and the widget may be configured
  have hvacant : h.site.IsFree page.draft frame := by
    intro u hu
    rw [hempty] at hu
    cases hu
  have hkept : ¬ Site.IsReconfigured info w := by
    rintro ⟨hlocked, -⟩
    rw [hunlocked] at hlocked
    cases hlocked
  obtain ⟨between, hjoin, hedit, halters⟩ := hmirrored.exists_placement hstore hpage
    (Site.acceptJoin_of_isFree hpage hframe hvacant (Site.acceptWidget_eq_ok hinfo hkept)) now
  -- the widget is in the frame now, and it is not locked
  have hplaced : (page.draft.slots.put frame (some (w.normalize info.isLogic))).widgetAt frame =
      some (w.normalize info.isLogic) := by
    rw [Slots.widgetAt_put hframe, if_pos rfl]
  have hfree : between.site.IsFree (page.withSlots now
      (page.draft.slots.put frame (some (w.normalize info.isLogic)))).draft frame := by
    intro u hu
    obtain rfl := Option.some.inj (hplaced.symm.trans hu)
    rw [halters.registry]
    show (h.site.registry.widgetType w.typeCode).any WidgetType.locked = false
    rw [hinfo]
    exact hunlocked
  obtain ⟨after, hremove, hedit', halters'⟩ :=
    halters.mirrored.exists_removal halters.canStore halters.get? hplaced hfree later
  have hfiled := Tables.get?_widgetsOf_of_loadVersion (hmirrored.loadVersion_of_get? hpage).1 hframe
  have hrows := RowEdit.removeWidget_of_joinWidget htidy (hfiled.trans hempty) hedit hedit'
  exact ⟨between, after, hjoin, hremove, hmirrored.restamps_of_alters halters halters' hrows⟩

/-- Frames that were exchanged can be exchanged once more. -/
theorem exists_exchange_undone (hmirrored : h.IsMirrored) (htidy : h.env.committed.IsTidy)
    {source target : Int}
    (hrun : (Command.moveWidget code source target).run now h = (.ok a, between))
    (later : Timestamp) : ∃ after,
      (Command.moveWidget code source target).run later between = (.ok a, after) ∧
        (source = target → after = h) ∧ (source ≠ target → h.Restamps code later after) := by
  by_cases hsame : source = target
  · -- an exchange of a frame with itself is recognized before a transaction
    subst hsame
    obtain ⟨_, hmove, rfl⟩ := Command.ok_of_answer hrun
    obtain ⟨haccepted, ⟨-, rfl⟩ | ⟨hne, -⟩⟩ := moveWidget_eq_ok hmove
    · have hidle : Command.Idle between.site (.moveWidget code source source) .done :=
        .moveWidget haccepted
      exact ⟨between, Command.run_of_idle hidle, fun _ => rfl, fun hne => absurd rfl hne⟩
    · exact absurd rfl hne
  · obtain ⟨rfl, haccepted, page, hpage, hsource, htarget, hedit, halters⟩ :=
      hmirrored.alters_of_moveWidget hsame hrun
    -- neither frame holds a locked widget, whichever of the two it holds
    obtain ⟨hfree, hfree'⟩ := Site.isFree_of_acceptExchange hpage haccepted
    have hframes : ∀ frame, (page.draft.slots.exchange source target).containsFrame frame =
        page.draft.slots.containsFrame frame :=
      fun _ => Slots.containsFrame_congr Slots.frameCount_exchange
    have hjudged' : between.site.acceptExchange code source target = .ok () := by
      refine Site.acceptExchange_of_isFree halters.get? ((hframes _).trans hsource)
        ((hframes _).trans htarget) (fun u hu => ?_) fun u hu => ?_
      · rw [Page.withSlots, Slots.widgetAt_exchange hsource htarget, if_neg hsame, if_pos rfl] at hu
        rw [halters.registry]
        exact hfree' u hu
      · rw [Page.withSlots, Slots.widgetAt_exchange hsource htarget, if_pos rfl] at hu
        rw [halters.registry]
        exact hfree u hu
    have hverdict' : (Command.moveWidget code source target).verdict between.site = .ok () :=
      map_eq_ok.2 ⟨_, hjudged', rfl⟩
    obtain ⟨_, after, hback⟩ :=
      Command.exists_run_of_verdict halters.mirrored halters.canStore hverdict' later
    obtain ⟨rfl, -, _, -, -, -, hedit', halters'⟩ :=
      halters.mirrored.alters_of_moveWidget hsame hback
    rw [halters.parkingFrame] at hedit'
    -- the parking frame is no frame of a page, so it is neither of the two
    have hhidden := hmirrored.hidden
    have hnonneg := (Slots.containsFrame_iff.1 hsource).1
    have hnonneg' := (Slots.containsFrame_iff.1 htarget).1
    have hrows := RowEdit.moveWidget_moveWidget htidy (by omega) (by omega)
      (hmirrored.unparked code) hedit hedit'
    exact ⟨after, hback, fun hself => absurd hself hsame,
      fun _ => hmirrored.restamps_of_alters halters halters' hrows⟩

/-- A page that is offline can go online, and be taken offline again. -/
theorem exists_publication_undone (hmirrored : h.IsMirrored) (htidy : h.env.committed.IsTidy)
    (hstore : h.env.CanStore) (hpage : h.site.tree.get? code = some page)
    (hoffline : page.online = none) (now later : Timestamp) : ∃ between after,
      (Command.setPageOnline code).run now h = (.ok (.page (page.published now)), between) ∧
        (Command.setPageOffline code).run later between =
          (.ok (.page (page.restamped now)), after) ∧
        h.Restamps code now after := by
  have hverdict : (Command.setPageOnline code).verdict h.site = .ok () :=
    map_eq_ok.2 ⟨_, Site.draftPage_eq_ok.2 hpage, rfl⟩
  obtain ⟨_, between, hpublish⟩ := Command.exists_run_of_verdict hmirrored hstore hverdict now
  obtain ⟨rfl, hedit, halters⟩ := hmirrored.alters_of_setPageOnline hpage hpublish
  have hverdict' : (Command.setPageOffline code).verdict between.site = .ok () :=
    map_eq_ok.2 ⟨_, Site.draftPage_eq_ok.2 halters.get?, rfl⟩
  obtain ⟨_, after, hhide⟩ :=
    Command.exists_run_of_verdict halters.mirrored halters.canStore hverdict' later
  obtain ⟨rfl, hedit', halters'⟩ :=
    halters.mirrored.alters_of_setPageOffline halters.get? rfl hhide
  have hanswer : (page.published now).unpublished = page.restamped now := by
    rw [Page.restamped, hoffline]
    rfl
  rw [hanswer] at hhide
  have hnone := Tables.loadVersion_eq_none_iff.1
    ((hmirrored.loadVersion_of_get? hpage).2.trans hoffline)
  have hrows := RowEdit.setPageOffline_of_setPageOnline htidy hnone hedit hedit'
  exact ⟨between, after, hpublish, hhide, hmirrored.restamps_of_alters halters halters' hrows⟩

end IsMirrored

end Hosted

-- ════════════════════════════════════════════════════════════════════════
-- Runs
-- ════════════════════════════════════════════════════════════════════════

/-- Where a site opened on an empty store and is its only writer, requests about the contents of a
    page can be taken back, whatever the site was asked for before. As long as tables can be stored,
    a widget of a registered type that is not locked is placed in any free frame and removed again,
    and a page that is offline goes online and offline again. An exchange of frames that succeeded
    succeeds once more. All rows and the site map are those from before, but for the time of the
    last write of the draft; an exchange of a frame with itself does not even change that. -/
theorem content_requests_undo {config : SiteConfig} {r : Registry} {time : Timestamp}
    {env env' : Environment} {site : Site} {steps : List Hosted.Step} {h : Hosted}
    (hvacant : env.IsVacant) (hopen : Site.openOn config r time env = (.ok site, env'))
    (hrun : Hosted.run ⟨env', site⟩ steps = h) (now later : Timestamp) (code : String) :
    (∀ page frame w info, h.env.CanStore → h.site.draftPage code = .ok page →
      page.draft.slots.get frame = .ok none → r.widgetType w.typeCode = some info →
        info.locked = false → ∃ between after,
          (Command.joinWidget code frame w).run now h = (.ok .done, between) ∧
            (Command.removeWidget code frame).run later between = (.ok .done, after) ∧
            h.Restamps code later after) ∧
      (∀ source target a between,
        (Command.moveWidget code source target).run now h = (.ok a, between) → ∃ after,
          (Command.moveWidget code source target).run later between = (.ok a, after) ∧
            (source = target → after = h) ∧
            (source ≠ target → h.Restamps code later after)) ∧
      ∀ page, h.env.CanStore → h.site.draftPage code = .ok page →
        page.publishState = .unpublished → ∃ between after,
          (Command.setPageOnline code).run now h = (.ok (.page (page.published now)), between) ∧
            (Command.setPageOffline code).run later between =
              (.ok (.page (page.restamped now)), after) ∧
            h.Restamps code now after := by
  subst hrun
  obtain ⟨hmirrored, hregistry⟩ := Site.isMirrored_run_of_openOn hvacant hopen steps
  have htidy := Site.isTidy_run_of_openOn hvacant hopen steps
  refine ⟨fun page frame w info hstore hpage hget hinfo hunlocked => ?_,
    fun source target a between hmove => hmirrored.exists_exchange_undone htidy hmove later,
    fun page hstore hpage hstate => ?_⟩
  · simp only [Slots.get, bind_eq_ok, Slots.checkFrame_eq_ok, pure_eq_ok] at hget
    obtain ⟨-, hframe, hempty⟩ := hget
    rw [← hregistry] at hinfo
    exact hmirrored.exists_placement_undone htidy hstore (Site.draftPage_eq_ok.1 hpage) hframe
      hempty hinfo hunlocked now later
  · have hoffline : page.online = none := by
      unfold Page.publishState at hstate
      split at hstate
      · assumption
      · split at hstate <;> cases hstate
    exact hmirrored.exists_publication_undone htidy hstore (Site.draftPage_eq_ok.1 hpage) hoffline
      now later

/-- A page holds one widget with a configuration. Another one is placed next to it and removed, the
    two frames are exchanged twice, and the page goes online and offline again. -/
theorem content_requests_undo_sample :
    let steps : List Hosted.Step :=
      [.request .epoch (.addPage "homepage" "a" "free" (.empty "home" 2)),
        .request .epoch (.joinWidget "a" 1 ⟨"menu", some ⟨.bool true, trivial⟩⟩)]
    let h := Hosted.planted.run steps
    let later : Timestamp := ⟨⟨1970, 1, 2, by decide, by decide⟩, 0, 0, by decide, by decide⟩
    let exchanged := (Command.moveWidget "a" 0 1).run .epoch h
    ∃ page, h.site.draftPage "a" = .ok page ∧
      page.draft.slots.widgetAt 1 = some ⟨"menu", some ⟨.bool true, trivial⟩⟩ ∧
      (∃ between after,
        (Command.joinWidget "a" 0 ⟨"menu", none⟩).run .epoch h = (.ok .done, between) ∧
          (Command.removeWidget "a" 0).run later between = (.ok .done, after) ∧
          h.Restamps "a" later after) ∧
      exchanged.1 = .ok .done ∧
      (∃ after, (Command.moveWidget "a" 0 1).run later exchanged.2 = (.ok .done, after) ∧
        h.Restamps "a" later after) ∧
      ∃ between after,
        (Command.setPageOnline "a").run .epoch h = (.ok (.page (page.published .epoch)), between) ∧
          (Command.setPageOffline "a").run later between =
            (.ok (.page (page.restamped .epoch)), after) ∧
          h.Restamps "a" .epoch after := by
  intro steps h later exchanged
  have hshown : (h.site.tree.get? "a").any (fun page =>
      page.draft.slots.get 0 = .ok none ∧
        page.draft.slots.widgetAt 1 = some ⟨"menu", some ⟨.bool true, trivial⟩⟩ ∧
        page.publishState = .unpublished) = true := by
    decide +kernel
  simp only [Option.any_eq_true, decide_eq_true_eq] at hshown
  obtain ⟨page, hget, hfree, hfilled, hstate⟩ := hshown
  have hpage : h.site.draftPage "a" = .ok page := Site.draftPage_eq_ok.2 hget
  have hstore : h.env.CanStore := .of_memory (by decide +kernel) (by decide +kernel)
  have hexchanged : exchanged.1 = .ok .done := by decide +kernel
  obtain ⟨hremoval, hexchange, hwithdrawal⟩ := content_requests_undo Environment.isVacant_sample
    Site.openOn_sample (rfl : Hosted.planted.run steps = h) .epoch later "a"
  obtain ⟨after, hback, -, hrestamps⟩ := hexchange 0 1 .done exchanged.2 (Prod.ext hexchanged rfl)
  exact ⟨page, hpage, hfilled,
    hremoval page 0 ⟨"menu", none⟩ ⟨false, none, false⟩ hstore hpage hfree rfl rfl,
    hexchanged, ⟨after, hback, hrestamps (by decide)⟩, hwithdrawal page hstore hpage hstate⟩

end Sitemap
