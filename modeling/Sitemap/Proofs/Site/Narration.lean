import Sitemap.Proofs.Site.Redundancy
import Sitemap.Proofs.Tree.Outline

/-!
# What the events tell

A site reports what its requests do. Someone who has the outline of the site map and hears of
every event has the outline of the site map from then on: nothing happens to the hierarchy or
to publication that is not told, and nothing is told that does not happen.

## Main definitions

- `Site.Tells` — a site has become another one, and the events between them tell of it
- `Command.IsSilent` — a request that does nothing to be told of, with its answer

## Main results

- `Hosted.tells_of_addPage`, `Hosted.tells_of_deletePage`, and so on — the events of each
  request
- `Command.tells_of_run` — the step: what a request does is told
- `Hosted.tells_run` — the run
- `events_tell_outline` — the events of a site on a store of its own

## Design notes

A step of a page changes the places of two pages, and one event tells of it. It is enough, as
the other page closes the gap that the first one leaves.
-/

namespace Sitemap

/-- A site has become another one, and the events that it reported meanwhile tell what has
    become of its outline. -/
structure Site.Tells (before after : Site) (events : List Event) : Prop where
  /-- The settings stay. -/
  config : after.config = before.config
  /-- The events are reported, after those from before. -/
  reported : after.reported = before.reported ++ events
  /-- The outline is the one that the events lead to. -/
  outline : after.tree.outline = before.tree.outline.replay events

/-- A request that does nothing to be told of, with its answer. -/
inductive Command.IsSilent (site : Site) : Command → Except Error Answer → Prop where
  /-- The request fails. -/
  | failed {command : Command} {e : Error} : IsSilent site command (.error e)
  /-- The request asks for what is there already. -/
  | redundant {command : Command} {outcome : Except Error Answer}
    (hredundant : command.IsRedundant site) : IsSilent site command outcome
  /-- There is no neighbour to make a step to. -/
  | atEnd {code : String} {up : Bool} {outcome : Except Error Answer}
    (hend : site.AtEnd code up) : IsSilent site (.movePageStep code up) outcome
  /-- The site map is built anew. -/
  | refresh {outcome : Except Error Answer} : IsSilent site .refresh outcome

/-- Where there is room for events, every event is reported. -/
theorem Site.reportAll_eq {site : Site} (hlog : site.config.logCapacity ≠ 0)
    (events : List Event) :
    events.foldl report site = { site with reported := site.reported ++ events } := by
  induction events generalizing site with
  | nil => rw [List.append_nil]; rfl
  | cons event events ih =>
    have hreport : site.report event = { site with reported := site.reported ++ [event] } :=
      if_neg hlog
    have hlater : (site.report event).config.logCapacity ≠ 0 := by rwa [hreport]
    rw [List.foldl_cons, ih hlater, hreport, List.append_assoc]
    rfl

namespace Site.Tells

variable {before between after : Site} {events events' : List Event}

theorem refl (site : Site) : site.Tells site [] :=
  ⟨rfl, (List.append_nil _).symm, rfl⟩

theorem trans (h : before.Tells between events) (h' : between.Tells after events') :
    before.Tells after (events ++ events') where
  config := h'.config.trans h.config
  reported := by rw [h'.reported, h.reported, List.append_assoc]
  outline := by rw [h'.outline, h.outline, Outline.replay_append]

theorem of_reports {site : Site} (hlog : site.config.logCapacity ≠ 0) {tree : Tree}
    (events : List Event) (htree : tree.outline = site.tree.outline.replay events) :
    site.Tells (events.foldl report (site.withTree tree)) events := by
  have hlog' : (site.withTree tree).config.logCapacity ≠ 0 := hlog
  rw [reportAll_eq hlog']
  exact ⟨rfl, rfl, htree⟩

theorem of_report {site : Site} (hlog : site.config.logCapacity ≠ 0) {tree : Tree} {event : Event}
    (htree : tree.outline = site.tree.outline.tell event) :
    site.Tells ((site.withTree tree).report event) [event] :=
  of_reports hlog [event] htree

end Site.Tells

-- ════════════════════════════════════════════════════════════════════════
-- The events of each request
-- ════════════════════════════════════════════════════════════════════════

namespace Hosted

variable {h h' : Hosted} {time : Timestamp} {code : String} {page : Page}

/-- A page is added last among the children of a parent, and is offline. -/
theorem tells_of_addPage (hfollowed : h.IsFollowed) (hlog : h.site.config.logCapacity ≠ 0)
    {parent group : String} {draft : PageVersion}
    (hrun : h.addPage time parent code group draft = (.ok page, h')) :
    h.site.Tells h'.site [.added code parent] := by
  obtain ⟨accepted, t, haccepted, hedit, -, hsite⟩ := addPage_eq_ok hrun
  obtain ⟨-, hnew, -, -, honline, -⟩ := Site.acceptNewPage_spec haccepted
  obtain ⟨rfl, hparent, hfits, -⟩ := hfollowed.fits_add haccepted hedit
  obtain ⟨hcontent, -⟩ := RowEdit.insertVersion_of_addPage honline hedit
  have hoffline : page.online = none := congrArg PageContent.online hcontent
  rw [hsite]
  exact .of_report hlog (Tree.outline_insert hfollowed.follows hfits hparent hnew hoffline)

theorem tells_of_updatePage (hfollowed : h.IsFollowed) (hlog : h.site.config.logCapacity ≠ 0)
    {draft : PageVersion} (hrun : h.updatePage time code draft = (.ok page, h')) :
    h.site.Tells h'.site [.updated code] := by
  obtain ⟨accepted, stored, t, haccepted, -, rfl, -, hsite⟩ := updatePage_eq_ok hrun
  obtain ⟨current, hcurrent, hsame, -⟩ := Site.acceptDraft_spec haccepted
  have hfiled := hfollowed.follows.code_eq hfollowed.ordered hcurrent
  have hcode : accepted.code = code := by rw [hsame, ← hfiled]
  rw [hsite]
  refine .of_report hlog (Tree.outline_edit (p := current) ?_ ?_)
  · rw [← hcurrent, ← hcode]
  · rw [hsame]
    rfl

theorem tells_of_updatePageGroup (hfollowed : h.IsFollowed)
    (hlog : h.site.config.logCapacity ≠ 0) {group : String}
    (hrun : h.updatePageGroup code group = (.ok page, h')) :
    h.site.Tells h'.site [.updated code] := by
  obtain ⟨current, t, hcurrent, -, rfl, -, hsite⟩ := updatePageGroup_eq_ok hrun
  have hcode := hfollowed.follows.code_eq hfollowed.ordered hcurrent
  rw [hsite]
  refine .of_report hlog (Tree.outline_edit (p := current) ?_ rfl)
  rw [← hcurrent, ← hcode]

/-- A page that is online goes offline before it is gone. -/
theorem tells_of_deletePage (hfollowed : h.IsFollowed) (hlog : h.site.config.logCapacity ≠ 0)
    {u : Unit} (hrun : h.deletePage code = (.ok u, h')) :
    ∃ page, h.site.tree.get? code = some page ∧
      h.site.Tells h'.site
        ((if page.isOnline then [.unpublished code] else []) ++ [.deleted code]) := by
  obtain ⟨page, t, haccepted, hedit, -, hsite⟩ := deletePage_eq_ok hrun
  obtain ⟨parent, hpage, hparent, hfits, -⟩ := hfollowed.fits_drop haccepted hedit
  refine ⟨page, hpage, ?_⟩
  rw [hsite]
  refine .of_reports hlog _
    ((Tree.outline_remove hfollowed.follows hpage hparent hfits).trans ?_)
  split
  · rfl
  · rfl

/-- A page moves to where it is below its new parent, or stays where it is. -/
theorem tells_of_movePage (hfollowed : h.IsFollowed) (hlog : h.site.config.logCapacity ≠ 0)
    {newParent : String} (hrun : h.movePage code newParent = (.ok page, h')) :
    ∃ events, h.site.Tells h'.site events := by
  obtain ⟨hordered, hfollows⟩ := hfollowed
  obtain ⟨current, planned, -, ⟨-, -, rfl⟩ | ⟨moved, t, hedit, -, hshown⟩⟩ := movePage_eq_ok hrun
  · exact ⟨_, .refl _⟩
  cases moved with
  | none =>
    rw [hshown.2]
    exact ⟨_, .refl _⟩
  | some plan =>
    obtain ⟨hcode, -, hfits, -⟩ := RowEdit.places_of_movePage hordered hedit
    rw [hshown.2, ← hcode]
    exact ⟨_, .of_report hlog (Tree.outline_applyReparent hfollows hfits)⟩

/-- A page that makes a step is told to be where its neighbour was. -/
theorem tells_of_movePageStep (hfollowed : h.IsFollowed) (hlog : h.site.config.logCapacity ≠ 0)
    {up moved : Bool} (hrun : h.movePageStep code up = (.ok moved, h')) :
    ∃ events, h.site.Tells h'.site events := by
  obtain ⟨hordered, hfollows⟩ := hfollowed
  obtain ⟨swapped, t, hedit, -, hshown⟩ := movePageStep_eq_ok hrun
  cases swapped with
  | none =>
    rw [hshown.2]
    exact ⟨_, .refl _⟩
  | some plan =>
    obtain ⟨hcode, hfits, -⟩ := RowEdit.places_of_swapPositions hordered hedit
    obtain ⟨page, parent, hpage, hparent⟩ :=
      Tree.exists_page_of_applySwap hfollows hordered hfits hcode
    obtain ⟨-, hsite⟩ := hshown
    -- a page that was exchanged is there and has a parent, so the step is reported
    simp only [hpage, hparent, Option.getD_some] at hsite
    rw [hsite]
    exact ⟨_, .of_report hlog
      (Tree.outline_applySwap hfollows hordered hfits hcode hpage hparent)⟩

theorem tells_of_setPageOnline (hlog : h.site.config.logCapacity ≠ 0)
    (hrun : h.setPageOnline time code = (.ok page, h')) :
    h.site.Tells h'.site [.published code] := by
  obtain ⟨current, stamp, t, hcurrent, -, -, -, hsite⟩ := setPageOnline_eq_ok hrun
  rw [hsite]
  exact .of_report hlog (Tree.outline_published hcurrent rfl)

theorem tells_of_setPageOffline (hlog : h.site.config.logCapacity ≠ 0)
    (hrun : h.setPageOffline code = (.ok page, h')) :
    ∃ events, h.site.Tells h'.site events := by
  obtain ⟨current, hcurrent, ⟨-, -, rfl⟩ | ⟨t, -, -, -, hsite⟩⟩ := setPageOffline_eq_ok hrun
  · exact ⟨_, .refl _⟩
  · rw [hsite]
    exact ⟨_, .of_report hlog (Tree.outline_unpublished hcurrent rfl)⟩

/-- The contents of draft frames are changed where the page is. -/
theorem ShowsSlots.tells {stamp : Timestamp} {frames : List Int} {slots : Slots} {t : Tables}
    (hshows : h.ShowsSlots code stamp frames slots t h')
    (hlog : h.site.config.logCapacity ≠ 0) (hpage : h.site.tree.get? code = some page) :
    h.site.Tells h'.site [.widgetsChanged code frames] := by
  rw [hshows.site]
  exact .of_report hlog (Tree.outline_edit hpage rfl)

/-- The site map that is built anew is the one that is shown. -/
theorem tells_of_refresh (hmirrored : h.IsMirrored) {u : Unit}
    (hrun : h.refresh = (.ok u, h')) : h.site.Tells h'.site [] := by
  obtain ⟨pages, hload, rfl⟩ := refresh_eq_ok hrun
  have hshows := (Tables.mirrors_ofPages hmirrored.ordered hload).showsSame hmirrored.mirrors
  exact ⟨rfl, (List.append_nil _).symm,
    Tree.outline_congr hshows.rootCode hshows.children hshows.pages⟩

end Hosted

-- ════════════════════════════════════════════════════════════════════════
-- Steps and runs
-- ════════════════════════════════════════════════════════════════════════

/-- What a request does to the site map is told. -/
theorem Command.tells_of_run {h h' : Hosted} {time : Timestamp} {command : Command}
    {outcome : Except Error Answer} (hmirrored : h.IsMirrored)
    (hlog : h.site.config.logCapacity ≠ 0) (hrun : command.run time h = (outcome, h')) :
    ∃ events, h.site.Tells h'.site events := by
  cases outcome with
  | error e =>
    rw [(refuses_of_run hrun).site]
    exact ⟨_, .refl _⟩
  | ok a =>
  have hfollowed := hmirrored.isFollowed
  cases command with
  | addPage parent code group draft =>
    obtain ⟨_, hact, -⟩ := ok_of_answer hrun
    exact ⟨_, Hosted.tells_of_addPage hfollowed hlog hact⟩
  | updatePage code draft =>
    obtain ⟨_, hact, -⟩ := ok_of_answer hrun
    exact ⟨_, Hosted.tells_of_updatePage hfollowed hlog hact⟩
  | updatePageGroup code group =>
    obtain ⟨_, hact, -⟩ := ok_of_answer hrun
    exact ⟨_, Hosted.tells_of_updatePageGroup hfollowed hlog hact⟩
  | deletePage code =>
    obtain ⟨_, hact, -⟩ := ok_of_answer hrun
    obtain ⟨page, -, htells⟩ := Hosted.tells_of_deletePage hfollowed hlog hact
    exact ⟨_, htells⟩
  | movePage code newParent =>
    obtain ⟨_, hact, -⟩ := ok_of_answer hrun
    exact Hosted.tells_of_movePage hfollowed hlog hact
  | movePageStep code up =>
    obtain ⟨_, hact, -⟩ := ok_of_answer hrun
    exact Hosted.tells_of_movePageStep hfollowed hlog hact
  | setPageOnline code =>
    obtain ⟨_, hact, -⟩ := ok_of_answer hrun
    exact ⟨_, Hosted.tells_of_setPageOnline hlog hact⟩
  | setPageOffline code =>
    obtain ⟨_, hact, -⟩ := ok_of_answer hrun
    exact Hosted.tells_of_setPageOffline hlog hact
  | joinWidget code frame w =>
    obtain ⟨_, hact, -⟩ := ok_of_answer hrun
    obtain ⟨_, page, _, t, -, -, hpage, -, -, hshows⟩ := Hosted.joinWidget_eq_ok hact
    exact ⟨_, hshows.tells hlog hpage⟩
  | moveWidget code source target =>
    obtain ⟨_, hact, -⟩ := ok_of_answer hrun
    obtain ⟨-, ⟨-, rfl⟩ | ⟨-, page, _, t, hpage, -, -, -, hshows⟩⟩ :=
      Hosted.moveWidget_eq_ok hact
    · exact ⟨_, .refl _⟩
    · exact ⟨_, hshows.tells hlog hpage⟩
  | removeWidget code frame =>
    obtain ⟨_, hact, -⟩ := ok_of_answer hrun
    obtain ⟨_, -, ⟨-, rfl⟩ | ⟨_, page, _, t, -, hpage, -, -, hshows⟩⟩ :=
      Hosted.removeWidget_eq_ok hact
    · exact ⟨_, .refl _⟩
    · exact ⟨_, hshows.tells hlog hpage⟩
  | refresh =>
    obtain ⟨_, hact, -⟩ := ok_of_answer hrun
    exact ⟨_, Hosted.tells_of_refresh hmirrored hact⟩

namespace Hosted

variable {h : Hosted}

theorem tells_step (hmirrored : h.IsMirrored) (hlog : h.site.config.logCapacity ≠ 0)
    (step : Step) : ∃ events, h.site.Tells (h.step step).site events := by
  cases step with
  | request time command => exact Command.tells_of_run hmirrored hlog (Prod.ext rfl rfl)
  | failNextCommit => exact ⟨_, .refl _⟩

theorem tells_run (hmirrored : h.IsMirrored) (hlog : h.site.config.logCapacity ≠ 0)
    (steps : List Step) : ∃ events, h.site.Tells (h.run steps).site events := by
  induction steps generalizing h with
  | nil => exact ⟨_, .refl _⟩
  | cons step steps ih =>
    -- the mirror is what makes the next step tell the truth, so it is carried along
    obtain ⟨events, hstep⟩ := tells_step hmirrored hlog step
    obtain ⟨later, hrest⟩ := ih (hmirrored.step step).1 (hstep.config ▸ hlog)
    exact ⟨events ++ later, hstep.trans hrest⟩

end Hosted

/-- A request that does nothing to be told of reports nothing. -/
theorem Command.reported_of_isSilent {h h' : Hosted} {time : Timestamp} {command : Command}
    {outcome : Except Error Answer} (hmirrored : h.IsMirrored)
    (hrooted : h.env.committed.places.IsRooted) (hrun : command.run time h = (outcome, h'))
    (hsilent : command.IsSilent h.site outcome) : h'.site.reported = h.site.reported := by
  cases hsilent with
  | failed => rw [(refuses_of_run hrun).site]
  | redundant hredundant =>
    obtain ⟨a, hidle⟩ := run_of_isRedundant hmirrored hrooted hredundant time
    rw [hidle] at hrun
    cases hrun
    rfl
  | atEnd hend =>
    rw [run_of_atEnd hmirrored hend, Hosted.recommit] at hrun
    split at hrun
    · cases hrun
      rfl
    · cases hrun
      rfl
  | refresh =>
    cases outcome with
    | error e => rw [(refuses_of_run hrun).site]
    | ok a =>
      obtain ⟨_, hact, -⟩ := ok_of_answer hrun
      rw [(Hosted.tells_of_refresh hmirrored hact).reported, List.append_nil]

/-- The events of a site that opened on an empty store and is its only writer tell everything of
    its outline. Whoever replays them on the outline of the site map at opening has the outline of
    the site map: its pages, the parent and the position of each of them, and which of them are
    online. Requests that fail, that ask for what is there already, that find no neighbour to make
    a step to, or that only read, report nothing. -/
theorem events_tell_outline {config : SiteConfig} {r : Registry} {time : Timestamp}
    {env env' : Environment} {site : Site} {steps : List Hosted.Step} {h : Hosted}
    (hvacant : env.IsVacant) (hlog : config.logCapacity ≠ 0)
    (hopen : Site.openOn config r time env = (.ok site, env'))
    (hrun : Hosted.run ⟨env', site⟩ steps = h) :
    site.tree.outline.replay h.site.reported = h.site.tree.outline ∧
      (site.tree.outline.replay h.site.reported).Describes h.site.tree ∧
      ∀ (now : Timestamp) (command : Command) (outcome : Except Error Answer) (after : Hosted),
        command.run now h = (outcome, after) → command.IsSilent h.site outcome →
          after.site.reported = h.site.reported := by
  subst hrun
  have hrooted := Site.isRooted_run_of_openOn hvacant hopen steps
  obtain ⟨hmirrored, -⟩ := Site.isMirrored_run_of_openOn hvacant hopen steps
  have hopened : (Hosted.mk env' site).IsMirrored :=
    (Site.isMirrored_of_openOn hvacant.isWellFormed hopen).1
  -- a site that has just opened has reported nothing
  have hfresh : site.config = config ∧ site.reported = [] := by
    rcases Site.opened_of_openOn hopen with
      ⟨pages, -, -, rfl, -⟩ | ⟨seed, page, stored, t, -, -, -, -, -, rfl⟩
    · exact ⟨rfl, rfl⟩
    · exact ⟨rfl, rfl⟩
  obtain ⟨hconfig, hnone⟩ := hfresh
  obtain ⟨events, htells⟩ := Hosted.tells_run hopened (hconfig ▸ hlog) steps
  have hreported : (Hosted.run ⟨env', site⟩ steps).site.reported = events := by
    rw [htells.reported, hnone, List.nil_append]
  rw [hreported, ← htells.outline]
  refine ⟨rfl, hmirrored.mirrors.follows.describes_outline hrooted, ?_⟩
  intro now command outcome after hanswer hsilent
  rw [← hreported]
  exact Command.reported_of_isSilent hmirrored hrooted hanswer hsilent

/-- A page is added and goes online, another one is added and moves below it, and the first one is
    asked to make a step, for which it has no neighbour then. -/
theorem events_tell_outline_sample :
    let h := Hosted.planted.run
      [.request .epoch (.addPage "homepage" "a" "free" (.empty "home" 2)),
        .request .epoch (.setPageOnline "a"),
        .request .epoch (.addPage "homepage" "b" "free" (.empty "home" 2)),
        .request .epoch (.movePage "b" "a")]
    let step := (Command.movePageStep "a" false).run .epoch h
    let told : List Event := [.added "a" "homepage", .published "a", .added "b" "homepage",
      .moved "b" "a" 1]
    (Hosted.planted.site.tree.outline.replay told).Describes h.site.tree ∧
      step.2.site.reported = told := by
  intro h step told
  have htold : h.site.reported = told := by decide +kernel
  obtain ⟨hreplayed, hdescribes, hsilent⟩ := events_tell_outline Environment.isVacant_sample
    (by decide) Site.openOn_sample (rfl : _ = h)
  rw [htold] at hreplayed
  -- the events say which children are left
  have hlast : (h.site.tree.outline.children "homepage").getLast? = some "a" := by
    rw [← hreplayed]
    decide +kernel
  refine ⟨htold ▸ hdescribes, ?_⟩
  rw [← htold]
  exact hsilent .epoch (.movePageStep "a" false) step.1 step.2 rfl (.atEnd (.last hlast))

end Sitemap
