import Sitemap.Proofs.Rows.Fitting
import Sitemap.Proofs.Site.NormalForm
import Sitemap.Proofs.Site.Restamping

/-!
# Drafts that are stored once more

An editor who reads a draft and stores it as it is changes nothing but the time of the last write.
The checks accept every draft that a site shows, as it is: a version in normal form is a fixed point
of them, whatever its widget types are registered with. The widgets of the draft are all dropped and
stored anew, so it matters, too, that there are none but those that the draft shows.

## Main definitions

- `Hosted.IsSettled` — a site that shows versions in normal form and all widgets of drafts

## Main results

- `Site.acceptVersion_of_isNormal` — a version in normal form is accepted as it is
- `Command.Effect.draftsFit`, `Hosted.IsSettled.step` — the step: a request keeps a site settled
- `Site.isSettled_run_of_openOn` — the run
- `resaving_changes_nothing` — drafts that are read and stored once more
-/

namespace Sitemap

-- ════════════════════════════════════════════════════════════════════════
-- Fixed points of the checks
-- ════════════════════════════════════════════════════════════════════════

/-- The rows keep the configuration of a widget in normal form. -/
theorem Widget.IsNormal.keepsConfig {r : Registry} {w : Widget} (h : w.IsNormal r) :
    w.KeepsConfig r := by
  refine ⟨h.notNull, fun hlogic => ?_⟩
  obtain ⟨info, hinfo, hlogic⟩ := (Option.any_eq_true _ _).1 hlogic
  exact h.logic info hinfo hlogic

/-- Versions in normal form are stored without loss. -/
theorem PageVersion.IsNormal.isStorable {r : Registry} {v : PageVersion} (h : v.IsNormal r) :
    v.IsStorable r where
  frames := h.frames
  widgets frame w hw := Tables.storedWidget_eq_self_iff.2 (h.widgets frame w hw).keepsConfig

/-- A stamp does not count as a change. -/
theorem Page.publishState_restamped (p : Page) (time : Timestamp) :
    (p.restamped time).publishState = p.publishState :=
  rfl

namespace Site

variable {site : Site} {frame : Int}

/-- A widget in normal form is not reconfigured: if it carries a configuration of its own, then
    that is the one that applies to it. -/
theorem not_isReconfigured_of_isNormal {w : Widget} {info : WidgetType}
    (h : w.IsNormal site.registry) (hinfo : site.registry.widgetType w.typeCode = some info) :
    ¬ IsReconfigured info w := by
  rintro ⟨hlocked, hconfigured, hdiffers⟩
  obtain ⟨config, hconfig, -⟩ := (Option.any_eq_true _ _).1 hconfigured
  have happlies := h.locked info hinfo hlocked
  rw [Widget.effectiveConfig, hconfig] at happlies
  rw [hconfig] at hdiffers
  exact hdiffers happlies

/-- A widget in normal form is accepted as it is. -/
theorem acceptWidget_of_isNormal {w : Widget} (h : w.IsNormal site.registry) :
    site.acceptWidget frame w = .ok w := by
  obtain ⟨info, hinfo⟩ := Option.isSome_iff_exists.1 h.known
  have haccepted : site.acceptWidget frame w = .ok (w.normalize info.isLogic) :=
    acceptWidget_eq_ok hinfo (not_isReconfigured_of_isNormal h hinfo)
  have hstored := Tables.storedWidget_eq_self_iff.2 h.keepsConfig
  rw [eq_storedWidget_of_acceptWidget haccepted, hstored] at haccepted
  exact haccepted

/-- Widgets in normal form are accepted as they are, from any frame on. -/
theorem acceptSlots_of_isNormal {slots : List (Option Widget)} (first : Nat)
    (h : ∀ w, some w ∈ slots → w.IsNormal site.registry) :
    site.acceptSlots first slots = .ok slots := by
  induction slots generalizing first with
  | nil => rfl
  | cons slot slots ih =>
    have hrest := ih (first + 1) fun w hw => h w (List.mem_cons_of_mem _ hw)
    cases slot with
    | none =>
      simp only [acceptSlots, bind_eq_ok, pure_eq_ok]
      exact ⟨slots, hrest, rfl⟩
    | some w =>
      simp only [acceptSlots, bind_eq_ok, pure_eq_ok]
      exact ⟨w, acceptWidget_of_isNormal (h w List.mem_cons_self), slots, hrest, rfl⟩

/-- A version in normal form is accepted as it is. -/
theorem acceptVersion_of_isNormal {v : PageVersion} (h : v.IsNormal site.registry) :
    site.acceptVersion v = .ok v := by
  have hslots : site.acceptSlots 0 v.slots.toList = .ok v.slots.toList := by
    refine acceptSlots_of_isNormal 0 fun w hw => ?_
    obtain ⟨i, hi⟩ := List.mem_iff_getElem?.1 hw
    refine h.widgets i w ?_
    rw [Slots.widgetAt_natCast, hi]
    rfl
  unfold acceptVersion
  rw [h.frames]
  dsimp only
  rw [if_neg (not_not.2 rfl), hslots]
  rfl

/-- A version keeps its own locked widgets. -/
theorem checkLockedKept_self (site : Site) (v : PageVersion) :
    site.checkLockedKept v v = .ok () := by
  unfold checkLockedKept
  dsimp only
  split
  · next frame w hlost =>
    have hplaced := Slots.mem_occupied_iff.1 (List.mem_of_find?_eq_some hlost)
    have hkeeps : Keeps v.slots frame w := by
      unfold Keeps
      rw [hplaced]
      exact .refl w
    have hnot := List.find?_some hlost
    simp [hkeeps] at hnot
  · rfl

/-- A draft in normal form is accepted in its own place. -/
theorem acceptDraft_self {code : String} {page : Page} (hpage : site.tree.get? code = some page)
    (h : page.draft.IsNormal site.registry) : site.acceptDraft code page.draft = .ok page := by
  simp only [acceptDraft, bind_eq_ok, draftPage_eq_ok, pure_eq_ok]
  exact ⟨page, hpage, page.draft, acceptVersion_of_isNormal h, (), checkLockedKept_self site _, rfl⟩

end Site

-- ════════════════════════════════════════════════════════════════════════
-- Settled sites
-- ════════════════════════════════════════════════════════════════════════

/-- A request puts widgets in frames only that the model of their page has. -/
theorem Command.Effect.draftsFit {h h' : Hosted} {time : Timestamp} {command : Command}
    {outcome : Except Error Answer} (heffect : Effect h h' time command outcome)
    (hmirrored : h.IsMirrored) (hfit : h.env.committed.DraftsFit h.site.registry) :
    h'.env.committed.DraftsFit h.site.registry := by
  -- the frames that a page shows are those of the model of its draft
  have hframes : ∀ {code page frame}, h.site.tree.get? code = some page →
      page.draft.slots.containsFrame frame = true →
      ∀ row, h.env.committed.metadataOf .draft code = some row →
        h.site.registry.HasFrame row.model frame := fun hpage hframe _ hrow =>
    (Tables.hasFrame_iff_of_loadVersion (hmirrored.loadVersion_of_get? hpage).1 hrow).2 hframe
  cases heffect with
  | kept hkeeps =>
    rw [hkeeps.committed]
    exact hfit
  | refreshed _ henv =>
    rw [henv]
    exact hfit
  | added haccepted hedit hcommits =>
    obtain ⟨-, -, -, -, honline, hversion⟩ := Site.acceptNewPage_spec haccepted
    rw [hcommits.env.committed]
    exact hfit.addPage hmirrored.linked honline (Site.isStorable_of_acceptVersion hversion).frames
      hedit
  | updated haccepted hedit hcommits =>
    obtain ⟨_, -, -, hversion⟩ := Site.acceptDraft_spec haccepted
    rw [hcommits.env.committed]
    exact hfit.updatePage (Site.isStorable_of_acceptVersion hversion).frames hedit
  | regrouped _ hedit hcommits =>
    obtain ⟨-, rfl⟩ := RowEdit.pages_of_updatePageGroup hedit
    rw [hcommits.env.committed]
    exact hfit.of_editions rfl rfl
  | deleted _ hedit hcommits =>
    rw [hcommits.env.committed]
    exact hfit.deletePage hedit
  | stayed _ hedit hcommits | moved hedit hcommits =>
    obtain ⟨hmetadata, hwidgets⟩ := RowEdit.editions_of_movePage hedit
    rw [hcommits.env.committed]
    exact hfit.of_editions hmetadata hwidgets
  | unswapped hedit hcommits | swapped hedit hcommits =>
    obtain ⟨hmetadata, hwidgets⟩ := RowEdit.editions_of_swapPositions hedit
    rw [hcommits.env.committed]
    exact hfit.of_editions hmetadata hwidgets
  | published hedit hcommits =>
    rw [hcommits.env.committed]
    exact hfit.setPageOnline hedit
  | unpublished _ hedit hcommits =>
    rw [hcommits.env.committed]
    exact hfit.setPageOffline hedit
  | joined hpage _ hframe hedit hcommits =>
    rw [hcommits.env.committed]
    exact hfit.joinWidget (hframes hpage hframe) hedit
  | @exchanged code source target stamp page t hpage _ hsource htarget hedit hcommits =>
    have hhidden := hmirrored.hidden
    have hnonneg := (Slots.containsFrame_iff.1 hsource).1
    have hnonneg' := (Slots.containsFrame_iff.1 htarget).1
    rw [hcommits.env.committed]
    exact hfit.moveWidget (by omega) (by omega) (hmirrored.unparked code)
      (fun row hrow => ⟨hframes hpage hsource row hrow, hframes hpage htarget row hrow⟩) hedit
  | removed _ _ hedit hcommits =>
    rw [hcommits.env.committed]
    exact hfit.removeWidget hedit

namespace Hosted

/-- A site mirrors the rows, shows versions in normal form only, and shows all widgets that are
    stored for drafts. -/
structure IsSettled (h : Hosted) : Prop where
  /-- The site map mirrors the rows. -/
  mirrored : h.IsMirrored
  /-- Both versions of every page are in normal form. -/
  normal : ∀ code k, h.site.tree.contents code = some k → k.IsNormal h.site.registry
  /-- No widget of a draft is in a frame that its model does not have. -/
  fits : h.env.committed.DraftsFit h.site.registry

namespace IsSettled

variable {h : Hosted} {code : String} {page : Page}

/-- A step keeps a site settled. -/
theorem step (hsettled : h.IsSettled) (step : Step) : (h.step step).IsSettled := by
  obtain ⟨hmirrored, hnormal, hfit⟩ := hsettled
  obtain ⟨hmirrored', hregistry⟩ := hmirrored.step step
  cases step with
  | request time command =>
    have heffect := Command.effect_of_run (Prod.ext rfl rfl : command.run time h = (_, _))
    refine ⟨hmirrored', fun code k hk => ?_, ?_⟩
    · rw [hregistry]
      exact (heffect.revises hmirrored code).isNormal (hnormal code) k hk
    · rw [hregistry]
      exact heffect.draftsFit hmirrored hfit
  | failNextCommit => exact ⟨hmirrored', hnormal, hfit⟩

theorem run (hsettled : h.IsSettled) (steps : List Step) : (h.run steps).IsSettled := by
  induction steps generalizing h with
  | nil => exact hsettled
  | cons step steps ih => exact ih (hsettled.step step)

/-- The draft of a page can be stored as it is, and gets a stamp. -/
theorem exists_resaving (hsettled : h.IsSettled) (htidy : h.env.committed.IsTidy)
    (hstore : h.env.CanStore) (hpage : h.site.tree.get? code = some page) (now : Timestamp) :
    ∃ after, (Command.updatePage code page.draft).run now h =
        (.ok (.page (page.restamped now)), after) ∧
      h.Restamps code now after ∧ after.site.tree.get? code = some (page.restamped now) := by
  have hmirrored := hsettled.mirrored
  have hnormal := (hsettled.normal code _ (Tree.contents_of_get? hpage)).draft
  have hjudged := Site.acceptDraft_self hpage hnormal
  have hverdict : (Command.updatePage code page.draft).verdict h.site = .ok () :=
    map_eq_ok.2 ⟨_, hjudged, rfl⟩
  obtain ⟨_, after, hrun⟩ := Command.exists_run_of_verdict hmirrored hstore hverdict now
  obtain ⟨hmirrored', hregistry⟩ := hmirrored.of_run hrun
  obtain ⟨accepted, stored, t, haccepted, hedit, hcommits, rfl⟩ := Command.updated_of_run hrun
  obtain rfl := Except.ok.inj (hjudged.symm.trans haccepted)
  obtain ⟨rfl, -⟩ := RowEdit.touches_of_updatePage hedit
  obtain ⟨rfl, -⟩ := hmirrored.shows hpage
  -- all widgets that were stored are shown, so they are all stored once more
  have hload := (hmirrored.loadVersion_of_get? hpage).1
  have hrows := RowEdit.updatePage_of_stored htidy hnormal.isStorable
    (hmirrored.row_of_get? hpage) (Tables.loadVersion_eq_some_iff.1 hload).1
    ((hsettled.fits page.code).get?_widgetsOf hload) hedit
  rw [← hcommits.env.committed] at hrows
  have hrestamps : h.Restamps page.code now after := by
    refine hmirrored.restamps hmirrored' hregistry ?_ hrows
    rw [hcommits.tree]
    rfl
  refine ⟨after, hrun, hrestamps, ?_⟩
  rw [hrestamps.tree, Tree.get?_edit, if_pos rfl, hpage]
  rfl

end IsSettled

end Hosted

-- ════════════════════════════════════════════════════════════════════════
-- Runs
-- ════════════════════════════════════════════════════════════════════════

/-- A site that opens on an empty store is settled. -/
theorem Site.isSettled_of_openOn {config : SiteConfig} {r : Registry} {time : Timestamp}
    {env env' : Environment} {site : Site} (hvacant : env.IsVacant)
    (hopen : Site.openOn config r time env = (.ok site, env')) :
    (Hosted.mk env' site).IsSettled := by
  obtain ⟨hmirrored, hregistry⟩ := Site.isMirrored_of_openOn hvacant.isWellFormed hopen
  obtain rfl : site.registry = r := hregistry
  refine ⟨hmirrored, fun code k hk => ?_, ?_⟩
  · obtain ⟨seed, root, hroot, rfl⟩ := Site.contents_of_openOn hvacant.pages hopen hk
    exact ⟨(RootSeed.isNormal_page hroot).stamped time, fun _ hv => nomatch hv⟩
  · have hfit : env.committed.DraftsFit site.registry := by
      rw [hvacant.committed]
      exact Tables.draftsFit_empty _
    rcases Site.opened_of_openOn hopen with
      ⟨pages, -, rfl, -⟩ | ⟨seed, root, stored, t, -, -, hroot, hedit, hcommits, -⟩
    · exact hfit
    · obtain ⟨-, -, honline, hstorable⟩ := RootSeed.page_spec hroot
      have hlinked : env.committed.IsLinked :=
        Tables.checkReferences_eq_ok.1 hvacant.isWellFormed.checked
      show env'.committed.DraftsFit _
      rw [hcommits.committed]
      exact hfit.addPage hlinked honline hstorable.frames hedit

/-- A site that opened on an empty store is settled after any run. -/
theorem Site.isSettled_run_of_openOn {config : SiteConfig} {r : Registry} {time : Timestamp}
    {env env' : Environment} {site : Site} (hvacant : env.IsVacant)
    (hopen : Site.openOn config r time env = (.ok site, env')) (steps : List Hosted.Step) :
    (Hosted.run ⟨env', site⟩ steps).IsSettled :=
  (Site.isSettled_of_openOn hvacant hopen).run steps

/-- Where a site opened on an empty store and is its only writer, a draft that is read can be stored
    as it is, whatever the site was asked for before and whatever its widget types are registered
    with. The checks accept it unchanged. As long as tables can be stored, the request succeeds, and
    all rows and the site map stay, but for the time of the last write of that draft. The page is as
    published as it was. -/
theorem resaving_changes_nothing {config : SiteConfig} {r : Registry} {time : Timestamp}
    {env env' : Environment} {site : Site} {steps : List Hosted.Step} {h : Hosted}
    (hvacant : env.IsVacant) (hopen : Site.openOn config r time env = (.ok site, env'))
    (hrun : Hosted.run ⟨env', site⟩ steps = h) {code : String} {page : Page}
    (hpage : h.site.draftPage code = .ok page) :
    h.site.acceptVersion page.draft = .ok page.draft ∧
      (h.env.CanStore → ∀ now, ∃ after,
        (Command.updatePage code page.draft).run now h =
          (.ok (.page (page.restamped now)), after) ∧
        h.Restamps code now after ∧
        after.site.draftPage code = .ok (page.restamped now) ∧
        (page.restamped now).publishState = page.publishState) := by
  subst hrun
  have hget := Site.draftPage_eq_ok.1 hpage
  have hsettled := Site.isSettled_run_of_openOn hvacant hopen steps
  have htidy := Site.isTidy_run_of_openOn hvacant hopen steps
  have hnormal := (hsettled.normal code _ (Tree.contents_of_get? hget)).draft
  refine ⟨Site.acceptVersion_of_isNormal hnormal, fun hstore now => ?_⟩
  obtain ⟨after, hresaved, hrestamps, hshown⟩ := hsettled.exists_resaving htidy hstore hget now
  exact ⟨after, hresaved, hrestamps, Site.draftPage_eq_ok.2 hshown,
    Page.publishState_restamped page now⟩

/-- A page holds a widget of a locked type, which was placed with an explicit `null`, and one with a
    configuration. It went online before the second one was placed, so its draft differs. -/
theorem resaving_changes_nothing_sample :
    let steps : List Hosted.Step :=
      [.request .epoch (.addPage "homepage" "a" "free" (.empty "home" 2)),
        .request .epoch (.joinWidget "a" 0 ⟨"logo", some .null⟩),
        .request .epoch (.setPageOnline "a"),
        .request .epoch (.joinWidget "a" 1 ⟨"menu", some ⟨.bool true, trivial⟩⟩)]
    let h := Hosted.planted.run steps
    let now : Timestamp := ⟨⟨1970, 1, 2, by decide, by decide⟩, 0, 0, by decide, by decide⟩
    ∃ page, h.site.draftPage "a" = .ok page ∧
      page.draft.slots.widgetAt 0 = some ⟨"logo", none⟩ ∧ page.publishState = .dirty ∧
      h.site.acceptVersion page.draft = .ok page.draft ∧
      ∃ after, (Command.updatePage "a" page.draft).run now h =
          (.ok (.page (page.restamped now)), after) ∧
        h.Restamps "a" now after ∧
        after.site.draftPage "a" = .ok (page.restamped now) ∧
        (page.restamped now).publishState = page.publishState := by
  intro steps h now
  have hshown : (h.site.tree.get? "a").any (fun page =>
      page.draft.slots.widgetAt 0 = some ⟨"logo", none⟩ ∧ page.publishState = .dirty) = true := by
    decide +kernel
  simp only [Option.any_eq_true, decide_eq_true_eq] at hshown
  obtain ⟨page, hget, hfilled, hstate⟩ := hshown
  have hpage : h.site.draftPage "a" = .ok page := Site.draftPage_eq_ok.2 hget
  have hstore : h.env.CanStore := .of_memory (by decide +kernel) (by decide +kernel)
  obtain ⟨haccepted, hresaving⟩ := resaving_changes_nothing Environment.isVacant_sample
    Site.openOn_sample (rfl : Hosted.planted.run steps = h) hpage
  exact ⟨page, hpage, hfilled, hstate, haccepted, hresaving hstore now⟩

end Sitemap
