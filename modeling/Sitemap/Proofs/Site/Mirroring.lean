import Sitemap.Proofs.Site.Shape

/-!
# Site maps that mirror the rows

Every request is carried out twice: by statements on the rows, and by an edit of the site map
in memory. A site that is the only writer of its environment never needs to be refreshed, since
the two always come to the same pages.

## Main definitions

- `Environment.IsWellFormed` — rows that a site map can mirror
- `Environment.IsVacant` — no rows at all
- `Hosted.IsMirrored` — such rows with a site map that mirrors them

## Main results

- `Site.isMirrored_of_openOn` — a site that opens on well-formed rows mirrors them
- `Command.Effect.contents` — the step: a request keeps what is shown
- `Command.Effect.answers` — an answered page is the one that is shown
- `run_mirrors_rows` — the run

## Design notes

Rows may hold widgets in frames that the model of their page does not have; no site map shows
them. Only the parking frame must be free: a widget that is left there would be taken for the
one that is parked.
-/

namespace Sitemap

/-- Rows whose references lead somewhere, filed under their codes and in order, on an
    environment whose parking frame is no frame of a page and holds no widget. -/
structure Environment.IsWellFormed (env : Environment) : Prop where
  checked : env.committed.checkReferences = .ok ()
  filed : ∀ code row, env.committed.pages.get? code = some row → row.code = code
  seats : env.committed.places.seat.InOrder
  unparked : env.committed.IsUnparked env.parkingFrame
  hidden : env.parkingFrame < 0

/-- An environment without rows, whose parking frame is no frame of a page. -/
structure Environment.IsVacant (env : Environment) : Prop where
  /-- There are no rows. -/
  committed : env.committed = .empty
  /-- The parking frame is no frame of a page. -/
  hidden : env.parkingFrame < 0

/-- The rows are well-formed, and the site map mirrors them. -/
structure Hosted.IsMirrored (h : Hosted) : Prop where
  linked : h.env.committed.IsLinked
  ordered : h.env.committed.places.IsOrdered
  unparked : h.env.committed.IsUnparked h.env.parkingFrame
  hidden : h.env.parkingFrame < 0
  mirrors : h.site.tree.Mirrors h.site.registry h.env.committed

/-- An environment is built with the tables that it is given, and its parking frame is no frame
    of a page. -/
theorem Environment.of_build {parkingFrame : Int} {storage : Storage} {tables : Tables}
    {env : Environment} (h : build parkingFrame storage tables = .ok env) :
    env.committed = tables ∧ env.parkingFrame < 0 := by
  unfold build at h
  split at h
  · cases h
  · next hframe =>
    cases h
    exact ⟨rfl, Int.not_le.1 hframe⟩

/-- The parking frame of an environment that was opened is no frame of a page. -/
theorem Environment.parkingFrame_of_openWith {parkingFrame : Int} {storage storage' : Storage}
    {env : Environment} (h : openWith parkingFrame storage = (.ok env, storage')) :
    env.parkingFrame < 0 := by
  unfold openWith at h
  split at h
  · exact (of_build (Prod.mk.inj h).1).2
  · split at h
    · cases h
    · split at h
      · cases h
      · exact (of_build (Prod.mk.inj h).1).2

namespace Tree

variable {t t' : Tree} {r : Registry} {rows : Tables}

/-- Site maps that mirror the same rows show the same. -/
theorem Mirrors.showsSame (h : t.Mirrors r rows) (h' : t'.Mirrors r rows) : t.ShowsSame t' := by
  have hplaces : t.places = t'.places := h.follows.places.trans h'.follows.places.symm
  have hcontents : t.contents = t'.contents := h.contents.trans h'.contents.symm
  obtain ⟨hroot, hchildren⟩ := h'.follows.unique h.follows
  exact ⟨pages_eq hplaces hcontents, hroot, hchildren⟩

end Tree

-- ════════════════════════════════════════════════════════════════════════
-- One request
-- ════════════════════════════════════════════════════════════════════════

namespace Command

variable {h h' : Hosted} {time : Timestamp} {command : Command}
  {outcome : Except Error Answer}

/-- A request keeps the parking frame and the registry. -/
theorem Effect.settings (heffect : Effect h h' time command outcome) :
    h'.env.parkingFrame = h.env.parkingFrame ∧ h'.site.registry = h.site.registry := by
  cases heffect with
  | kept hkeeps => exact ⟨hkeeps.parkingFrame, hkeeps.registry⟩
  | refreshed _ henv _ hregistry => exact ⟨by rw [henv], hregistry⟩
  | added _ _ hcommits | updated _ _ hcommits | regrouped _ _ hcommits | deleted _ _ hcommits
  | stayed _ _ hcommits | moved _ hcommits | unswapped _ hcommits | swapped _ hcommits
  | published _ hcommits | unpublished _ _ hcommits | joined _ _ _ _ hcommits
  | exchanged _ _ _ _ _ hcommits | removed _ _ _ hcommits =>
    exact ⟨hcommits.env.parkingFrame, hcommits.registry⟩

/-- A request keeps the rows linked. -/
theorem Effect.linked (heffect : Effect h h' time command outcome)
    (hlinked : h.env.committed.IsLinked) : h'.env.committed.IsLinked := by
  cases heffect with
  | kept hkeeps => rwa [hkeeps.committed]
  | refreshed _ henv => rwa [henv]
  | added _ _ hcommits | updated _ _ hcommits | regrouped _ _ hcommits | deleted _ _ hcommits
  | stayed _ _ hcommits | moved _ hcommits | unswapped _ hcommits | swapped _ hcommits
  | published _ hcommits | unpublished _ _ hcommits | joined _ _ _ _ hcommits
  | exchanged _ _ _ _ _ hcommits | removed _ _ _ hcommits =>
    rw [hcommits.env.committed]
    exact Tables.checkReferences_eq_ok.1 hcommits.env.checked

/-- A request changes what the site map shows as it changes what the rows have, and leaves no
    widget in the parking frame. -/
theorem Effect.contents (heffect : Effect h h' time command outcome) (hmirrored : h.IsMirrored) :
    h'.site.tree.contents = h'.env.committed.contents h.site.registry ∧
      h'.env.committed.IsUnparked h.env.parkingFrame := by
  obtain ⟨hlinked, hordered, hfree, hhidden, hfollows, hcontents⟩ := hmirrored
  cases heffect with
  | kept hkeeps =>
    rw [hkeeps.committed, hkeeps.tree]
    exact ⟨hcontents, hfree⟩
  | refreshed hload henv htree =>
    rw [henv, htree]
    exact ⟨(Tables.mirrors_ofPages hordered hload).contents, hfree⟩
  | @added parent code group draft page stored t haccepted hedit hcommits =>
    obtain ⟨-, -, -, -, honline, hversion⟩ := Site.acceptNewPage_spec haccepted
    have hrows := RowEdit.contents_of_addPage hlinked honline
      (Site.isStorable_of_acceptVersion hversion) hedit
    have hcode : stored.code = page.code := by rw [(RowEdit.pages_of_addPage hedit).2.2]
    rw [hcommits.env.committed, hcommits.tree, hrows, Tree.contents_insert, hcontents, hcode]
    exact ⟨rfl, RowEdit.isUnparked_of_addPage honline hhidden hfree hedit⟩
  | @updated code draft page stored t haccepted hedit hcommits =>
    obtain ⟨current, hcurrent, hpage, hversion⟩ := Site.acceptDraft_spec haccepted
    have hrows := RowEdit.contents_of_updatePage hlinked hordered
      (Site.isStorable_of_acceptVersion hversion) hedit
    have hcode : page.code = code := by
      have hcurrentCode := hfollows.code_eq hordered hcurrent
      rw [hpage]
      exact hcurrentCode
    have hshown := Tree.contents_of_get? hcurrent
    rw [hcommits.env.committed, hcommits.tree, hrows, Tree.contents_replace, hcontents]
    rw [hcontents, ← hcode] at hshown
    refine ⟨Contents.change_congr hshown ?_, RowEdit.isUnparked_of_updatePage hhidden hfree hedit⟩
    rw [hpage]
    rfl
  | @regrouped code group page t u hpage hedit hcommits =>
    obtain ⟨hrows, hunparked⟩ := RowEdit.contents_of_updatePageGroup hedit
    have hshown := Tree.contents_of_get? hpage
    have hcode := hfollows.code_eq hordered hpage
    rw [hcommits.env.committed, hcommits.tree, hrows, Tree.contents_replace, hcontents, hcode]
    rw [hcontents] at hshown
    exact ⟨Contents.change_congr hshown rfl, hunparked hfree⟩
  | @deleted code page t u haccepted hedit hcommits =>
    obtain ⟨hpage, parent, hparent⟩ := Site.acceptDeletion_spec haccepted
    obtain ⟨hrows, hunparked⟩ := RowEdit.contents_of_deletePage hedit
    rw [hcommits.env.committed, hcommits.tree, hrows, Tree.contents_remove hpage hparent,
      hcontents]
    exact ⟨rfl, hunparked hfree⟩
  | stayed hpage hedit hcommits =>
    obtain ⟨hrows, hunparked⟩ := RowEdit.contents_of_movePage hedit
    rw [hcommits.env.committed, hcommits.tree, hrows]
    exact ⟨hcontents, hunparked hfree⟩
  | moved hedit hcommits =>
    obtain ⟨hrows, hunparked⟩ := RowEdit.contents_of_movePage hedit
    rw [hcommits.env.committed, hcommits.tree, hrows, Tree.contents_applyReparent]
    exact ⟨hcontents, hunparked hfree⟩
  | unswapped hedit hcommits =>
    obtain ⟨hrows, hunparked⟩ := RowEdit.contents_of_swapPositions hedit
    rw [hcommits.env.committed, hcommits.tree, hrows]
    exact ⟨hcontents, hunparked hfree⟩
  | swapped hedit hcommits =>
    obtain ⟨hrows, hunparked⟩ := RowEdit.contents_of_swapPositions hedit
    obtain ⟨-, hfits, -⟩ := RowEdit.places_of_swapPositions hordered hedit
    rw [hcommits.env.committed, hcommits.tree, hrows,
      Tree.contents_applySwap _ _ hfits.ne_of_swap]
    exact ⟨hcontents, hunparked hfree⟩
  | @published code stamp page t hedit hcommits hpage =>
    obtain ⟨rfl, hrows, hunparked⟩ := RowEdit.contents_of_setPageOnline hedit
    have hedited : (h.site.tree.edit code fun p => p.published stamp).contents = _ :=
      Tree.contents_edit (g := fun k => k.published stamp) fun _ => rfl
    rw [hcommits.env.committed, hcommits.tree, hrows, hedited, hcontents]
    exact ⟨rfl, hunparked hfree⟩
  | @unpublished code page t u hpage hedit hcommits =>
    obtain ⟨hrows, hunparked⟩ := RowEdit.contents_of_setPageOffline hedit
    have hedited : (h.site.tree.edit code Page.unpublished).contents = _ :=
      Tree.contents_edit (g := PageContent.unpublished) fun _ => rfl
    rw [hcommits.env.committed, hcommits.tree, hrows, hedited, hcontents]
    exact ⟨rfl, hunparked hfree⟩
  | @joined code frame w accepted stamp page t hpage haccepted hframe hedit hcommits =>
    obtain ⟨rfl, hrows, hunparked⟩ := RowEdit.contents_of_joinWidget hedit
    have hne : h.env.parkingFrame ≠ frame := by
      have hnonneg := (Slots.containsFrame_iff.1 hframe).1
      omega
    have hedited := Tree.contents_withSlots hpage stamp fun s => s.put frame (some accepted)
    rw [hcommits.env.committed, hcommits.tree, hrows, hedited, hcontents,
      Site.storedWidget_of_acceptWidget haccepted]
    exact ⟨rfl, hunparked hne hfree⟩
  | @exchanged code source target stamp page t hpage _ hsource htarget hedit hcommits =>
    have hshown := Tree.contents_of_get? hpage
    rw [hcontents] at hshown
    obtain ⟨rfl, hrows, hunparked⟩ := RowEdit.contents_of_moveWidget hhidden hfree
      (fun k hk => by
        obtain rfl := Option.some.inj (hshown.symm.trans hk)
        exact ⟨hsource, htarget⟩)
      (by rw [hshown]; rfl) hedit
    have hedited := Tree.contents_withSlots hpage stamp fun s => s.exchange source target
    rw [hcommits.env.committed, hcommits.tree, hrows, hedited, hcontents]
    exact ⟨rfl, hunparked⟩
  | @removed code frame w stamp page t hpage hframe hedit hcommits =>
    obtain ⟨rfl, hrows, hunparked⟩ := RowEdit.contents_of_removeWidget hedit
    have hedited := Tree.contents_withSlots hpage stamp fun s => s.put frame none
    rw [hcommits.env.committed, hcommits.tree, hrows, hedited, hcontents]
    exact ⟨rfl, hunparked hfree⟩

/-- An answered page is the one that is shown. -/
theorem Effect.answers (heffect : Effect h h' time command outcome) (hfollowed : h.IsFollowed) :
    Answers h'.site.tree command.code outcome := by
  obtain ⟨hordered, hfollows⟩ := hfollowed
  cases heffect with
  | kept hkeeps hidle =>
    rw [hkeeps.tree]
    intro page heq
    exact (hidle _ heq).answers page rfl
  | refreshed | deleted | unswapped | swapped | joined | exchanged | removed =>
    exact fun _ heq => nomatch heq
  | @added parent code group draft page stored t haccepted hedit hcommits =>
    rintro _ ⟨⟩
    have hcode : stored.code = code := by
      rw [(RowEdit.pages_of_addPage hedit).2.2]
      exact (Site.acceptNewPage_spec haccepted).2.2.1
    refine ⟨code, rfl, ?_⟩
    rw [hcommits.tree, Tree.get?_insert, if_pos hcode.symm]
  | @updated code draft page stored t haccepted hedit hcommits =>
    rintro _ ⟨⟩
    obtain ⟨current, hcurrent, hpage, -⟩ := Site.acceptDraft_spec haccepted
    have hcurrentCode := hfollows.code_eq hordered hcurrent
    have hplace : page.toPlacement = current.toPlacement := by rw [hpage]
    have hcode : page.code = code := by rw [hplace, hcurrentCode]
    refine ⟨code, rfl, ?_⟩
    rw [← hcode] at hcurrent ⊢
    rw [hcommits.tree]
    exact Tree.get?_replace hcurrent hplace
  | @regrouped code group page t u hpage hedit hcommits =>
    rintro _ ⟨⟩
    have hcode := hfollows.code_eq hordered hpage
    refine ⟨code, rfl, ?_⟩
    rw [← hcode] at hpage ⊢
    rw [hcommits.tree]
    exact Tree.get?_replace hpage rfl
  | stayed hpage hedit hcommits =>
    rintro _ ⟨⟩
    exact ⟨_, rfl, by rw [hcommits.tree, hpage]⟩
  | moved hedit hcommits hpage =>
    rintro _ ⟨⟩
    exact ⟨_, rfl, by rw [hcommits.tree, hpage]⟩
  | published hedit hcommits hpage =>
    rintro _ ⟨⟩
    exact ⟨_, rfl, hpage⟩
  | unpublished hpage hedit hcommits =>
    rintro _ ⟨⟩
    refine ⟨_, rfl, ?_⟩
    rw [hcommits.tree, Tree.get?_edit, if_pos rfl, hpage]
    rfl

end Command

-- ════════════════════════════════════════════════════════════════════════
-- Runs
-- ════════════════════════════════════════════════════════════════════════

namespace Hosted

variable {h : Hosted}

theorem IsMirrored.isFollowed (hmirrored : h.IsMirrored) : h.IsFollowed :=
  ⟨hmirrored.ordered, hmirrored.mirrors.follows⟩

/-- A step keeps the site map a mirror of the rows, and the registry. -/
theorem IsMirrored.step (hmirrored : h.IsMirrored) (step : Step) :
    (h.step step).IsMirrored ∧ (h.step step).site.registry = h.site.registry := by
  cases step with
  | request time command =>
    have heffect := Command.effect_of_run (Prod.ext rfl rfl : command.run time h = (_, _))
    obtain ⟨hfollow, hfollows⟩ := heffect.places hmirrored.isFollowed
    obtain ⟨hcontents, hfree⟩ := heffect.contents hmirrored
    obtain ⟨hframe, hregistry⟩ := heffect.settings
    refine ⟨⟨heffect.linked hmirrored.linked, hfollow.isOrdered hmirrored.ordered, ?_, ?_,
      ⟨hfollows, ?_⟩⟩, hregistry⟩
    · exact hframe.symm ▸ hfree
    · exact hframe.symm ▸ hmirrored.hidden
    · exact hregistry.symm ▸ hcontents
  | failNextCommit => exact ⟨⟨hmirrored.linked, hmirrored.ordered, hmirrored.unparked,
      hmirrored.hidden, hmirrored.mirrors⟩, rfl⟩

/-- A run keeps the site map a mirror of the rows, and the registry. -/
theorem isMirrored_run (hmirrored : h.IsMirrored) (steps : List Step) :
    (h.run steps).IsMirrored ∧ (h.run steps).site.registry = h.site.registry := by
  induction steps generalizing h with
  | nil => exact ⟨hmirrored, rfl⟩
  | cons step steps ih =>
    obtain ⟨hstep, hregistry⟩ := hmirrored.step step
    obtain ⟨hrun, hregistry'⟩ := ih hstep
    exact ⟨hrun, hregistry'.trans hregistry⟩

/-- A mirror that is built anew shows the same. -/
theorem IsMirrored.refresh (hmirrored : h.IsMirrored) (time : Timestamp) :
    ∃ after, Command.refresh.run time h = (.ok .done, after) ∧ after.env = h.env ∧
      after.site.tree.ShowsSame h.site.tree := by
  obtain ⟨pages, hload⟩ := Tables.exists_loadPages hmirrored.linked h.site.registry
  have hanew := Tables.mirrors_ofPages hmirrored.ordered hload
  have hrun : Command.refresh.run time h =
      (.ok .done, { h with site := h.site.withTree (.ofPages pages) }) := by
    show Command.answer _ h.refresh = _
    unfold Hosted.refresh
    rw [hload]
    rfl
  exact ⟨_, hrun, rfl, hanew.showsSame hmirrored.mirrors⟩

end Hosted

/-- A site that opens on well-formed rows mirrors them. -/
theorem Site.isMirrored_of_openOn {config : SiteConfig} {r : Registry} {time : Timestamp}
    {env env' : Environment} {site : Site} (hwell : env.IsWellFormed)
    (hopen : Site.openOn config r time env = (.ok site, env')) :
    (Hosted.mk env' site).IsMirrored ∧ site.registry = r := by
  have hlinked := Tables.checkReferences_eq_ok.1 hwell.checked
  have hordered : env.committed.places.IsOrdered := by
    refine ⟨fun code place hplace => ?_, hwell.seats⟩
    obtain ⟨row, hrow, rfl⟩ := Tables.places_eq_some_iff.1 hplace
    exact hwell.filed code row hrow
  rcases Site.opened_of_openOn hopen with
    ⟨pages, hload, rfl, rfl, -⟩ | ⟨seed, page, stored, t, -, hload, hpage, hedit, hcommits, rfl⟩
  · exact ⟨⟨hlinked, hordered, hwell.unparked, hwell.hidden,
      Tables.mirrors_ofPages hordered hload⟩, rfl⟩
  · obtain ⟨-, hparent, honline, hstorable⟩ := RootSeed.page_spec hpage
    have hnone := Tables.places_eq_none_of_loadPages hload
    obtain rfl : t = env'.committed := hcommits.committed.symm
    refine ⟨⟨Tables.checkReferences_eq_ok.1 hcommits.checked,
      (Tables.isTree_of_plant hnone hparent hedit).toIsOrdered, ?_, ?_,
      Tables.mirrors_of_plant hlinked hnone hparent honline hstorable hedit⟩, rfl⟩
    · rw [hcommits.parkingFrame]
      exact RowEdit.isUnparked_of_addPage honline hwell.hidden hwell.unparked hedit
    · rw [hcommits.parkingFrame]
      exact hwell.hidden

/-- The rows below a mirror are well-formed. -/
theorem Hosted.IsMirrored.isWellFormed {h : Hosted} (hmirrored : h.IsMirrored) :
    h.env.IsWellFormed where
  checked := Tables.checkReferences_eq_ok.2 hmirrored.linked
  filed _ _ hrow := hmirrored.ordered.filed _ _ (Tables.places_of_row hrow)
  seats := hmirrored.ordered.seats
  unparked := hmirrored.unparked
  hidden := hmirrored.hidden

/-- A widget that is stored directly, in any frame but the parking frame, leaves the rows
    well-formed. -/
theorem Environment.IsWellFormed.joinWidget {env env' : Environment} {r : Registry}
    {time : Timestamp} {code : String} {frame : Int} {w : Widget} {reply : EditReply}
    (hwell : env.IsWellFormed) (hframe : env.parkingFrame ≠ frame)
    (h : env.edit r time (.joinWidget code frame w) = (.ok reply, env')) :
    env'.IsWellFormed := by
  obtain ⟨t, hrun, hcommits⟩ := commits_of_write h
  obtain ⟨⟨stamp, _⟩, hedit, heq⟩ := map_eq_ok.1 hrun
  cases heq
  obtain ⟨-, -, hunparked⟩ := RowEdit.contents_of_joinWidget hedit
  have hpages := RowEdit.pages_of_joinWidget hedit
  obtain rfl : t = env'.committed := hcommits.committed.symm
  refine ⟨hcommits.checked, ?_, ?_, ?_, ?_⟩
  · rw [hpages]
    exact hwell.filed
  · rw [Tables.places_congr hpages]
    exact hwell.seats
  · rw [hcommits.parkingFrame]
    exact hunparked hframe hwell.unparked
  · rw [hcommits.parkingFrame]
    exact hwell.hidden

/-- An environment that opens where nothing is kept is without rows. -/
theorem Environment.isVacant_of_openWith {env : Environment} {parkingFrame : Int}
    {storage storage' : Storage} (habsent : storage.snapshot = .absent)
    (h : openWith parkingFrame storage = (.ok env, storage')) : env.IsVacant := by
  refine ⟨?_, parkingFrame_of_openWith h⟩
  cases storage with
  | memory => exact (of_build (Prod.mk.inj h).1).1
  | disk disk =>
    -- a directory that is made is empty, and no other step changes the snapshot file
    have hprepared : ∀ prepared, disk.prepare = .ok prepared → prepared.load = .ok .empty := by
      intro prepared hprepare
      cases disk with
      | missing =>
        cases hprepare
        rfl
      | barred => cases hprepare
      | directory snapshot scratch =>
        cases hprepare
        cases habsent
        rfl
    unfold openWith at h
    dsimp only at h
    split at h
    · cases h
    · next prepared hprepare =>
      rw [hprepared prepared hprepare] at h
      exact (of_build (Prod.mk.inj h).1).1

theorem Environment.IsVacant.pages {env : Environment} (h : env.IsVacant) :
    env.committed.pages = ∅ := by
  rw [h.committed]
  rfl

/-- No rows are well-formed. -/
theorem Environment.IsVacant.isWellFormed {env : Environment} (h : env.IsVacant) :
    env.IsWellFormed where
  checked := by
    rw [h.committed]
    rfl
  filed _ _ hrow := by
    rw [h.committed] at hrow
    cases hrow
  seats _ := by
    rw [h.committed]
    exact ⟨[], fun _ _ => iff_of_false (fun hseat => nomatch hseat) (by simp)⟩
  unparked _ := by
    rw [h.committed]
    rfl
  hidden := h.hidden

theorem Environment.isVacant_sample : Environment.sample.IsVacant :=
  isVacant_of_openWith rfl (rfl : openWith defaultParkingFrame .memory = _)

theorem Environment.isWellFormed_sample : Environment.sample.IsWellFormed :=
  isVacant_sample.isWellFormed

/-- A site opens on well-formed rows that have a page, and writes nothing. -/
theorem Environment.IsWellFormed.exists_openOn {env : Environment} {code : String}
    (hwell : env.IsWellFormed) (hstored : (env.committed.pages.get? code).isSome)
    (config : SiteConfig) (r : Registry) (time : Timestamp) :
    ∃ site, Site.openOn config r time env = (.ok site, env) := by
  have hlinked := Tables.checkReferences_eq_ok.1 hwell.checked
  obtain ⟨pages, hload⟩ := Tables.exists_loadPages hlinked r
  cases pages with
  | nil =>
    have hnone := Tables.places_eq_none_iff.1 (Tables.places_eq_none_of_loadPages hload code)
    rw [hnone] at hstored
    cases hstored
  | cons page pages =>
    unfold Site.openOn SiteConfig.pages
    rw [hload]
    exact ⟨_, rfl⟩

/-- A site that is the only writer of well-formed rows shows after any run what it would show
    if it were opened anew: the rows can be loaded, the site map of the loaded pages shows the
    same, and building it changes nothing. A request that answers with a page answers with the
    page that is shown from then on. -/
theorem run_mirrors_rows {config : SiteConfig} {r : Registry} {time : Timestamp}
    {env env' : Environment} {site : Site} {steps : List Hosted.Step} {h : Hosted}
    (hwell : env.IsWellFormed) (hopen : Site.openOn config r time env = (.ok site, env'))
    (hrun : Hosted.run ⟨env', site⟩ steps = h) :
    (∃ pages, h.env.committed.loadPages r = .ok pages ∧
        h.site.tree.ShowsSame (.ofPages pages)) ∧
      (∀ now, ∃ after, Command.refresh.run now h = (.ok .done, after) ∧
        after.env = h.env ∧ after.site.tree.ShowsSame h.site.tree) ∧
      ∀ now (command : Command) page after, command.run now h = (.ok (.page page), after) →
        ∃ code, command.code = some code ∧ after.site.tree.get? code = some page := by
  subst hrun
  obtain ⟨hopened, hregistry⟩ := Site.isMirrored_of_openOn hwell hopen
  obtain ⟨hmirrored, hregistry'⟩ := Hosted.isMirrored_run hopened steps
  refine ⟨?_, hmirrored.refresh, fun now command page after hanswer => ?_⟩
  · obtain ⟨pages, hload⟩ := Tables.exists_loadPages hmirrored.linked r
    have hmirrors := hmirrored.mirrors
    rw [hregistry', hregistry] at hmirrors
    exact ⟨pages, hload, hmirrors.showsSame (Tables.mirrors_ofPages hmirrored.ordered hload)⟩
  · exact (Command.effect_of_run hanswer).answers hmirrored.isFollowed page rfl

/-- A widget is stored in a frame that its page does not have, and a site opens on that. It
    then fills a frame, exchanges it with another one and publishes the page, once in vain. -/
theorem run_mirrors_rows_sample :
    let env := (Hosted.sample.env.edit .sample .epoch (.joinWidget "a" 7 ⟨"menu", none⟩)).2
    (env.committed.widgetsOf .draft "a").get? 7 = some ⟨"menu", none⟩ ∧
      ∃ site, Site.openOn .standard .sample .epoch env = (.ok site, env) ∧
        let h := Hosted.run ⟨env, site⟩
          [.request .epoch (.joinWidget "a" 0 ⟨"menu", none⟩),
            .request .epoch (.moveWidget "a" 0 1), .failNextCommit,
            .request .epoch (.setPageOnline "a"), .request .epoch (.setPageOnline "a")]
        ∃ pages, h.env.committed.loadPages .sample = .ok pages ∧
          h.site.tree.ShowsSame (.ofPages pages) := by
  intro env
  have hplanted := (Site.isMirrored_of_openOn Environment.isWellFormed_sample
    Site.openOn_sample).1
  have hsample : Hosted.sample.IsMirrored := (Hosted.isMirrored_run hplanted _).1
  have hedited : (Hosted.sample.env.edit .sample .epoch (.joinWidget "a" 7 ⟨"menu", none⟩)).1 =
      .ok (.stamped .epoch) := by decide +kernel
  have hwell : env.IsWellFormed :=
    hsample.isWellFormed.joinWidget (by decide +kernel) (Prod.ext hedited rfl)
  obtain ⟨site, hopen⟩ := hwell.exists_openOn
    (by decide +kernel : (env.committed.pages.get? "a").isSome) .standard .sample .epoch
  exact ⟨by decide +kernel, site, hopen, (run_mirrors_rows hwell hopen rfl).1⟩

end Sitemap
