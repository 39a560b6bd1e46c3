import Sitemap.Proofs.Site.Effect
import Sitemap.Proofs.Site.Opening

/-!
# The shape of a hosted site

A site that is the only writer of its environment keeps the pages in a tree, in the rows as
well as in the site map in memory. Every request makes at most one change of the hierarchy,
and it makes the same one twice: on the rows, with positions computed there, and on the site
map.

## Main definitions

- `Hosted.IsFollowed` — the site map follows rows that are in order

## Main results

- `Command.Effect.places` — the step: a request keeps the site map behind the rows, and
  changes the places by a change that fits
- `Hosted.isFollowed_run` — the run
- `run_keeps_tree` — a site that is opened on an empty store keeps its pages in a tree
-/

namespace Sitemap

/-- The rows are in order, and the site map follows them. -/
structure Hosted.IsFollowed (h : Hosted) : Prop where
  /-- The children of every stored page are in order. -/
  ordered : h.env.committed.places.IsOrdered
  /-- The site map has the same places. -/
  follows : h.site.tree.Follows h.env.committed.places

namespace Hosted.IsFollowed

variable {h : Hosted} {r : Registry} {time : Timestamp} {parent code group : String}
  {draft : PageVersion} {page stored : Page} {t : Tables}

/-- A page that is accepted is stored behind the children of its parent. -/
theorem fits_add (hfollowed : h.IsFollowed)
    (haccepted : h.site.acceptNewPage parent code group draft = .ok page)
    (hedit : RowEdit.addPage r time page h.env.committed = .ok (stored, t)) :
    stored.code = code ∧ stored.parent = some parent ∧
      h.env.committed.places.Fits (.add stored.toPlacement) ∧
      t.places = Places.Change.apply h.env.committed.places (.add stored.toPlacement) := by
  obtain ⟨hstored, -, hcode, hbelow, -⟩ := Site.acceptNewPage_spec haccepted
  rw [← hfollowed.follows.isSome_places] at hstored
  obtain ⟨codes, -, -, hplace, -⟩ := RowEdit.places_of_addPage hfollowed.ordered hbelow hedit
  obtain ⟨hfits, hplaces⟩ := RowEdit.fits_of_addPage hfollowed.ordered hbelow hstored hedit
  have hparent : stored.toPlacement.parent = some parent := by rw [hplace]
  have hstoredCode : stored.toPlacement.code = page.code := by rw [hplace]
  exact ⟨hstoredCode.trans hcode, hparent, hfits, hplaces⟩

/-- A page that may be deleted leaves the children of its parent. -/
theorem fits_drop (hfollowed : h.IsFollowed) (haccepted : h.site.acceptDeletion code = .ok page)
    {u : Unit} (hedit : RowEdit.deletePage code h.env.committed = .ok (u, t)) :
    ∃ parent, h.site.tree.get? code = some page ∧ page.parent = some parent ∧
      h.env.committed.places.Fits (.drop code parent page.position) ∧
      t.places = Places.Change.apply h.env.committed.places (.drop code parent page.position) := by
  obtain ⟨hpage, parent, hparent⟩ := Site.acceptDeletion_spec haccepted
  have hplace := Tree.places_of_get? hpage
  rw [hfollowed.follows.places] at hplace
  exact ⟨parent, hpage, hparent,
    RowEdit.places_of_deletePage hfollowed.ordered hplace hparent hedit⟩

end Hosted.IsFollowed

/-- A request keeps the site map behind the rows, and changes the places at most once. -/
theorem Command.Effect.places {h h' : Hosted} {time : Timestamp} {command : Command}
    {outcome : Except Error Answer} (heffect : Effect h h' time command outcome)
    (hfollowed : h.IsFollowed) :
    h.env.committed.places.Follow h'.env.committed.places ∧
      h'.site.tree.Follows h'.env.committed.places := by
  have hordered := hfollowed.ordered
  have hfollows := hfollowed.follows
  cases heffect with
  | kept hkeeps =>
    rw [hkeeps.committed, hkeeps.tree]
    exact ⟨.inl rfl, hfollows⟩
  | refreshed hload henv htree =>
    rw [henv, htree]
    exact ⟨.inl rfl, (Tables.mirrors_ofPages hordered hload).follows⟩
  | @added parent code group draft page stored t haccepted hedit hcommits =>
    obtain ⟨-, -, hfits, hplaces⟩ := hfollowed.fits_add haccepted hedit
    rw [hcommits.env.committed, hcommits.tree, hplaces]
    exact ⟨.inr ⟨_, hfits, rfl⟩, hfollows.insert hfits⟩
  | @updated code draft page stored t haccepted hedit hcommits =>
    obtain ⟨current, hcurrent, hpage, -⟩ := Site.acceptDraft_spec haccepted
    have hplace := Tree.places_of_get? hcurrent
    rw [hfollows.places] at hplace
    have hcode : current.code = code := hordered.filed _ _ hplace
    have hplaces : t.places = h.env.committed.places := by
      refine RowEdit.places_of_updatePage_self ?_ hedit
      rw [hpage]
      exact hcode ▸ hplace
    rw [hcommits.env.committed, hcommits.tree, hplaces]
    exact ⟨.inl rfl, hfollows.replace _⟩
  | regrouped hpage hedit hcommits =>
    rw [hcommits.env.committed, hcommits.tree, RowEdit.places_of_updatePageGroup hedit]
    exact ⟨.inl rfl, hfollows.replace _⟩
  | @deleted code page t u haccepted hedit hcommits =>
    obtain ⟨parent, hpage, hparent, hfits, hplaces⟩ := hfollowed.fits_drop haccepted hedit
    rw [hcommits.env.committed, hcommits.tree, hplaces]
    exact ⟨.inr ⟨_, hfits, rfl⟩, hfollows.remove hpage hparent hfits⟩
  | stayed hpage hedit hcommits =>
    have hsame := RowEdit.places_of_movePage hordered hedit
    rw [hcommits.env.committed, hcommits.tree, hsame]
    exact ⟨.inl rfl, hfollows⟩
  | moved hedit hcommits =>
    obtain ⟨-, -, hfits, hplaces⟩ := RowEdit.places_of_movePage hordered hedit
    rw [hcommits.env.committed, hcommits.tree, hplaces]
    exact ⟨.inr ⟨_, hfits, rfl⟩, hfollows.applyReparent hfits⟩
  | unswapped hedit hcommits =>
    have hsame := RowEdit.places_of_swapPositions hordered hedit
    rw [hcommits.env.committed, hcommits.tree, hsame]
    exact ⟨.inl rfl, hfollows⟩
  | swapped hedit hcommits =>
    obtain ⟨-, hfits, hplaces⟩ := RowEdit.places_of_swapPositions hordered hedit
    rw [hcommits.env.committed, hcommits.tree, hplaces]
    exact ⟨.inr ⟨_, hfits, rfl⟩, hfollows.applySwap hordered hfits⟩
  | published hedit hcommits =>
    rw [hcommits.env.committed, hcommits.tree,
      Tables.places_congr (RowEdit.pages_of_setPageOnline hedit)]
    exact ⟨.inl rfl, hfollows.edit fun _ => rfl⟩
  | unpublished hpage hedit hcommits =>
    rw [hcommits.env.committed, hcommits.tree,
      Tables.places_congr (RowEdit.pages_of_setPageOffline hedit)]
    exact ⟨.inl rfl, hfollows.edit fun _ => rfl⟩
  | joined hpage haccepted hframe hedit hcommits =>
    rw [hcommits.env.committed, hcommits.tree,
      Tables.places_congr (RowEdit.pages_of_joinWidget hedit)]
    exact ⟨.inl rfl, hfollows.edit fun _ => rfl⟩
  | exchanged hpage hne hsource htarget hedit hcommits =>
    rw [hcommits.env.committed, hcommits.tree,
      Tables.places_congr (RowEdit.pages_of_moveWidget hedit)]
    exact ⟨.inl rfl, hfollows.edit fun _ => rfl⟩
  | removed hpage hframe hedit hcommits =>
    rw [hcommits.env.committed, hcommits.tree,
      Tables.places_congr (RowEdit.pages_of_removeWidget hedit)]
    exact ⟨.inl rfl, hfollows.edit fun _ => rfl⟩

-- ════════════════════════════════════════════════════════════════════════
-- Runs
-- ════════════════════════════════════════════════════════════════════════

namespace Hosted

variable {h : Hosted} {top : String}

/-- A step keeps the site map behind the rows, and changes the places at most once. -/
theorem IsFollowed.places_step (hfollowed : h.IsFollowed) (step : Step) :
    h.env.committed.places.Follow (h.step step).env.committed.places ∧
      (h.step step).site.tree.Follows (h.step step).env.committed.places := by
  cases step with
  | request time command =>
    have heffect := Command.effect_of_run (Prod.ext rfl rfl : command.run time h = (_, _))
    exact heffect.places hfollowed
  | failNextCommit => exact ⟨.inl rfl, hfollowed.follows⟩

/-- A step keeps the order of the rows and the site map behind them. -/
theorem IsFollowed.step (hfollowed : h.IsFollowed) (step : Step) :
    (h.step step).IsFollowed := by
  obtain ⟨hfollow, hfollows⟩ := hfollowed.places_step step
  exact ⟨hfollow.isOrdered hfollowed.ordered, hfollows⟩

/-- A run keeps the order of the rows and the site map behind them, and the rows a tree. -/
theorem isFollowed_run (hfollowed : h.IsFollowed) (htree : h.env.committed.places.IsTree top)
    (steps : List Step) :
    (h.run steps).IsFollowed ∧ (h.run steps).env.committed.places.IsTree top := by
  induction steps generalizing h with
  | nil => exact ⟨hfollowed, htree⟩
  | cons step steps ih =>
    have hfollow := (hfollowed.places_step step).1
    exact ih (hfollowed.step step) (hfollow.isTree htree)

/-- A run leaves a tree of pages, or no pages at all. -/
theorem isRooted_run (hfollowed : h.IsFollowed) (hrooted : h.env.committed.places.IsRooted)
    (steps : List Step) : (h.run steps).env.committed.places.IsRooted := by
  induction steps generalizing h with
  | nil => exact hrooted
  | cons step steps ih =>
    have hfollow := (hfollowed.places_step step).1
    exact ih (hfollowed.step step) (hfollow.isRooted hrooted)

end Hosted

/-- A site that opens on an empty store has planted its root page: the rows are a tree, and
    the site map follows them. -/
theorem Site.isFollowed_of_openOn {config : SiteConfig} {r : Registry} {time : Timestamp}
    {env env' : Environment} {site : Site} {seed : RootSeed}
    (hempty : env.committed.pages = ∅) (hseed : config.root = some seed)
    (hopen : Site.openOn config r time env = (.ok site, env')) :
    (Hosted.mk env' site).IsFollowed ∧ env'.committed.places.IsTree seed.code := by
  rcases Site.opened_of_openOn hopen with
    ⟨pages, hload, -, -, hnil⟩ | ⟨seed', page, stored, t, hroot, hload, hpage, hedit, hcommits, rfl⟩
  · have hnone := hnil (Tables.eq_nil_of_loadPages hempty hload)
    rw [hseed] at hnone
    cases hnone
  · obtain rfl : seed = seed' := Option.some.inj (hseed.symm.trans hroot)
    obtain ⟨hcode, hparent, -⟩ := RootSeed.page_spec hpage
    have hnone := Tables.places_eq_none_of_loadPages hload
    have htree := Tables.isTree_of_plant hnone hparent hedit
    rw [hcode] at htree
    rw [← hcommits.committed] at htree
    refine ⟨⟨htree.toIsOrdered, ?_⟩, htree⟩
    have hfollows := Tables.follows_of_plant hnone hparent hedit
    rw [← hcommits.committed] at hfollows
    exact hfollows

/-- A site that opened on an empty store keeps its pages in a tree, whatever is asked of it:
    in the rows and in the site map, the page that was planted is the only one without
    parent, every page lies below it, and the list of the children of a page names them in
    order of their positions, which are 1 to their number. -/
theorem run_keeps_tree {config : SiteConfig} {r : Registry} {time : Timestamp}
    {env env' : Environment} {site : Site} {seed : RootSeed} {steps : List Hosted.Step}
    {h : Hosted} (hempty : env.committed.pages = ∅) (hseed : config.root = some seed)
    (hopen : Site.openOn config r time env = (.ok site, env'))
    (hrun : Hosted.run ⟨env', site⟩ steps = h) :
    h.env.committed.places.IsTree seed.code ∧ h.site.tree.places.IsTree seed.code ∧
      h.site.tree.rootCode = some seed.code ∧
      ∀ parent, h.env.committed.places.seat.Lists parent (h.site.tree.children parent) ∧
        h.site.tree.places.seat.Lists parent (h.site.tree.children parent) := by
  subst hrun
  obtain ⟨hfollowed, htree⟩ := Site.isFollowed_of_openOn hempty hseed hopen
  obtain ⟨⟨-, hfollows⟩, htree⟩ := Hosted.isFollowed_run hfollowed htree steps
  rw [hfollows.places]
  exact ⟨htree, htree, (hfollows.root _).2 htree.isLastRoot,
    fun parent => ⟨hfollows.children parent, hfollows.children parent⟩⟩

/-- A small site is asked to add two pages, to move one below the other, to do so the other
    way round, which is refused, and to delete a page while commits fail. -/
theorem run_keeps_tree_sample :
    let h := Hosted.planted.run
      [.request .epoch (.addPage "homepage" "a" "free" (.empty "home" 2)),
        .request .epoch (.addPage "homepage" "b" "free" (.empty "home" 2)),
        .request .epoch (.movePage "b" "a"), .request .epoch (.movePage "a" "b"),
        .failNextCommit, .request .epoch (.deletePage "b")]
    h.env.committed.places.IsTree "homepage" ∧ h.site.tree.places.IsTree "homepage" ∧
      h.site.tree.children "a" = ["b"] := by
  intro h
  obtain ⟨hrows, hshown, -⟩ := run_keeps_tree rfl rfl Site.openOn_sample (rfl : _ = h)
  exact ⟨hrows, hshown, by decide +kernel⟩

end Sitemap
