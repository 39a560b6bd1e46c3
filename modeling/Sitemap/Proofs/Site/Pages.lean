import Sitemap.Proofs.Site.Mirroring

/-!
# Pages of a site on a store of its own

What can be said of every page of a site that opened on an empty store and is its only writer.
A page is then the same thing in the site map and in the rows, so a statement about pages is
proved on the site map and holds of loaded pages, too.

## Main definitions

- `Hosted.HasPage` — a page is in the site map, or it is loaded from the rows
- `Hosted.Shows` — a page is in both

## Main results

- `Hosted.IsMirrored.mem_loadPages_iff` — the loaded pages are those of the site map
- `Site.isMirrored_run_of_openOn` — a site that opened on an empty store stays a mirror
- `Site.isRooted_run_of_openOn` — its pages form a tree
- `Site.contents_of_openOn` — what is shown when it opens
-/

namespace Sitemap

namespace Hosted

variable {h : Hosted} {page : Page} {pages : List Page}

/-- The page is in the site map, or it is loaded from the rows. -/
def HasPage (h : Hosted) (page : Page) : Prop :=
  h.site.tree.get? page.code = some page ∨
    ∃ pages, h.env.committed.loadPages h.site.registry = .ok pages ∧ page ∈ pages

/-- The page is in the site map, and it is loaded from the rows. -/
structure Shows (h : Hosted) (page : Page) : Prop where
  /-- It is in the site map. -/
  get? : h.site.tree.get? page.code = some page
  /-- It is loaded. -/
  loaded : ∃ pages, h.env.committed.loadPages h.site.registry = .ok pages ∧ page ∈ pages

/-- The loaded pages are those of the site map. -/
theorem IsMirrored.mem_loadPages_iff (hmirrored : h.IsMirrored)
    (hload : h.env.committed.loadPages h.site.registry = .ok pages) :
    page ∈ pages ↔ h.site.tree.get? page.code = some page := by
  have hanew := Tables.mirrors_ofPages hmirrored.ordered hload
  have hpages : (Tree.ofPages pages).pages = h.site.tree.pages :=
    (hanew.showsSame hmirrored.mirrors).pages
  have hget : (Tree.ofPages pages).get? page.code = h.site.tree.get? page.code :=
    congrArg (Keyed.get? · page.code) hpages
  rw [← hget, Tree.get?_ofPages (Tables.nodup_code_loadPages hmirrored.ordered.filed hload)]
  exact (and_iff_left rfl).symm

/-- A page of a mirror is in the site map. -/
theorem IsMirrored.hasPage_iff (hmirrored : h.IsMirrored) :
    h.HasPage page ↔ h.site.tree.get? page.code = some page := by
  constructor
  · rintro (hpage | ⟨pages, hload, hpage⟩)
    · exact hpage
    · exact (hmirrored.mem_loadPages_iff hload).1 hpage
  · exact Or.inl

/-- A page of the site map of a mirror is loaded, too, and carries the code that it is found
    under. -/
theorem IsMirrored.shows (hmirrored : h.IsMirrored) {code : String}
    (hpage : h.site.tree.get? code = some page) : page.code = code ∧ h.Shows page := by
  have hcode := hmirrored.mirrors.follows.code_eq hmirrored.ordered hpage
  rw [← hcode] at hpage
  obtain ⟨pages, hload⟩ := Tables.exists_loadPages hmirrored.linked h.site.registry
  exact ⟨hcode, hpage, pages, hload, (hmirrored.mem_loadPages_iff hload).2 hpage⟩

/-- A page of a mirror shows the contents that are filed under its code. -/
theorem IsMirrored.contents_of_hasPage (hmirrored : h.IsMirrored) (hpage : h.HasPage page) :
    h.site.tree.contents page.code = some page.content :=
  Tree.contents_of_get? (hmirrored.hasPage_iff.1 hpage)

/-- Contents that are filed under a code are those of a page that is shown. -/
theorem IsMirrored.shows_of_contents (hmirrored : h.IsMirrored) {code : String} {k : PageContent}
    (hk : h.site.tree.contents code = some k) :
    ∃ page, h.Shows page ∧ page.code = code ∧ page.content = k := by
  obtain ⟨page, hpage, hcontent⟩ := Option.map_eq_some_iff.1 hk
  obtain ⟨hcode, hshows⟩ := hmirrored.shows hpage
  exact ⟨page, hshows, hcode, hcontent⟩

end Hosted

/-- A site that opened on an empty store mirrors the rows after any run, with the registry that it
    was opened with. -/
theorem Site.isMirrored_run_of_openOn {config : SiteConfig} {r : Registry} {time : Timestamp}
    {env env' : Environment} {site : Site} (hvacant : env.IsVacant)
    (hopen : Site.openOn config r time env = (.ok site, env')) (steps : List Hosted.Step) :
    (Hosted.run ⟨env', site⟩ steps).IsMirrored ∧
      (Hosted.run ⟨env', site⟩ steps).site.registry = r := by
  obtain ⟨hopened, hregistry⟩ := Site.isMirrored_of_openOn hvacant.isWellFormed hopen
  obtain ⟨hmirrored, hregistry'⟩ := Hosted.isMirrored_run hopened steps
  exact ⟨hmirrored, hregistry'.trans hregistry⟩

/-- A site that opened on an empty store has a tree of pages after any run, or no pages at all. -/
theorem Site.isRooted_run_of_openOn {config : SiteConfig} {r : Registry} {time : Timestamp}
    {env env' : Environment} {site : Site} (hvacant : env.IsVacant)
    (hopen : Site.openOn config r time env = (.ok site, env')) (steps : List Hosted.Step) :
    (Hosted.run ⟨env', site⟩ steps).env.committed.places.IsRooted := by
  obtain ⟨hmirrored, -⟩ := Site.isMirrored_of_openOn hvacant.isWellFormed hopen
  refine Hosted.isRooted_run hmirrored.isFollowed ?_ steps
  rcases Site.opened_of_openOn hopen with
    ⟨pages, hload, rfl, -, -⟩ | ⟨seed, page, stored, t, hseed, -, -, -, -, -⟩
  · exact .inr (fun code => Tables.places_eq_none_iff.2 (by rw [hvacant.pages]; rfl))
  · exact .inl ⟨_, (Site.isFollowed_of_openOn hvacant.pages hseed hopen).2⟩

theorem Hosted.isMirrored_planted : planted.IsMirrored :=
  (Site.isMirrored_of_openOn Environment.isWellFormed_sample Site.openOn_sample).1

/-- When a site opens on an empty store, the root page is all that it shows. -/
theorem Site.contents_of_openOn {config : SiteConfig} {r : Registry} {time : Timestamp}
    {env env' : Environment} {site : Site} {code : String} {k : PageContent}
    (hempty : env.committed.pages = ∅)
    (hopen : Site.openOn config r time env = (.ok site, env'))
    (hk : site.tree.contents code = some k) :
    ∃ (seed : RootSeed) (page : Page), seed.page r = .ok page ∧
      k = ⟨page.group, page.draft.stamped time, none⟩ := by
  obtain ⟨shown, hshown, rfl⟩ := Option.map_eq_some_iff.1 hk
  rcases Site.opened_of_openOn hopen with
    ⟨pages, hload, -, rfl, -⟩ | ⟨seed, page, stored, t, -, -, hpage, hedit, -, rfl⟩
  · obtain rfl := Tables.eq_nil_of_loadPages hempty hload
    cases hshown
  · have hnodup : ([stored].map fun p => p.code).Nodup := List.nodup_singleton _
    rw [Tree.get?_ofPages hnodup, List.mem_singleton] at hshown
    obtain ⟨rfl, -⟩ := hshown
    obtain ⟨-, -, honline, -⟩ := RootSeed.page_spec hpage
    exact ⟨seed, page, hpage, (RowEdit.insertVersion_of_addPage honline hedit).1⟩

end Sitemap
