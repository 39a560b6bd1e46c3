import Sitemap.Proofs.Rows.Loaded
import Sitemap.Proofs.Site.Request

/-!
# Opening a site

A site that opens shows the pages that are stored. When there are none, it stores its root
page first.

## Main results

- `Site.opened_of_openOn` — the two ways in which a site opens
- `Site.openOn_of_stored` — only a site that opens on an empty store writes
- `Tables.isTree_of_plant` — a root page alone is a tree
- `Tables.mirrors_of_plant` — a planted site shows its root page
-/

namespace Sitemap

/-- No pages were loaded, so none are stored. -/
theorem Tables.places_eq_none_of_loadPages {t : Tables} {r : Registry}
    (h : t.loadPages r = .ok []) (code : String) : t.places code = none := by
  rw [places_eq_none_iff]
  cases hrow : t.pages.get? code with
  | none => rfl
  | some row =>
    obtain ⟨page, hpage, -⟩ := exists_mem_loadPages h hrow
    cases hpage

/-- A site opens on the stored pages, or on the root page that it stores. -/
theorem Site.opened_of_openOn {config : SiteConfig} {r : Registry} {time : Timestamp}
    {env env' : Environment} {site : Site}
    (h : Site.openOn config r time env = (.ok site, env')) :
    (∃ pages, env.committed.loadPages r = .ok pages ∧ env' = env ∧
        site = ⟨config, r, .ofPages pages, []⟩ ∧ (pages = [] → config.root = none)) ∨
      ∃ seed page stored t, config.root = some seed ∧ env.committed.loadPages r = .ok [] ∧
        seed.page r = .ok page ∧
        RowEdit.addPage r time page env.committed = .ok (stored, t) ∧ env.Commits t env' ∧
        site = ⟨config, r, .ofPages [stored], []⟩ := by
  unfold openOn at h
  dsimp only at h
  obtain ⟨hsite, henv⟩ := Prod.mk.inj h
  obtain ⟨pages, hpages, rfl⟩ := map_eq_ok.1 hsite
  have hopened : config.pages r time env = (.ok pages, env') := Prod.ext hpages henv
  unfold SiteConfig.pages at hopened
  split at hopened
  · cases hopened
  · next loaded hload =>
    split at hopened
    · next seed hroot =>
      unfold RootSeed.plant at hopened
      split at hopened
      · cases hopened
      · next page hpage =>
        split at hopened
        · cases hopened
        · next hwrite =>
          cases hopened
          obtain ⟨t, hedit, hcommits⟩ := Environment.commits_of_write hwrite
          exact .inr ⟨seed, page, _, t, hroot, hload, hpage, hedit, hcommits, rfl⟩
    · next hroot =>
      cases hopened
      exact .inl ⟨[], hload, rfl, rfl, fun _ => hroot⟩
    · next first rest =>
      cases hopened
      exact .inl ⟨_, hload, rfl, rfl, fun hnil => nomatch hnil⟩

/-- Where pages are stored, a site that opens writes nothing. -/
theorem Site.openOn_of_stored {config : SiteConfig} {r : Registry} {time : Timestamp}
    {env env' : Environment} {outcome : Except Error Site} {code : String}
    (hstored : (env.committed.places code).isSome)
    (h : Site.openOn config r time env = (outcome, env')) :
    env' = env ∧ ∀ site, outcome = .ok site →
      ∃ pages, env.committed.loadPages r = .ok pages ∧ site.tree = .ofPages pages := by
  unfold openOn SiteConfig.pages at h
  cases hload : env.committed.loadPages r with
  | error e =>
    rw [hload] at h
    cases h
    exact ⟨rfl, fun _ heq => nomatch heq⟩
  | ok loaded =>
    rw [hload] at h
    cases loaded with
    | nil =>
      rw [Tables.places_eq_none_of_loadPages hload] at hstored
      cases hstored
    | cons page pages =>
      cases h
      refine ⟨rfl, fun site heq => ⟨_, rfl, ?_⟩⟩
      cases heq
      rfl

-- ════════════════════════════════════════════════════════════════════════
-- The root page
-- ════════════════════════════════════════════════════════════════════════

namespace RootSeed

variable {seed : RootSeed} {r : Registry} {page : Page}

/-- The root page has no parent and has never been online. -/
theorem page_spec (h : seed.page r = .ok page) : page.code = seed.code ∧ page.parent = none ∧
    page.online = none ∧ page.draft.IsStorable r := by
  unfold RootSeed.page PageVersion.ofModel at h
  obtain ⟨draft, hdraft, rfl⟩ := map_eq_ok.1 h
  refine ⟨rfl, rfl, rfl, ?_⟩
  split at hdraft
  · next frames hframes =>
    cases hdraft
    refine ⟨?_, fun frame w hw => ?_⟩
    · rw [PageVersion.empty, Slots.frameCount_empty]
      exact hframes
    · rw [PageVersion.empty, Slots.widgetAt_empty] at hw
      cases hw
  · cases hdraft

end RootSeed

namespace Tables

variable {t t' : Tables} {r : Registry} {time : Timestamp} {page stored : Page}

/-- A page that is stored where there are none is the only one. -/
theorem places_of_plant (hempty : ∀ code, t.places code = none) (hroot : page.parent = none)
    (h : RowEdit.addPage r time page t = .ok (stored, t')) :
    stored.toPlacement = ⟨page.code, none, 1⟩ ∧
      t'.places = fun c => if c = page.code then some ⟨page.code, none, 1⟩ else none := by
  obtain ⟨-, hpages, hstored⟩ := RowEdit.pages_of_addPage h
  have hplace : stored.toPlacement = ⟨page.code, none, 1⟩ := by
    rw [hstored, hroot]
  refine ⟨hplace, funext fun c => ?_⟩
  unfold places
  rw [hpages, Keyed.get?_insert]
  split
  · rw [Option.map_some, hplace]
  · exact hempty c

/-- A root page alone is a tree. -/
theorem isTree_of_plant (hempty : ∀ code, t.places code = none) (hroot : page.parent = none)
    (h : RowEdit.addPage r time page t = .ok (stored, t')) : t'.places.IsTree page.code := by
  obtain ⟨-, hplaces⟩ := places_of_plant hempty hroot h
  have honly : ∀ code place, t'.places code = some place →
      code = page.code ∧ place = ⟨page.code, none, 1⟩ := by
    intro code place hplace
    rw [hplaces] at hplace
    dsimp only at hplace
    split at hplace
    · next hcode => exact ⟨hcode, (Option.some.inj hplace).symm⟩
    · cases hplace
  refine ⟨⟨?_, fun parent => ⟨[], fun code position => ?_⟩⟩, ?_, ?_, ?_⟩
  · rintro code place hplace
    obtain ⟨rfl, rfl⟩ := honly code place hplace
    rfl
  · refine iff_of_false (fun hseat => ?_) (by simp)
    obtain ⟨place, hplace, hparent, -⟩ := Places.seat_eq_some_iff.1 hseat
    rw [(honly code place hplace).2] at hparent
    cases hparent
  · rw [hplaces]
    exact if_pos rfl
  · exact fun code place hplace _ => (honly code place hplace).1
  · intro code hcode
    obtain ⟨place, hplace⟩ := Option.isSome_iff_exists.1 hcode
    rw [(honly code place hplace).1]
    exact .refl

/-- The site map of a planted root page follows the rows. -/
theorem follows_of_plant (hempty : ∀ code, t.places code = none) (hroot : page.parent = none)
    (h : RowEdit.addPage r time page t = .ok (stored, t')) :
    (Tree.ofPages [stored]).Follows t'.places := by
  obtain ⟨hplace, hplaces⟩ := places_of_plant hempty hroot h
  refine Tree.follows_ofPages (isTree_of_plant hempty hroot h).toIsOrdered
    (List.nodup_singleton _) (fun code place => ?_) (List.pairwise_singleton _ _)
  rw [hplaces]
  dsimp only
  simp only [List.mem_singleton, exists_eq_left, hplace]
  split
  · next hc =>
    rw [Option.some.injEq]
    exact ⟨fun heq => ⟨hc.symm, heq⟩, fun heq => heq.2⟩
  · next hc => exact iff_of_false (by simp) fun heq => hc heq.1.symm

/-- A planted site shows its root page. -/
theorem mirrors_of_plant (hlinked : t.IsLinked) (hempty : ∀ code, t.places code = none)
    (hroot : page.parent = none) (honline : page.online = none)
    (hstorable : page.draft.IsStorable r)
    (h : RowEdit.addPage r time page t = .ok (stored, t')) :
    (Tree.ofPages [stored]).Mirrors r t' := by
  have hcode : stored.code = page.code := by rw [(places_of_plant hempty hroot h).1]
  refine ⟨follows_of_plant hempty hroot h, funext fun c => ?_⟩
  rw [RowEdit.contents_of_addPage hlinked honline hstorable h]
  apply Option.ext
  intro k
  rw [Tree.contents, Option.map_eq_some_iff]
  have hfind : ∀ c p, (Tree.ofPages [stored]).get? c = some p ↔ p ∈ [stored] ∧ p.code = c :=
    fun c p => Tree.get?_ofPages (List.nodup_singleton stored.code)
  simp only [hfind, List.mem_singleton]
  split
  · next hc =>
    rw [Option.some.injEq]
    constructor
    · rintro ⟨p, ⟨rfl, -⟩, hk⟩
      exact hk
    · intro hk
      exact ⟨stored, ⟨rfl, hcode.trans hc.symm⟩, hk⟩
  · next hc =>
    rw [contents_eq_none (places_eq_none_iff.1 (hempty c))]
    refine iff_of_false ?_ (by simp)
    rintro ⟨p, ⟨rfl, hp⟩, -⟩
    exact hc (hp.symm.trans hcode)

end Tables

end Sitemap
