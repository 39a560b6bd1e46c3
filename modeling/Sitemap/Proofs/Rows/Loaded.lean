import Sitemap.Proofs.Rows.Contents
import Sitemap.Proofs.Tree.Building

/-!
# Loaded pages

The pages that linked tables describe can be loaded, and the site map of the loaded pages
follows the rows.

## Main definitions

- `Tree.Mirrors` — a site map shows what the rows describe

## Main results

- `Tables.exists_loadPages` — linked tables can be loaded
- `Tables.mirrors_ofPages` — the site map of loaded pages shows what the rows describe
-/

namespace Sitemap

/-- All steps succeed exactly when each of them does. -/
theorem mapM_eq_ok_iff {ε α β : Type} {f : α → Except ε β} {l : List α} {r : List β} :
    l.mapM f = .ok r ↔ l.map f = r.map .ok := by
  induction l generalizing r with
  | nil => cases r <;> simp
  | cons a l ih =>
    rw [List.mapM_cons]
    cases hf : f a with
    | error e => cases r <;> simp [hf]
    | ok b =>
      simp only [bind_eq_ok, pure_eq_ok, ih, List.map_cons, hf]
      constructor
      · rintro ⟨b', hb, r', hr', rfl⟩
        rw [List.map_cons, hr', hb]
      · intro heq
        cases r with
        | nil => cases heq
        | cons b' r' =>
          obtain ⟨hb, hr'⟩ := List.cons.inj heq
          cases hb
          exact ⟨b, rfl, r', hr', rfl⟩

/-- What holds between entries of a list holds between the results of the steps, in the same
    order. -/
theorem pairwise_of_mapM_eq_ok {ε α β : Type} {f : α → Except ε β} {l : List α} {r : List β}
    {R : α → α → Prop} {S : β → β → Prop} (h : l.mapM f = .ok r) (hl : l.Pairwise R)
    (hstep : ∀ a b x y, R a b → f a = .ok x → f b = .ok y → S x y) : r.Pairwise S := by
  have hmap : (r.map .ok).Pairwise fun (x y : Except ε β) =>
      ∀ p q, x = .ok p → y = .ok q → S p q := by
    rw [← mapM_eq_ok_iff.1 h, List.pairwise_map]
    exact hl.imp fun hab p q hp hq => hstep _ _ p q hab hp hq
  rw [List.pairwise_map] at hmap
  exact hmap.imp fun hxy => hxy _ _ rfl rfl

/-- The site map shows the pages that the rows describe, in the order of the rows. -/
structure Tree.Mirrors (tree : Tree) (r : Registry) (t : Tables) : Prop where
  /-- The pages are where the rows have them. -/
  follows : tree.Follows t.places
  /-- The pages show what the rows have for them. -/
  contents : tree.contents = t.contents r

namespace Tables

variable {t : Tables} {r : Registry} {pages : List Page}

/-- A row with draft metadata describes a page. -/
theorem exists_loadPage {row : PageRow} (hdraft : (t.metadataOf .draft row.code).isSome) :
    ∃ page, t.loadPage r row = .ok page := by
  obtain ⟨metadata, hmetadata⟩ := Option.isSome_iff_exists.1 hdraft
  unfold loadPage
  rw [loadVersion_of_metadata hmetadata]
  exact ⟨_, rfl⟩

/-- Draft metadata is all that it takes to load pages; their parents need not be stored. -/
theorem exists_loadPages_of_draft (hdraft : ∀ code row, t.pages.get? code = some row →
    (t.metadataOf .draft row.code).isSome) (r : Registry) :
    ∃ pages, t.loadPages r = .ok pages := by
  unfold loadPages
  simp only [mapM_eq_ok_iff]
  have hload : ∀ row ∈ t.pagesOrdered, ∃ page, t.loadPage r row = .ok page := by
    intro row hrow
    obtain ⟨code, hcode⟩ := Keyed.mem_values_iff.1 (List.mem_mergeSort.1 hrow)
    exact exists_loadPage (hdraft code row hcode)
  generalize t.pagesOrdered = rows at hload
  induction rows with
  | nil => exact ⟨[], rfl⟩
  | cons row rows ih =>
    obtain ⟨page, hpage⟩ := hload row List.mem_cons_self
    obtain ⟨pages, hpages⟩ := ih fun row hrow => hload row (List.mem_cons_of_mem _ hrow)
    exact ⟨page :: pages, by rw [List.map_cons, List.map_cons, hpage, hpages]⟩

/-- The pages of linked tables can be loaded. -/
theorem exists_loadPages (hlinked : t.IsLinked) (r : Registry) :
    ∃ pages, t.loadPages r = .ok pages :=
  exists_loadPages_of_draft hlinked.draft r

/-- A loaded page sits where its row says, and shows the group of the row and its stored
    versions. -/
theorem loadPage_eq_ok {row : PageRow} {page : Page} :
    t.loadPage r row = .ok page ↔ page.toPlacement = row.toPlacement ∧ page.group = row.group ∧
      t.loadVersion r .draft row.code = some page.draft ∧
      t.loadVersion r .online row.code = page.online := by
  unfold loadPage
  split
  · next hnone => simp [hnone]
  · next draft hdraft =>
    rw [Except.ok.injEq, hdraft]
    constructor
    · rintro rfl
      exact ⟨rfl, rfl, rfl, rfl⟩
    · rintro ⟨hplace, hgroup, hversion, honline⟩
      refine Page.ext_content hplace.symm ?_
      rw [Option.some.injEq] at hversion
      rw [Page.content, Page.content, hgroup, hversion, honline]

/-- The loaded pages are those that the rows describe. -/
theorem mem_loadPages (h : t.loadPages r = .ok pages) {page : Page} :
    page ∈ pages ↔ ∃ code row, t.pages.get? code = some row ∧ t.loadPage r row = .ok page := by
  have hmem : Except.ok page ∈ pages.map (Except.ok : Page → Except StoreError Page) ↔
      page ∈ pages := by simp
  rw [← hmem, ← mapM_eq_ok_iff.1 h, List.mem_map]
  simp only [pagesOrdered, List.mem_mergeSort, Keyed.mem_values_iff]
  constructor
  · rintro ⟨row, ⟨code, hcode⟩, hload⟩
    exact ⟨code, row, hcode, hload⟩
  · rintro ⟨code, row, hcode, hload⟩
    exact ⟨row, ⟨code, hcode⟩, hload⟩

/-- No pages are stored, so none are loaded. -/
theorem eq_nil_of_loadPages (hempty : t.pages = ∅) (h : t.loadPages r = .ok pages) :
    pages = [] := by
  refine List.eq_nil_iff_forall_not_mem.2 fun page hpage => ?_
  obtain ⟨code, row, hrow, -⟩ := (mem_loadPages h).1 hpage
  rw [hempty, Keyed.get?_empty] at hrow
  cases hrow

/-- When all pages were loaded, each row describes one of them. -/
theorem exists_mem_loadPages (h : t.loadPages r = .ok pages) {code : String} {row : PageRow}
    (hrow : t.pages.get? code = some row) : ∃ page ∈ pages, t.loadPage r row = .ok page := by
  have hmem : row ∈ t.pagesOrdered := List.mem_mergeSort.2 (Keyed.mem_values_iff.2 ⟨code, hrow⟩)
  have hload : t.loadPage r row ∈ t.pagesOrdered.map (t.loadPage r) := List.mem_map_of_mem hmem
  rw [mapM_eq_ok_iff.1 h, List.mem_map] at hload
  obtain ⟨page, hpage, heq⟩ := hload
  exact ⟨page, hpage, heq.symm⟩

/-- Rows that are filed under their codes are loaded under different codes. -/
theorem pairwise_code_pagesOrdered (hfiled : ∀ c p, t.places c = some p → p.code = c) :
    t.pagesOrdered.Pairwise fun a b => a.code ≠ b.code :=
  ((List.mergeSort_perm _ _).pairwise_iff fun hne => hne.symm).2 (pairwise_code_values hfiled)

theorem code_of_loadPage {row : PageRow} {page : Page} (h : t.loadPage r row = .ok page) :
    page.code = row.code := by
  rw [(loadPage_eq_ok.1 h).1]

/-- Rows that are filed under their codes describe pages with different codes. -/
theorem nodup_code_loadPages (hfiled : ∀ c p, t.places c = some p → p.code = c)
    (h : t.loadPages r = .ok pages) : (pages.map fun p => p.code).Nodup := by
  refine List.pairwise_map.2 (pairwise_of_mapM_eq_ok h
    (pairwise_code_pagesOrdered hfiled) fun a b x y hne hx hy => ?_)
  rw [code_of_loadPage hx, code_of_loadPage hy]
  exact hne

/-- The loaded pages are where the rows have them. -/
theorem places_loadPages (hfiled : ∀ c p, t.places c = some p → p.code = c)
    (h : t.loadPages r = .ok pages) (code : String) (place : Placement) :
    t.places code = some place ↔ ∃ p ∈ pages, p.code = code ∧ p.toPlacement = place := by
  simp only [mem_loadPages h]
  constructor
  · intro hplace
    obtain ⟨row, hrow, rfl⟩ := places_eq_some_iff.1 hplace
    obtain ⟨page, -, hload⟩ := exists_mem_loadPages h hrow
    have hc : row.code = code := hfiled _ _ (places_of_row hrow)
    exact ⟨page, ⟨code, row, hrow, hload⟩, (code_of_loadPage hload).trans hc,
      (loadPage_eq_ok.1 hload).1⟩
  · rintro ⟨p, ⟨c, row, hrow, hload⟩, rfl, rfl⟩
    have hc : row.code = c := hfiled _ _ (places_of_row hrow)
    rw [code_of_loadPage hload, hc, places_of_row hrow, (loadPage_eq_ok.1 hload).1]

/-- The site map of the loaded pages shows what the rows describe. -/
theorem mirrors_ofPages (hordered : t.places.IsOrdered) (h : t.loadPages r = .ok pages) :
    (Tree.ofPages pages).Mirrors r t := by
  have hnodup := nodup_code_loadPages hordered.filed h
  have hsorted : pages.Pairwise fun a b => a.parent = none → b.parent = none →
      a.position < b.position ∨ a.position = b.position ∧ a.code ≤ b.code := by
    refine pairwise_of_mapM_eq_ok h (pairwise_mergeSort_isLE t.pages.values)
      fun a b x y hle hx hy hroot hroot' => ?_
    have hplace := (loadPage_eq_ok.1 hx).1
    have hplace' := (loadPage_eq_ok.1 hy).1
    rw [hplace] at hroot ⊢
    rw [hplace'] at hroot' ⊢
    exact PageRow.isLE_order_of_root hle hroot hroot'
  refine ⟨Tree.follows_ofPages hordered hnodup (places_loadPages hordered.filed h) hsorted,
    funext fun code => ?_⟩
  apply Option.ext
  intro k
  rw [contents_eq_some_iff, Tree.contents, Option.map_eq_some_iff]
  simp only [Tree.get?_ofPages hnodup]
  constructor
  · rintro ⟨page, ⟨hpage, rfl⟩, rfl⟩
    obtain ⟨c, row, hrow, hload⟩ := (mem_loadPages h).1 hpage
    have hc : row.code = c := hordered.filed _ _ (places_of_row hrow)
    obtain ⟨-, hgroup, hdraft, honline⟩ := loadPage_eq_ok.1 hload
    rw [code_of_loadPage hload]
    exact ⟨row, hc.symm ▸ hrow, hgroup.symm, hdraft, honline⟩
  · rintro ⟨row, hrow, hgroup, hdraft, honline⟩
    have hc : row.code = code := hordered.filed _ _ (places_of_row hrow)
    obtain ⟨page, hpage, hload⟩ := exists_mem_loadPages h hrow
    refine ⟨page, ⟨hpage, (code_of_loadPage hload).trans hc⟩, ?_⟩
    obtain ⟨-, hgroup', hdraft', honline'⟩ := loadPage_eq_ok.1 hload
    rw [hc] at hdraft' honline'
    rw [hdraft', Option.some.injEq] at hdraft
    rw [Page.content, hgroup', hgroup, hdraft, ← honline', honline]

end Tables

end Sitemap
