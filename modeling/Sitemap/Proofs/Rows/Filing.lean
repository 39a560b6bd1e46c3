import Sitemap.Proofs.Rows.Loaded
import Sitemap.Rows.Statement

/-!
# Filing of page rows

The reference check and the loader go by the keys of the pages and by the codes in their
rows, as if these were the same. They are, as long as the rows are changed by statements.

## Main definitions

- `Tables.IsKeyed` — every row is filed under the code of its page
- `Tables.Presents` — loaded pages present the rows, one page a row

## Main results

- `Statement.pages_run` — all that a statement can do to the rows of pages
- `Statement.isKeyed_runAll` — statements keep the filing, refused ones included
- `Tables.presents_of_loadPages` — filed rows are loaded in strictly ascending order
-/

namespace Sitemap

/-- Every row is filed under the code of its page. -/
def Tables.IsKeyed (t : Tables) : Prop :=
  ∀ code row, t.pages.get? code = some row → row.code = code

/-- The row that a loaded page presents. -/
def Page.row (p : Page) : PageRow :=
  ⟨p.toPlacement, p.group⟩

/-- Loaded pages present the rows, each row once. -/
structure Tables.Presents (t : Tables) (pages : List Page) : Prop where
  /-- There is one page for each row, with its parent, its position and its group. -/
  rows : (pages.map Page.row).Perm t.pages.values
  /-- No page comes after or beside another that it precedes by parent, position and code. -/
  ascending : pages.Pairwise fun a b => a.row.order b.row = .lt
  /-- A page is online when there is online metadata for it. -/
  online : ∀ p ∈ pages, p.online.isSome = (t.metadataOf .online p.code).isSome

variable {t : Tables}

theorem Tables.IsKeyed.of_pages {t' : Tables} (h : t.IsKeyed) (hpages : t'.pages = t.pages) :
    t'.IsKeyed := by
  intro code row hrow
  rw [hpages] at hrow
  exact h code row hrow

-- ════════════════════════════════════════════════════════════════════════
-- Statements
-- ════════════════════════════════════════════════════════════════════════

namespace Tables

@[simp]
theorem pages_insertWidgets {edition : Edition} {code : String} {rows : List (Int × Widget)} :
    (insertWidgets edition code rows t).2.pages = t.pages := by
  induction rows generalizing t with
  | nil => rfl
  | cons e rest ih =>
    obtain ⟨frame, w⟩ := e
    unfold insertWidgets
    split
    · next hinsert => rw [ih, (touches_of_insertWidget hinsert).1.pages]
    · rfl

/-- A publication leaves the rows of pages, wherever it stops. -/
@[simp]
theorem pages_copyDraftToOnline {code : String} :
    (t.copyDraftToOnline code).2.pages = t.pages := by
  unfold copyDraftToOnline
  split
  · rfl
  · split
    · rfl
    · next hmetadata => rw [pages_insertWidgets, (touches_of_insertMetadata hmetadata).1.pages]

end Tables

namespace Statement

/-- All that can become of the rows of pages. -/
inductive Rewrites (before : Keyed String PageRow) : Keyed String PageRow → Prop where
  /-- They stay. -/
  | kept : Rewrites before before
  /-- A row is filed under its code, which was free. -/
  | inserted {row : PageRow} (hfree : before.get? row.code = none) :
      Rewrites before (before.insert row.code row)
  /-- A row is dropped. -/
  | dropped {code : String} : Rewrites before (before.erase code)
  /-- Rows are changed in all but their codes. -/
  | mapped {f : String → PageRow → PageRow} (hcode : ∀ key row, (f key row).code = row.code) :
      Rewrites before (before.map f)

/-- A statement that is settled rewrites rows if it does so when it succeeds. -/
theorem rewrites_settle {α : Type} {outcome : Except StoreError α}
    {after : α → StatementReply × Tables}
    (h : ∀ a, outcome = .ok a → Rewrites t.pages (after a).2.pages) :
    Rewrites t.pages (settle t outcome after).2.pages := by
  cases outcome with
  | error e => exact .kept
  | ok a => exact h a rfl

theorem rewrites_of_modifyPage {t' : Tables} {code : String} {f : PageRow → PageRow}
    (hcode : ∀ row, (f row).code = row.code) (h : t.modifyPage code f = .ok t') :
    Rewrites t.pages t'.pages := by
  obtain ⟨-, rfl⟩ := Tables.modifyPage_eq_ok.1 h
  show Rewrites t.pages (t.pages.map fun key row => if compare code key = .eq then f row else row)
  refine .mapped fun key row => ?_
  split
  · exact hcode row
  · rfl

/-- What a statement does to the rows of pages, whether it is refused or not. -/
theorem pages_run (s : Statement) (t : Tables) : Rewrites t.pages (s.run t).2.pages := by
  cases s with
  | insertPage row =>
    refine rewrites_settle fun t' h => ?_
    obtain ⟨hfree, rfl⟩ := Tables.insertPage_eq_ok.1 h
    exact .inserted hfree
  | deletePage code =>
    refine rewrites_settle fun (row, t') h => ?_
    obtain ⟨-, rfl⟩ := Tables.deletePage_eq_ok.1 h
    exact .dropped
  | updatePage | updateTreePosition | offsetPosition =>
    exact rewrites_settle fun t' => rewrites_of_modifyPage fun _ => rfl
  | shiftPages parent position =>
    show Rewrites t.pages (t.pages.map fun _ row =>
      { row with toPlacement := row.toPlacement.closeGap parent position })
    exact .mapped fun key row => Placement.code_closeGap row.toPlacement
  | insertMetadata =>
    refine rewrites_settle fun t' h => ?_
    rw [(Tables.touches_of_insertMetadata h).1.pages]
    exact .kept
  | stampMetadata =>
    refine rewrites_settle fun t' h => ?_
    rw [(Tables.touches_of_stampMetadata h).1.pages]
    exact .kept
  | insertWidget =>
    refine rewrites_settle fun t' h => ?_
    rw [(Tables.touches_of_insertWidget h).1.pages]
    exact .kept
  | updateWidgetFrame =>
    refine rewrites_settle fun (n, t') h => ?_
    rw [Tables.pages_of_updateWidgetFrame h]
    exact .kept
  | deleteMetadata | deleteWidgets => exact .kept
  | deleteWidget edition code frame =>
    show Rewrites t.pages (t.deleteWidget edition code frame).pages
    rw [(t.touches_deleteWidget edition code frame).1.pages]
    exact .kept
  | copyDraftToOnline code =>
    show Rewrites t.pages (t.copyDraftToOnline code).2.pages
    rw [Tables.pages_copyDraftToOnline]
    exact .kept

/-- Rewritten rows stay filed under their codes. -/
theorem Rewrites.isKeyed {t' : Tables} (hrewrites : Rewrites t.pages t'.pages) (h : t.IsKeyed) :
    t'.IsKeyed := by
  intro code row hrow
  generalize t'.pages = pages at hrow hrewrites
  cases hrewrites with
  | kept => exact h code row hrow
  | @inserted new _ =>
    rw [Keyed.get?_insert] at hrow
    split at hrow
    · next hcode =>
      cases hrow
      exact hcode.symm
    · exact h code row hrow
  | dropped =>
    rw [Keyed.get?_erase] at hrow
    split at hrow
    · cases hrow
    · exact h code row hrow
  | mapped hcode =>
    rw [Keyed.get?_map] at hrow
    obtain ⟨old, hold, rfl⟩ := Option.map_eq_some_iff.1 hrow
    exact (hcode code old).trans (h code old hold)

theorem isKeyed_run (h : t.IsKeyed) (s : Statement) : (s.run t).2.IsKeyed :=
  (s.pages_run t).isKeyed h

theorem isKeyed_runAll (h : t.IsKeyed) (statements : List Statement) :
    (runAll statements t).IsKeyed := by
  induction statements generalizing t with
  | nil => exact h
  | cons s rest ih => exact ih (isKeyed_run h s)

end Statement

-- ════════════════════════════════════════════════════════════════════════
-- Loading
-- ════════════════════════════════════════════════════════════════════════

namespace Tables

theorem IsKeyed.places (h : t.IsKeyed) : ∀ code place, t.places code = some place →
    place.code = code := by
  intro code place hplace
  obtain ⟨row, hrow, rfl⟩ := places_eq_some_iff.1 hplace
  exact h code row hrow

theorem IsKeyed.ascending_pagesOrdered (h : t.IsKeyed) :
    t.pagesOrdered.Pairwise fun a b => a.order b = .lt := by
  have hsorted : t.pagesOrdered.Pairwise fun a b => (a.order b).isLE :=
    pairwise_mergeSort_isLE t.pages.values
  refine (hsorted.and (pairwise_code_pagesOrdered h.places)).imp fun {a b} hab => ?_
  obtain ⟨hle, hne⟩ := hab
  cases hcompare : a.order b with
  | lt => rfl
  | eq =>
    -- only a row of the same code compares equal
    unfold PageRow.order at hcompare
    have hcode := (Ordering.then_eq_eq.1 (Ordering.then_eq_eq.1 hcompare).2).2
    exact absurd (Std.compare_eq_iff_eq.1 hcode) hne
  | gt =>
    rw [hcompare] at hle
    cases hle

theorem row_of_loadPage {r : Registry} {row : PageRow} {page : Page}
    (h : t.loadPage r row = .ok page) : page.row = row := by
  obtain ⟨hplace, hgroup, -⟩ := loadPage_eq_ok.1 h
  rw [Page.row, hplace, hgroup]

/-- The loaded pages present the rows in the order in which these are listed. -/
theorem map_row_of_loadPages {r : Registry} {pages : List Page}
    (h : t.loadPages r = .ok pages) : pages.map Page.row = t.pagesOrdered := by
  unfold loadPages at h
  generalize t.pagesOrdered = rows at h
  induction rows generalizing pages with
  | nil =>
    cases h
    rfl
  | cons row rows ih =>
    simp only [List.mapM_cons, bind_eq_ok, pure_eq_ok] at h
    obtain ⟨page, hpage, rest, hrest, rfl⟩ := h
    rw [List.map_cons, row_of_loadPage hpage, ih hrest]

/-- Filed rows are loaded one page a row, in strictly ascending order. -/
theorem presents_of_loadPages (hfiled : t.IsKeyed) {r : Registry} {pages : List Page}
    (h : t.loadPages r = .ok pages) : t.Presents pages := by
  have hrows := map_row_of_loadPages h
  refine ⟨?_, ?_, fun p hp => ?_⟩
  · rw [hrows]
    exact List.mergeSort_perm _ _
  · have hascending := hfiled.ascending_pagesOrdered
    rw [← hrows] at hascending
    exact List.pairwise_map.1 hascending
  · obtain ⟨code, row, -, hload⟩ := (mem_loadPages h).1 hp
    have honline := (loadPage_eq_ok.1 hload).2.2.2
    rw [← honline, code_of_loadPage hload, loadVersion, Option.isSome_map]

end Tables

end Sitemap
