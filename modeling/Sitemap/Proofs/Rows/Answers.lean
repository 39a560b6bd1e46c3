import Sitemap.Proofs.Rows.Steps

/-!
# Answers of edits that store versions

Adding a page answers with the page, rewriting a draft answers with the draft. Both are answered
with the time of the write, but with the widgets that were given: what the rows keep of these is
known only once the page is loaded again.

## Main definitions

- `Tables.loadedUnder` — the pages that are loaded with a code

## Main results

- `Tables.loadedUnder_eq_ok` — the one page that a row describes
- `RowEdit.loadPage_of_addPage` — a new page is loaded as the rows hold the answer
-/

namespace Sitemap

variable {t t' : Tables} {r : Registry} {time : Timestamp} {page : Page} {code : String}

namespace Tables

/-- The pages that are loaded with a code. -/
def loadedUnder (t : Tables) (r : Registry) (code : String) : Except StoreError (List Page) :=
  (t.loadPages r).map fun pages => pages.filter fun p => p.code = code

/-- With a code that is stored, the page of its row is loaded and no other. -/
theorem loadedUnder_eq_ok (hlinked : t.IsLinked) (hfiled : t.IsKeyed) {row : PageRow}
    (hrow : t.pages.get? code = some row) (hload : t.loadPage r row = .ok page) :
    t.loadedUnder r code = .ok [page] := by
  obtain ⟨pages, hpages⟩ := exists_loadPages hlinked r
  have hnodup : pages.Nodup := (nodup_code_loadPages hfiled.places hpages).of_map
  have hcode : page.code = code := (code_of_loadPage hload).trans (hfiled code row hrow)
  have hperm : (pages.filter fun p => p.code = code).Perm [page] := by
    rw [List.perm_ext_iff_of_nodup (hnodup.filter _) (List.nodup_singleton page)]
    intro p
    rw [List.mem_filter, decide_eq_true_eq, List.mem_singleton]
    constructor
    · rintro ⟨hp, rfl⟩
      obtain ⟨key, row', hrow', hload'⟩ := (mem_loadPages hpages).1 hp
      have hkey : key = p.code := (hfiled key row' hrow').symm.trans (code_of_loadPage hload').symm
      rw [hkey, hrow] at hrow'
      cases hrow'
      exact Except.ok.inj (hload'.symm.trans hload)
    · rintro rfl
      exact ⟨(mem_loadPages hpages).2 ⟨code, row, hrow, hload⟩, hcode⟩
  unfold loadedUnder
  rw [hpages]
  exact congrArg Except.ok (List.perm_singleton.1 hperm)

end Tables

namespace RowEdit

open Tables

/-- A new page is loaded where the answer has it, and as the rows hold the answer. -/
theorem loadPage_of_addPage (hlinked : t.IsLinked)
    (hframes : ∀ e v, page.version e = some v → r.frameCount v.model = some v.slots.frameCount)
    {stored : Page} (h : addPage r time page t = .ok (stored, t')) :
    ∃ row, t'.pages.get? page.code = some row ∧ t'.loadPage r row = .ok (stored.asStored r) := by
  have hloaded := loadVersion_of_addPage hlinked hframes h
  obtain ⟨-, hpages, rfl⟩ := pages_of_addPage h
  rw [hpages, Keyed.get?_insert_self]
  exact ⟨_, rfl, loadPage_eq_ok.2 ⟨rfl, rfl, hloaded .draft, hloaded .online⟩⟩

end RowEdit

end Sitemap
