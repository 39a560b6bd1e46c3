import Sitemap.Proofs.Hierarchy.Arithmetic
import Sitemap.Proofs.Rows.Filing

/-!
# Plans on rows and on the site map

Moves are planned twice: against the stored rows, before they are changed, and against the site
map in memory, before a request goes to the store. Rows look for the children of a page among all
pages, which they keep by code, while a site map keeps a list of them by position. The plans are
the same ones nevertheless, and not only for rows in order. For rows in order they are those of a
program that works in 32 bits as well.

## Main results

- `Tables.plans_are_exact` — plans on rows in order are exact in 32 bits
- `Tables.plans_agree` — rows and the site map that is loaded from them agree on all plans
-/

namespace Sitemap

namespace Tables

variable {t : Tables} {r : Registry} {pages : List Page}

/-- No page has more children than there are pages. -/
theorem length_childPositions_le (t : Tables) (parent : String) :
    (t.siblings.childPositions parent).length ≤ t.pages.size := by
  unfold siblings childRows
  rw [List.length_map]
  exact (List.length_filter_le _ _).trans_eq (List.length_map _)

/-- A program that works in 32 bits makes the exact plans on rows in order, if there are fewer of
    them than positions. -/
theorem plans_are_exact (hordered : t.places.IsOrdered) (hfew : t.pages.size < 2147483647)
    (a : Arithmetic) :
    (∀ parent, a.nextPosition (t.siblings.childPositions parent) =
        some (t.siblings.nextPosition parent)) ∧
      (∀ code newParent, a.planReparent t.siblings code newParent =
        some (t.siblings.planReparent code newParent)) ∧
      ∀ code up, a.planSwap t.siblings code up = some (t.siblings.planSwap code up) :=
  (isExact_siblings hordered.filed).isFaithful.plans_are_exact hordered
    t.length_childPositions_le hfew a

/-- The site map of the loaded pages has the places of the rows, whatever these are. -/
theorem places_of_loadPages (hkeyed : t.IsKeyed) (hload : t.loadPages r = .ok pages) :
    (Tree.ofPages pages).places = t.places := by
  funext code
  refine Option.ext fun place => ?_
  rw [Tree.places_ofPages (nodup_code_loadPages hkeyed.places hload),
    places_loadPages hkeyed.places hload]

/-- The same plans are made against rows and against the site map that is loaded from them, and
    they are refused for the same reasons. Positions may be taken twice or leave gaps, parents may
    be missing, and pages may run in a circle. -/
theorem plans_agree (hkeyed : t.IsKeyed) (hload : t.loadPages r = .ok pages) :
    (Tree.ofPages pages).siblings.Agrees t.siblings :=
  (Tree.isSorted_ofPages (nodup_code_loadPages hkeyed.places hload)).isExact_siblings.agrees
    (isExact_siblings hkeyed.places) (places_of_loadPages hkeyed hload)

/-- Below `home` the pages `b` and `a` share a position. The pages `x` and `y` are each other's
    parents, and the parent of `z` is missing. -/
theorem plans_agree_sample :
    let row (code : String) (parent : Option String) (position : Int) : String × PageRow :=
      (code, ⟨⟨code, parent, position⟩, "free"⟩)
    let rows := [row "home" none 1, row "b" (some "home") 2, row "a" (some "home") 2,
      row "c" (some "home") 3, row "x" (some "y") 1, row "y" (some "x") 1, row "z" (some "lost") 3]
    let draft := (PageVersion.empty "home" 2).toMetadata
    let t : Tables :=
      { Tables.empty with
        pages := .ofList rows
        metadata := ⟨.ofList (rows.map fun e => (e.1, draft)), ∅⟩ }
    t.IsKeyed ∧ ∃ pages, t.loadPages Registry.empty = .ok pages ∧
      let tree := Tree.ofPages pages
      tree.siblings.planSwap "c" true = .ok (some ⟨"c", "a"⟩) ∧
        tree.siblings.planReparent "z" "home" = .ok (some ⟨"z", "lost", 3, "home", 4⟩) ∧
        tree.siblings.planReparent "x" "y" = .error (.cyclicMove "x" "y") ∧
        tree.siblings.ancestors "x" = ["y", "x"] := by
  intro row rows draft t
  have hrows : ∀ e ∈ t.pages.entries,
      e.2.code = e.1 ∧ (t.metadataOf .draft e.2.code).isSome := by decide +kernel
  have hkeyed : t.IsKeyed := fun code row hrow => (hrows _ (Keyed.get?_eq_some_iff.1 hrow)).1
  obtain ⟨pages, hload⟩ := exists_loadPages_of_draft
    (fun code row hrow => (hrows _ (Keyed.get?_eq_some_iff.1 hrow)).2) Registry.empty
  have hagrees := plans_agree hkeyed hload
  refine ⟨hkeyed, pages, hload, ?_, ?_, ?_, ?_⟩
  · rw [hagrees.planSwap]
    decide +kernel
  · rw [hagrees.planReparent]
    decide +kernel
  · rw [hagrees.planReparent]
    decide +kernel
  · rw [hagrees.ancestors]
    decide +kernel

end Tables

end Sitemap
