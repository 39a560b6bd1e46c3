import Sitemap.Proofs.Hierarchy.Undoing
import Sitemap.Proofs.Rows.Success

/-!
# Edits taken back

What an edit of the hierarchy did to the rows is taken back by another edit, in all five tables:
exchanging a page with the neighbour on the other side, and deleting a page that was added.

## Main results

- `Tables.ext_files` — tables that file the same about every page are equal
- `RowEdit.swapPositions_reversed` — neighbours are exchanged back
- `RowEdit.deletePage_of_addPage` — a page that was added can be deleted, and nothing is left
-/

namespace Sitemap

/-- Tables are equal when they have the same pages, in the same places and of the same groups, and
    file the same about each of them. -/
theorem Tables.ext_files {t t' : Tables} (hplaces : t'.places = t.places)
    (hgroup : ∀ c, (t'.pages.get? c).map (·.group) = (t.pages.get? c).map (·.group))
    (hmetadata : ∀ e c, t'.metadataOf e c = t.metadataOf e c)
    (hwidgets : ∀ e c, (t'.widgets.get e).get? c = (t.widgets.get e).get? c) : t' = t := by
  have hpages : t'.pages = t.pages := by
    apply Keyed.ext_get?
    intro c
    exact get?_pages_congr (congrFun hplaces c) (hgroup c)
  have hmetadata' : ∀ e, t'.metadata.get e = t.metadata.get e :=
    fun e => Keyed.ext_get? (hmetadata e)
  have hwidgets' : ∀ e, t'.widgets.get e = t.widgets.get e :=
    fun e => Keyed.ext_get? (hwidgets e)
  obtain ⟨pages, ⟨draft, online⟩, draftWidgets, onlineWidgets⟩ := t
  obtain ⟨pages', ⟨draft', online'⟩, draftWidgets', onlineWidgets'⟩ := t'
  obtain rfl : pages' = pages := hpages
  obtain rfl : draft' = draft := hmetadata' .draft
  obtain rfl : online' = online := hmetadata' .online
  obtain rfl : draftWidgets' = draftWidgets := hwidgets' .draft
  obtain rfl : onlineWidgets' = onlineWidgets := hwidgets' .online
  rfl

namespace RowEdit

open Tables

variable {t t' : Tables} {r : Registry} {time : Timestamp} {page : Page} {code : String}

/-- A page that was exchanged with a neighbour is exchanged with it again by the step to the other
    side. -/
theorem swapPositions_reversed (hordered : t.places.IsOrdered) {up : Bool} {plan : SwapPlan}
    (h : swapPositions code up t = .ok (some plan, t')) :
    swapPositions code (!up) t' = .ok (some plan.reversed, t) := by
  obtain ⟨-, hfits, hplaces⟩ := places_of_swapPositions hordered h
  have hordered' : t'.places.IsOrdered := by
    rw [hplaces]
    exact hordered.apply hfits
  have hplan : t'.siblings.planSwap code (!up) = .ok (some plan.reversed) :=
    (isExact_siblings hordered.filed).isFaithful.planSwap_reversed
      (isExact_siblings hordered'.filed) hordered (plan_of_swapPositions h) hplaces
  obtain ⟨u, hagain⟩ := exists_swapPositions hordered' hplan
  obtain ⟨-, -, hplaces'⟩ := places_of_swapPositions hordered' hagain
  obtain ⟨hmetadata, hwidgets⟩ := editions_of_swapPositions h
  obtain ⟨hmetadata', hwidgets'⟩ := editions_of_swapPositions hagain
  have hback : u = t := by
    refine ext_files ?_ (fun c => ?_) (fun e c => ?_) fun e c => ?_
    · rw [hplaces', hplaces, hfits.swap_swap]
    · rw [group_of_swapPositions hagain, group_of_swapPositions h]
    · rw [metadataOf, hmetadata', hmetadata, metadataOf]
    · rw [hwidgets', hwidgets]
  rw [hagain, hback]

/-- A page that was added below a stored page can be deleted, and the rows are those from before:
    it has no children, nobody comes behind it, and nothing was filed under its code. -/
theorem deletePage_of_addPage (hlinked : t.IsLinked) (hordered : t.places.IsOrdered)
    {stored : Page} {parent : String} (hparent : page.parent = some parent)
    (hbelow : (t.places parent).isSome) (h : addPage r time page t = .ok (stored, t')) :
    deletePage page.code t' = .ok ((), t) := by
  obtain ⟨hfree, hpages, hstored⟩ := pages_of_addPage h
  obtain ⟨hfits, hplaces⟩ := fits_of_addPage hordered hparent hbelow h
  have hcode : stored.code = page.code := by rw [hstored]
  have hbelow' : stored.parent = some parent := by rw [hstored, hparent]
  have hplace : t'.places page.code = some stored.toPlacement := by
    rw [hplaces, ← hcode]
    exact if_pos rfl
  have hordered' : t'.places.IsOrdered := by
    rw [hplaces]
    exact hordered.apply hfits
  have hvacant : t.places page.code = none := places_eq_none_iff.2 hfree
  have hleaf : t'.hasChildren page.code = false := by
    refine hasChildren_eq_false_iff.2 fun c hchild => ?_
    rw [hplaces, Places.parentOf_add] at hchild
    split at hchild
    · rw [hbelow', Option.some.injEq] at hchild
      rw [hchild, hvacant] at hbelow
      cases hbelow
    · have hparents := hlinked.isSome_places hchild
      rw [hvacant] at hparents
      cases hparents
  obtain ⟨⟨⟨⟩, u⟩, hdelete⟩ := exists_deletePage
    (Option.isSome_of_eq_some (by rw [hpages, Keyed.get?_insert_self])) hleaf
  obtain ⟨-, hplaces'⟩ := places_of_deletePage hordered' hplace hbelow' hdelete
  obtain ⟨hspares, hgone⟩ := spares_of_deletePage hdelete
  have hkept := (spares_of_addPage h).trans hspares
  have hback : u = t := by
    refine ext_files ?_ (fun c => ?_) (fun e c => ?_) fun e c => ?_
    · rw [hplaces', hplaces, ← hcode]
      exact hfits.drop_add hbelow'
    · rw [group_of_deletePage hdelete, hpages, Keyed.get?_insert]
      by_cases hc : c = page.code
      · rw [if_pos hc, hc, hfree, Option.map_none]
      · rw [if_neg hc, if_neg hc]
    · by_cases hc : c = page.code
      · rw [hc, (hgone e).1, hlinked.metadataOf_eq_none hfree]
      · exact (hkept c hc).metadata e
    · by_cases hc : c = page.code
      · rw [hc, (hgone e).2, hlinked.filed_eq_none hfree]
      · exact (hkept c hc).widgets e
  rw [hdelete, hback]

end RowEdit

end Sitemap
