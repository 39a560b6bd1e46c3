import Sitemap.Proofs.Rows.Places

/-!
# The shape of edited rows

What every edit of the rows makes of pages that form a tree. Some edits keep a tree whatever
they are given, the others do so under a condition, and the rows are not even sound where it
fails.

## Main results

- `RowEdit.isTree_of_movePage`, `RowEdit.isTree_of_swapPositions` — moves keep a tree
- `RowEdit.isTree_of_addPage`, `RowEdit.parent_of_addPage` — a new page must be below another
- `RowEdit.isTree_of_deletePage`, `RowEdit.parentOf_of_deletePage` — the root must stay
- `RowEdit.isTree_of_updatePage`, `RowEdit.admits_of_updatePage` — a parent that is written
  must be admitted
-/

namespace Sitemap

namespace RowEdit

open Tables Places

variable {t t' : Tables} {r : Registry} {time : Timestamp} {page : Page} {code top : String}

theorem isTree_of_movePage (htree : t.places.IsTree top) {newParent : String}
    {moved : Option ReparentPlan} (h : movePage code newParent t = .ok (moved, t')) :
    t'.places.IsTree top := by
  have hplaces := places_of_movePage htree.toIsOrdered h
  cases moved with
  | none =>
    rw [hplaces]
    exact htree
  | some plan =>
    obtain ⟨-, -, hfits, hplaces⟩ := hplaces
    rw [hplaces]
    exact htree.apply hfits

theorem isTree_of_swapPositions (htree : t.places.IsTree top) {up : Bool}
    {swapped : Option SwapPlan} (h : swapPositions code up t = .ok (swapped, t')) :
    t'.places.IsTree top := by
  have hplaces := places_of_swapPositions htree.toIsOrdered h
  cases swapped with
  | none =>
    rw [hplaces]
    exact htree
  | some plan =>
    obtain ⟨-, hfits, hplaces⟩ := hplaces
    rw [hplaces]
    exact htree.apply hfits

/-- A new page below another one keeps a tree. -/
theorem isTree_of_addPage (htree : t.places.IsTree top) (hlinked : t'.IsLinked) {stored : Page}
    {parent : String} (hparent : page.parent = some parent) (hne : parent ≠ page.code)
    (h : addPage r time page t = .ok (stored, t')) : t'.places.IsTree top := by
  obtain ⟨codes, hnew, hlist, hplace, hplaces⟩ :=
    places_of_addPage htree.toIsOrdered hparent h
  -- the commit has made sure that the parent is there, and it is not the new page
  have hstored : (t.places parent).isSome := by
    have hchild : t'.places.parentOf page.code = some parent := by
      rw [hplaces, parentOf_add, hplace, if_pos rfl]
    have hafter := hlinked.isSome_places hchild
    rw [hplaces, hplace] at hafter
    unfold Change.apply at hafter
    dsimp only at hafter
    rwa [if_neg hne] at hafter
  rw [hplaces, hplace]
  exact htree.apply (.add hnew hstored hlist)

/-- A new page that leaves the rows sound is below another one. -/
theorem parent_of_addPage (htree : t.places.IsTree top) (hsound : t'.places.IsSound)
    {stored : Page} (h : addPage r time page t = .ok (stored, t')) :
    ∃ parent, page.parent = some parent ∧ parent ≠ page.code := by
  obtain ⟨hfree, hcode, hparent, hplaces⟩ := places_of_newPage h
  have hnew : t'.places page.code = some stored.toPlacement := by
    rw [hplaces]
    exact if_pos hcode.symm
  cases hp : page.parent with
  | none =>
    -- the new page would be a second root
    have hne : top ≠ page.code := by
      rintro rfl
      rw [htree.root] at hfree
      cases hfree
    have htop : t'.places top = some ⟨top, none, 1⟩ := by
      rw [hplaces, ← htree.root]
      exact if_neg (hcode.symm ▸ hne)
    obtain ⟨root, -, hunique⟩ := hsound.root
    have hfirst := hunique top ⟨_, htop, rfl⟩
    have hsecond := hunique page.code ⟨_, hnew, hparent.trans hp⟩
    exact absurd (hfirst.trans hsecond.symm) hne
  | some parent =>
    refine ⟨parent, rfl, ?_⟩
    rintro rfl
    have hchild := parentOf_eq_some_iff.2 ⟨_, hnew, hparent.trans hp⟩
    exact absurd .refl (hsound.acyclic _ _ hchild)

/-- Deleting a page that has a parent keeps a tree. -/
theorem isTree_of_deletePage (htree : t.places.IsTree top) {parent : String} {u : Unit}
    (hparent : t.places.parentOf code = some parent)
    (h : deletePage code t = .ok (u, t')) : t'.places.IsTree top := by
  obtain ⟨place, hplace, hbelow⟩ := parentOf_eq_some_iff.1 hparent
  obtain ⟨hfits, hplaces⟩ := places_of_deletePage htree.toIsOrdered hplace hbelow h
  rw [hplaces]
  exact htree.apply hfits

/-- Deleting the root leaves no root. -/
theorem parentOf_of_deletePage (htree : t.places.IsTree top) (hsound : t'.places.IsSound)
    {u : Unit} (h : deletePage code t = .ok (u, t')) : (t.places.parentOf code).isSome := by
  obtain ⟨row, hrow, -, dropped, hdropped, rfl⟩ := pages_of_deletePage h
  obtain ⟨-, rfl⟩ := deletePage_eq_ok.1 hdropped
  have hplace := places_of_row hrow
  cases hparent : row.parent with
  | some parent =>
    rw [parentOf_eq_some_iff.2 ⟨_, hplace, hparent⟩]
    rfl
  | none =>
    rw [hparent] at hsound
    obtain ⟨root, ⟨place, hroot, hnone⟩, -⟩ := hsound.root
    unfold places dropEditions at hroot
    dsimp only at hroot
    rw [Keyed.get?_erase] at hroot
    split at hroot
    · cases hroot
    · next hne =>
      have hold : t.places root = some place := hroot
      have htop := htree.single _ _ hold hnone
      have hcode := htree.single _ _ hplace hparent
      exact absurd (htop.trans hcode.symm) hne

/-- Writing a parent that is admitted keeps a tree. -/
theorem isTree_of_updatePage (htree : t.places.IsTree top) (hlinked : t'.IsLinked)
    {draft : PageVersion} (hadmits : t.places.Admits page.code page.parent)
    (h : updatePage r time page t = .ok (draft, t')) : t'.places.IsTree top := by
  obtain ⟨hstored, hplaces⟩ := places_of_updatePage h
  have hparent : ∀ q, page.parent = some q → (t.places q).isSome := by
    intro q hq
    have hwritten : t'.places.parentOf page.code = some q := by
      rw [hplaces, parentOf_rewrite hstored, if_pos rfl, hq]
    have hafter := hlinked.isSome_places hwritten
    rw [hplaces] at hafter
    unfold Places.rewrite at hafter
    split at hafter
    · simpa using hafter
    · exact hafter
  rw [hplaces]
  exact htree.rewrite hparent hadmits

/-- A parent that leaves the rows sound is admitted. -/
theorem admits_of_updatePage (htree : t.places.IsTree top) (hsound : t'.places.IsSound)
    {draft : PageVersion} (h : updatePage r time page t = .ok (draft, t')) :
    t.places.Admits page.code page.parent := by
  obtain ⟨hstored, hplaces⟩ := places_of_updatePage h
  rw [hplaces] at hsound
  exact htree.admits_of_isSound hstored hsound

end RowEdit

end Sitemap
