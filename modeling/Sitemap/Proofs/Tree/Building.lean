import Sitemap.Proofs.Tree.Sorting
import Mathlib.Data.List.Induction

/-!
# Building a site map

The site map of some pages lists the children of each of them in order, when the pages have
different codes. It follows their places, when these are in order and the pages come as stored
pages are listed.

## Main results

- `Tree.get?_ofPages`, `Tree.children_ofPages`, `Tree.rootCode_ofPages` — what is built
- `Tree.isSorted_ofPages` — it lists the children of every page in order
- `Tree.follows_ofPages` — the site map of pages follows their places
-/

namespace Sitemap

namespace Tree

variable {t : Tree} {p : Page} {pages : List Page} {code parent : String}

theorem children_append (t : Tree) (p : Page) (q : String) :
    (t.append p).children q =
      if p.parent = some q then t.children q ++ [p.code] else t.children q := by
  unfold append
  dsimp only
  split
  · next parent hparent =>
    rw [children_listChild, hparent]
    by_cases hq : q = parent
    · rw [if_pos hq, if_pos (by rw [hq]), hq]
      rfl
    · rw [if_neg hq, if_neg (by simpa using Ne.symm hq)]
      rfl
  · next hparent =>
    rw [hparent]
    rfl

theorem rootCode_append (t : Tree) (p : Page) :
    (t.append p).rootCode = if p.parent = none then some p.code else t.rootCode := by
  unfold append
  dsimp only
  split
  · next parent hparent =>
    rw [hparent]
    rfl
  · next hparent =>
    rw [hparent]
    rfl

/-- Putting all lists of children in order. -/
theorem children_sortAll (t : Tree) (q : String) :
    t.sortAll.children q = t.sortCodes (t.children q) := by
  unfold sortAll children
  dsimp only
  rw [Keyed.get?_map]
  cases t.childLists.get? q with
  | none => simp [sortCodes]
  | some codes => rfl

/-- Pages with different codes are all found. -/
theorem get?_ofPages (hnodup : (pages.map fun p => p.code).Nodup) :
    (ofPages pages).get? code = some p ↔ p ∈ pages ∧ p.code = code := by
  show (pages.foldl append empty).get? code = some p ↔ _
  induction pages using List.reverseRecOn generalizing code p with
  | nil => simp [empty, get?]
  | append_singleton pages last ih =>
    rw [List.map_append, List.nodup_append] at hnodup
    obtain ⟨hfirst, -, hdisjoint⟩ := hnodup
    rw [List.foldl_append, List.foldl_cons, List.foldl_nil, get?_append, List.mem_append,
      List.mem_singleton]
    by_cases hcode : code = last.code
    · subst hcode
      rw [if_pos rfl]
      constructor
      · intro heq
        exact ⟨.inr (Option.some.inj heq).symm, by rw [Option.some.inj heq]⟩
      · rintro ⟨hmem | rfl, hcode⟩
        · have hne := hdisjoint p.code (List.mem_map.2 ⟨p, hmem, rfl⟩) last.code (by simp)
          exact absurd hcode hne
        · rfl
    · rw [if_neg hcode, ih hfirst]
      constructor
      · rintro ⟨hmem, hp⟩
        exact ⟨.inl hmem, hp⟩
      · rintro ⟨hmem | rfl, hp⟩
        · exact ⟨hmem, hp⟩
        · exact absurd hp.symm hcode

/-- The children of a page are listed as they come, and then put in order. -/
theorem children_ofPages (q : String) : (ofPages pages).children q =
    (ofPages pages).sortCodes
      ((pages.filter fun p => p.parent = some q).map fun p => p.code) := by
  have hlisted : (pages.foldl append empty).children q =
      (pages.filter fun p => p.parent = some q).map fun p => p.code := by
    induction pages using List.reverseRecOn with
    | nil => rfl
    | append_singleton pages last ih =>
      rw [List.foldl_append, List.foldl_cons, List.foldl_nil, children_append, ih,
        List.filter_append, List.map_append]
      by_cases hq : last.parent = some q
      · simp [hq]
      · simp [hq]
  unfold ofPages
  rw [children_sortAll, hlisted]
  rfl

/-- The root is the last page without parent. -/
theorem rootCode_ofPages : (ofPages pages).rootCode =
    ((pages.filter fun p => p.parent = none).map fun p => p.code).getLast? := by
  show (pages.foldl append empty).rootCode = _
  induction pages using List.reverseRecOn with
  | nil => rfl
  | append_singleton pages last ih =>
    rw [List.foldl_append, List.foldl_cons, List.foldl_nil, rootCode_append, ih,
      List.filter_append, List.map_append]
    by_cases hroot : last.parent = none
    · simp [hroot]
    · simp [hroot]

/-- Pages with different codes are put where they say. -/
theorem places_ofPages (hnodup : (pages.map fun p => p.code).Nodup) {place : Placement} :
    (ofPages pages).places code = some place ↔ ∃ p ∈ pages, p.code = code ∧ p.toPlacement = place := by
  rw [places_eq_some_iff]
  simp only [get?_ofPages hnodup, and_assoc]

/-- Pages with different codes are listed in order, whatever positions they hold. -/
theorem isSorted_ofPages (hnodup : (pages.map fun p => p.code).Nodup) :
    (ofPages pages).IsSorted := by
  intro parent
  rw [children_ofPages]
  refine sorts_sortCodes (hnodup.sublist (List.filter_sublist.map _)) fun c => ?_
  simp only [List.mem_map, List.mem_filter, decide_eq_true_eq, Places.seat_eq_some_iff,
    places_ofPages hnodup]
  constructor
  · rintro ⟨p, ⟨hp, hparent⟩, rfl⟩
    exact ⟨_, _, ⟨p, hp, rfl, rfl⟩, hparent, rfl⟩
  · rintro ⟨_, _, ⟨p, hp, rfl, rfl⟩, hparent, rfl⟩
    exact ⟨p, ⟨hp, hparent⟩, rfl⟩

/-- The site map of pages follows their places. -/
theorem follows_ofPages {s : Places} (hordered : s.IsOrdered)
    (hnodup : (pages.map fun p => p.code).Nodup)
    (hplaces : ∀ code place, s code = some place ↔
      ∃ p ∈ pages, p.code = code ∧ p.toPlacement = place)
    (hsorted : pages.Pairwise fun a b => a.parent = none → b.parent = none →
      a.position < b.position ∨ a.position = b.position ∧ a.code ≤ b.code) :
    (ofPages pages).Follows s := by
  have hshown : (ofPages pages).places = s := by
    funext code
    refine Option.ext fun place => ?_
    rw [places_ofPages hnodup, hplaces]
  -- a page without parent that comes last in the list is the last one of all
  have hlast : ∀ code, (ofPages pages).rootCode = some code → s.IsLastRoot code := by
    intro code hroot
    rw [rootCode_ofPages, List.getLast?_map, Option.map_eq_some_iff] at hroot
    obtain ⟨p, hp, rfl⟩ := hroot
    obtain ⟨before, hbefore⟩ := List.getLast?_eq_some_iff.1 hp
    have hmem : p ∈ pages ∧ p.parent = none := by
      have : p ∈ pages.filter fun p => p.parent = none := by simp [hbefore]
      simpa using this
    refine ⟨_, (hplaces _ _).2 ⟨p, hmem.1, rfl, rfl⟩, hmem.2, fun c place hplace hroot => ?_⟩
    obtain ⟨q, hq, rfl, rfl⟩ := (hplaces _ _).1 hplace
    have hfiltered : q ∈ pages.filter fun p => p.parent = none := by simp [hq, hroot]
    rw [hbefore, List.mem_append, List.mem_singleton] at hfiltered
    rcases hfiltered with hearlier | rfl
    · have hpairs := hsorted.filter fun p => p.parent = none
      rw [hbefore, List.pairwise_append] at hpairs
      exact hpairs.2.2 q hearlier p (by simp) hroot hmem.2
    · exact .inr ⟨rfl, String.le_refl _⟩
  refine ⟨hshown, fun parent => ?_, fun code => ⟨hlast code, fun hroot => ?_⟩⟩
  · rw [← hshown]
    exact (isSorted_ofPages hnodup parent).lists (hshown ▸ hordered.seats)
  · have hplaced := hroot
    obtain ⟨place, hplace, hparent, -⟩ := hplaced
    obtain ⟨p, hp, rfl, rfl⟩ := (hplaces _ _).1 hplace
    cases hcode : (ofPages pages).rootCode with
    | none =>
      rw [rootCode_ofPages, List.getLast?_eq_none_iff, List.map_eq_nil_iff,
        List.filter_eq_nil_iff] at hcode
      exact absurd hparent (by simpa using hcode p hp)
    | some other => rw [(hlast other hcode).unique hroot]

end Tree

end Sitemap
