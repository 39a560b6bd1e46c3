import Sitemap.Proofs.Hierarchy.Change
import Sitemap.Proofs.Hierarchy.Sorting
import Sitemap.Proofs.Order
import Sitemap.Proofs.Page.Content

/-!
# Site maps that follow places

A site map in memory keeps, besides the pages, a list of children for every page and the
code of the root. It follows some places when these agree with them; every change of the
site map keeps up with the same change of the places.

## Main definitions

- `Tree.places`, `Tree.contents` — where the pages of a site map sit, and what they show
- `Tree.Follows` — pages, lists of children and root agree with places
- `Tree.ShowsSame` — two site maps that no reader can tell apart

## Main results

- `Tree.pages_eq`, `Tree.Follows.unique` — places and contents determine what is shown
- `Tree.lists_sortCodes` — the children of a page, put in order, are its list
- `Tree.Follows.insert`, `Tree.Follows.remove`, `Tree.Follows.applyReparent`,
  `Tree.Follows.applySwap`, `Tree.Follows.edit` — changes keep up
-/

namespace Sitemap

namespace Tree

/-- Where the pages of a site map sit. -/
def places (t : Tree) : Places :=
  fun code => (t.get? code).map fun p => p.toPlacement

/-- What the pages of a site map show. -/
def contents (t : Tree) : Contents :=
  fun code => (t.get? code).map Page.content

/-- The site map shows pages at these places, lists the children of every page by position,
    and shows the last page without parent as its root. -/
structure Follows (t : Tree) (s : Places) : Prop where
  /-- The pages sit at the places. -/
  places : t.places = s
  /-- The list of a page is that of its children. -/
  children : ∀ parent, s.seat.Lists parent (t.children parent)
  /-- The root is the last page without parent. -/
  root : ∀ code, t.rootCode = some code ↔ s.IsLastRoot code

variable {t t' : Tree} {s : Places} {p : Page} {code parent : String}

theorem places_of_get? (h : t.get? code = some p) : t.places code = some p.toPlacement := by
  rw [places, h]
  rfl

theorem contents_of_get? (h : t.get? code = some p) : t.contents code = some p.content := by
  rw [contents, h]
  rfl

theorem places_eq_some_iff {place : Placement} :
    t.places code = some place ↔ ∃ p, t.get? code = some p ∧ p.toPlacement = place :=
  Option.map_eq_some_iff

/-- The pages that have a place are those of the site map. -/
theorem Follows.isSome_places {s : Places} (h : t.Follows s) (code : String) :
    (s code).isSome = (t.get? code).isSome := by
  rw [← h.places]
  exact Option.isSome_map

/-- In a site map that follows places in order, pages are filed under their codes. -/
theorem Follows.code_eq {s : Places} (h : t.Follows s) (hordered : s.IsOrdered) {code : String}
    {p : Page} (hpage : t.get? code = some p) : p.code = code := by
  have hplace := places_of_get? hpage
  rw [h.places] at hplace
  exact hordered.filed _ _ hplace

/-- Two site maps with the same places and the same contents have the same pages. -/
theorem pages_eq (hplaces : t'.places = t.places) (hcontents : t'.contents = t.contents) :
    t'.pages = t.pages := by
  apply Keyed.ext_get?
  intro code
  have hplace : (t'.get? code).map (fun p => p.toPlacement) =
      (t.get? code).map fun p => p.toPlacement := congrFun hplaces code
  have hcontent : (t'.get? code).map Page.content = (t.get? code).map Page.content :=
    congrFun hcontents code
  show t'.get? code = t.get? code
  cases hp : t.get? code with
  | none =>
    rw [hp] at hplace
    exact Option.map_eq_none_iff.1 hplace
  | some p =>
    rw [hp] at hplace hcontent
    obtain ⟨q, hq, hsame⟩ := Option.map_eq_some_iff.1 hplace
    rw [hq] at hcontent ⊢
    exact congrArg some (Page.ext_content hsame (Option.some.inj hcontent))

/-- Site maps that follow the same places show the same root and the same children. -/
theorem Follows.unique (h : t.Follows s) (h' : t'.Follows s) :
    t'.rootCode = t.rootCode ∧ ∀ parent, t'.children parent = t.children parent :=
  ⟨Option.ext fun code => (h'.root code).trans (h.root code).symm,
    fun parent => (h'.children parent).unique (h.children parent)⟩

/-- The same pages under the same codes, the same root and the same lists of children. -/
structure ShowsSame (t t' : Tree) : Prop where
  pages : t.pages = t'.pages
  rootCode : t.rootCode = t'.rootCode
  children : ∀ parent, t.children parent = t'.children parent

-- ════════════════════════════════════════════════════════════════════════
-- Children in order
-- ════════════════════════════════════════════════════════════════════════

/-- A child is put in order by its position. -/
theorem rank_of_seat {position : Int} (h : t.places.seat code = some (parent, position)) :
    t.rank code = position := by
  obtain ⟨place, hplace, -, rfl⟩ := Places.seat_eq_some_iff.1 h
  obtain ⟨p, hp, rfl⟩ := places_eq_some_iff.1 hplace
  rw [rank, hp]
  rfl

/-- The children of a page are sorted by putting them in order. -/
theorem sorts_sortCodes {l : List String} (hnodup : l.Nodup)
    (hmem : ∀ c, c ∈ l ↔ ∃ position, t.places.seat c = some (parent, position)) :
    t.places.seat.Sorts parent (t.sortCodes l) where
  mem_iff c := by rw [sortCodes, List.mem_mergeSort, hmem]
  ascending := by
    have hsorted : (t.sortCodes l).Pairwise fun a b => (t.listing a b).isLE :=
      pairwise_mergeSort_isLE l
    have hdistinct : (t.sortCodes l).Nodup := (List.mergeSort_perm l _).nodup_iff.2 hnodup
    refine (hsorted.and hdistinct).imp fun {a b} hab i j hi hj => ?_
    have hle := isLE_then_compare.1 hab.1
    rw [rank_of_seat hi, rank_of_seat hj] at hle
    exact hle.imp_right (And.imp_right fun hle => Std.lt_of_le_of_ne hle hab.2)

/-- The list of a page is what any list of its children is sorted to. -/
theorem sortCodes_of_lists {l codes : List String} (hlist : t.places.seat.Lists parent codes)
    (hperm : l.Perm codes) : t.sortCodes l = codes := by
  refine (sorts_sortCodes (hperm.nodup_iff.2 hlist.nodup) fun c => ?_).unique (.of_lists hlist)
  rw [hperm.mem_iff, hlist.mem_iff]

/-- The children of a page, put in order, are its list. -/
theorem lists_sortCodes (horder : t.places.seat.InOrder) {l : List String} (hnodup : l.Nodup)
    (hmem : ∀ c, c ∈ l ↔ ∃ position, t.places.seat c = some (parent, position)) :
    t.places.seat.Lists parent (t.sortCodes l) :=
  (sorts_sortCodes hnodup hmem).lists horder

theorem children_sortChildren (t : Tree) (parent q : String) :
    (t.sortChildren parent).children q =
      if q = parent then t.sortCodes (t.children q) else t.children q := by
  unfold sortChildren children
  dsimp only
  rw [Keyed.get?_modify]
  split
  · cases t.childLists.get? q with
    | none => simp [sortCodes]
    | some codes => rfl
  · rfl

theorem children_listChild (t : Tree) (parent code q : String) :
    (t.listChild parent code).children q =
      if q = parent then t.children parent ++ [code] else t.children q := by
  unfold listChild children
  dsimp only
  rw [Keyed.get?_insert]
  split <;> rfl

theorem children_unlistChild (t : Tree) (parent code q : String) :
    (t.unlistChild parent code).children q =
      if q = parent then (t.children q).filter (fun c => c ≠ code) else t.children q := by
  unfold unlistChild children
  dsimp only
  rw [Keyed.get?_modify]
  split
  · cases t.childLists.get? q <;> rfl
  · rfl

-- ════════════════════════════════════════════════════════════════════════
-- Pages that change in place
-- ════════════════════════════════════════════════════════════════════════

theorem get?_edit (t : Tree) (code : String) (f : Page → Page) (c : String) :
    (t.edit code f).get? c = if c = code then (t.get? c).map f else t.get? c :=
  Keyed.get?_modify _ _ _ _

/-- Changing a page in place loses no page. -/
theorem isSome_get?_edit (t : Tree) (code : String) (f : Page → Page) (c : String) :
    ((t.edit code f).get? c).isSome = (t.get? c).isSome := by
  rw [get?_edit]
  split
  · exact Option.isSome_map
  · rfl

/-- A page that changes what it shows stays in its place. -/
theorem places_edit {f : Page → Page} (hf : ∀ p, (f p).toPlacement = p.toPlacement) :
    (t.edit code f).places = t.places := by
  funext c
  unfold places
  rw [get?_edit]
  split
  · rw [Option.map_map]
    exact congrArg (Option.map · (t.get? c)) (funext hf)
  · rfl

/-- A page that is changed shows the change. -/
theorem contents_edit {f : Page → Page} {g : PageContent → PageContent}
    (hf : ∀ p, (f p).content = g p.content) :
    (t.edit code f).contents = fun c =>
      if c = code then (t.contents c).map g else t.contents c := by
  funext c
  unfold contents
  rw [get?_edit]
  split
  · rw [Option.map_map, Option.map_map]
    exact congrArg (Option.map · (t.get? c)) (funext hf)
  · rfl

/-- A site map keeps up when a page changes what it shows. -/
theorem Follows.edit (h : t.Follows s) {f : Page → Page}
    (hf : ∀ p, (f p).toPlacement = p.toPlacement) : (t.edit code f).Follows s where
  places := (places_edit hf).trans h.places
  children := h.children
  root := h.root

/-- A page whose slots are changed shows the change. -/
theorem contents_withSlots (hpage : t.get? code = some p) (time : Timestamp)
    (change : Slots → Slots) :
    (t.edit code fun q => q.withSlots time (change p.draft.slots)).contents = fun c =>
      if c = code then (t.contents c).map fun k => k.withSlots time change
      else t.contents c := by
  have hedited : (t.edit code fun q => q.withSlots time (change p.draft.slots)).contents = _ :=
    contents_edit (g := fun k => k.withSlots time fun _ => change p.draft.slots) fun _ => rfl
  rw [hedited]
  exact Contents.change_congr (contents_of_get? hpage) rfl

theorem contents_replace (t : Tree) (p : Page) :
    (t.replace p).contents = fun c =>
      if c = p.code then (t.contents c).map fun _ => p.content else t.contents c :=
  contents_edit fun _ => rfl

/-- A page that is replaced by one in its place is that one. -/
theorem get?_replace {q : Page} (hpage : t.get? p.code = some q)
    (hplace : p.toPlacement = q.toPlacement) : (t.replace p).get? p.code = some p := by
  rw [replace, get?_edit, if_pos rfl, hpage, Option.map_some, ← hplace]

/-- Replacing a page keeps its place. -/
theorem Follows.replace (h : t.Follows s) (p : Page) :
    (t.replace p).Follows s :=
  h.edit fun _ => rfl

-- ════════════════════════════════════════════════════════════════════════
-- A new page
-- ════════════════════════════════════════════════════════════════════════

theorem get?_append (t : Tree) (p : Page) (c : String) :
    (t.append p).get? c = if c = p.code then some p else t.get? c := by
  unfold append
  dsimp only
  split
  · exact Keyed.get?_insert _ _ _ _
  · exact Keyed.get?_insert _ _ _ _

theorem get?_insert (t : Tree) (p : Page) (c : String) :
    (t.insert p).get? c = if c = p.code then some p else t.get? c := by
  unfold insert
  split
  · exact get?_append t p c
  · exact get?_append t p c

theorem places_insert (t : Tree) (p : Page) :
    (t.insert p).places = Places.Change.apply t.places (.add p.toPlacement) := by
  funext c
  unfold places Places.Change.apply
  rw [get?_insert]
  dsimp only
  split <;> rfl

theorem contents_insert (t : Tree) (p : Page) :
    (t.insert p).contents = fun c => if c = p.code then some p.content else t.contents c := by
  funext c
  unfold contents
  rw [get?_insert]
  split <;> rfl

/-- A new page is listed in order among the children of its parent. -/
theorem children_insert (t : Tree) (hparent : p.parent = some parent) (q : String) :
    (t.insert p).children q =
      if q = parent then (t.insert p).sortCodes (t.children parent ++ [p.code])
      else t.children q := by
  have hinsert : t.insert p = (Tree.listChild { t with pages := t.pages.insert p.code p }
      parent p.code).sortChildren parent := by
    unfold Tree.insert append
    rw [hparent]
  rw [hinsert, children_sortChildren, children_listChild]
  split <;> rfl

theorem rootCode_insert (t : Tree) (hparent : p.parent = some parent) :
    (t.insert p).rootCode = t.rootCode := by
  unfold insert append
  rw [hparent]
  rfl

/-- A site map keeps up when a page is added. -/
theorem Follows.insert (h : t.Follows s) (hfits : s.Fits (.add p.toPlacement)) :
    (t.insert p).Follows (Places.Change.apply s (.add p.toPlacement)) := by
  have hplaces : (t.insert p).places = Places.Change.apply s (.add p.toPlacement) := by
    rw [places_insert, h.places]
  have hroot : ∀ {c}, Places.IsLastRoot _ c ↔ s.IsLastRoot c := hfits.isLastRoot_iff
  generalize hplace : p.toPlacement = place at hfits hplaces hroot ⊢
  cases hfits with
  | @add code parent codes hnew _ hlist =>
  obtain rfl : p.code = code := congrArg Placement.code hplace
  have hparent : p.parent = some parent := congrArg Placement.parent hplace
  obtain rfl := hlist.unique (h.children parent)
  refine ⟨hplaces, fun q => ?_, fun c => ?_⟩
  · rw [children_insert t hparent]
    by_cases hq : q = parent
    · have hlast := hlist.place_append (Places.seat_eq_none hnew)
      rw [← Places.seat_add] at hlast
      rw [if_pos hq, hq, sortCodes_of_lists (by rw [hplaces]; exact hlast) (.refl _)]
      exact hlast
    · rw [if_neg hq, Places.seat_add]
      exact (h.children q).place_of_ne hq (Places.seat_eq_none hnew)
  · rw [hroot, ← h.root, rootCode_insert t hparent]

-- ════════════════════════════════════════════════════════════════════════
-- A page that leaves
-- ════════════════════════════════════════════════════════════════════════

theorem get?_closeGap (t : Tree) (position : Int) (c : String) :
    (t.closeGap parent position).get? c = (t.get? c).map fun p =>
      { p with toPlacement := p.toPlacement.closeGap parent position } :=
  Keyed.get?_map _ _ _

/-- The site map after a page with a parent was removed. -/
theorem remove_eq (hpage : t.get? code = some p) (hparent : p.parent = some parent) :
    t.remove code = ((Tree.unlistChild { t with
      pages := t.pages.erase code
      childLists := t.childLists.erase code } parent code).closeGap parent p.position) := by
  unfold remove
  rw [hpage]
  dsimp only
  rw [hparent]

theorem get?_remove (hpage : t.get? code = some p) (hparent : p.parent = some parent)
    (c : String) : (t.remove code).get? c = if c = code then none
      else (t.get? c).map fun q =>
        { q with toPlacement := q.toPlacement.closeGap parent p.position } := by
  have herase : Tree.get? (Tree.unlistChild { t with
      pages := t.pages.erase code
      childLists := t.childLists.erase code } parent code) c =
      if c = code then none else t.get? c := Keyed.get?_erase _ _ _
  rw [remove_eq hpage hparent, get?_closeGap, herase]
  split <;> rfl

theorem places_remove (hpage : t.get? code = some p) (hparent : p.parent = some parent) :
    (t.remove code).places = Places.Change.apply t.places (.drop code parent p.position) := by
  funext c
  unfold places Places.Change.apply
  rw [get?_remove hpage hparent]
  dsimp only
  split
  · rfl
  · rw [Option.map_map, Option.map_map]
    rfl

/-- The list of one page is dropped. -/
theorem children_erase (hlists : t'.childLists = t.childLists.erase code) (q : String) :
    t'.children q = if q = code then [] else t.children q := by
  unfold children
  rw [hlists, Keyed.get?_erase]
  split <;> rfl

theorem children_remove (hpage : t.get? code = some p) (hparent : p.parent = some parent)
    (q : String) : (t.remove code).children q = if q = code then []
      else if q = parent then (t.children q).filter (fun c => c ≠ code) else t.children q := by
  have hremove : (t.remove code).children q = (Tree.unlistChild { t with
      pages := t.pages.erase code
      childLists := t.childLists.erase code } parent code).children q := by
    rw [remove_eq hpage hparent]
    rfl
  rw [hremove, children_unlistChild, children_erase rfl]
  by_cases hq : q = code
  · rw [if_pos hq, if_pos hq]
    split <;> rfl
  · rw [if_neg hq, if_neg hq]

/-- The site map after a page without parent was removed. -/
theorem remove_eq_of_root (hpage : t.get? code = some p) (hroot : p.parent = none) :
    t.remove code = { t with
      pages := t.pages.erase code
      childLists := t.childLists.erase code
      rootCode := none } := by
  unfold remove
  rw [hpage]
  dsimp only
  rw [hroot]

theorem places_remove_of_root (hpage : t.get? code = some p) (hroot : p.parent = none)
    (c : String) : (t.remove code).places c = if c = code then none else t.places c := by
  rw [remove_eq_of_root hpage hroot]
  unfold places get?
  dsimp only
  rw [Keyed.get?_erase]
  split <;> rfl

/-- A page that leaves takes what it shows with it. -/
theorem contents_remove (hpage : t.get? code = some p) (hparent : p.parent = some parent) :
    (t.remove code).contents = fun c => if c = code then none else t.contents c := by
  funext c
  unfold contents
  rw [get?_remove hpage hparent]
  split
  · rfl
  · rw [Option.map_map]
    rfl

/-- A site map keeps up when a page leaves. -/
theorem Follows.remove (h : t.Follows s) (hpage : t.get? code = some p)
    (hparent : p.parent = some parent) (hfits : s.Fits (.drop code parent p.position)) :
    (t.remove code).Follows (Places.Change.apply s (.drop code parent p.position)) := by
  have hroot : ∀ {c}, Places.IsLastRoot _ c ↔ s.IsLastRoot c := hfits.isLastRoot_iff
  cases hfits with
  | drop hplace hleaf =>
  have hseat := Places.seat_of_place hplace rfl
  refine ⟨?_, fun q => ?_, fun c => ?_⟩
  · rw [places_remove hpage hparent, h.places]
  · rw [children_remove hpage hparent]
    by_cases hq : q = code
    · -- the page that leaves had no children, and it gets none
      rw [if_pos hq, hq]
      intro c k
      refine iff_of_false (fun hchild => ?_) (by simp)
      obtain ⟨place, hafter, hbelow, -⟩ := Places.seat_eq_some_iff.1 hchild
      have hcode := Places.parentOf_eq_some_iff.2 ⟨place, hafter, hbelow⟩
      rw [Places.parentOf_drop] at hcode
      split at hcode
      · cases hcode
      · exact hleaf c hcode
    · rw [if_neg hq, Places.seat_drop]
      by_cases hqp : q = parent
      · rw [if_pos hqp]
        subst hqp
        exact (h.children q).leave_filter hseat
      · rw [if_neg hqp]
        exact (h.children q).leave_of_ne hqp hseat
  · rw [hroot, ← h.root, remove_eq hpage hparent]
    rfl

-- ════════════════════════════════════════════════════════════════════════
-- A page that moves
-- ════════════════════════════════════════════════════════════════════════

theorem get?_applyReparent (t : Tree) (plan : ReparentPlan) (c : String) :
    (t.applyReparent plan).get? c =
      (if c = plan.code then (t.get? c).map fun p =>
          { p with parent := some plan.newParent, position := plan.newPosition }
        else t.get? c).map fun p =>
          { p with toPlacement := p.toPlacement.closeGap plan.oldParent plan.oldPosition } := by
  have hedit := get?_edit t plan.code (fun p =>
    { p with parent := some plan.newParent, position := plan.newPosition }) c
  rw [← hedit]
  exact get?_closeGap _ _ c

/-- Moving a page loses no page. -/
theorem isSome_get?_applyReparent (t : Tree) (plan : ReparentPlan) (c : String) :
    ((t.applyReparent plan).get? c).isSome = (t.get? c).isSome := by
  rw [get?_applyReparent, Option.isSome_map]
  split
  · exact Option.isSome_map
  · rfl

theorem places_applyReparent (t : Tree) (plan : ReparentPlan) :
    (t.applyReparent plan).places = Places.Change.apply t.places (.reparent plan) := by
  funext c
  unfold places Places.Change.apply
  rw [get?_applyReparent, Option.map_map]
  dsimp only
  split
  · simp only [Option.map_map]
    rfl
  · rw [Option.map_map]
    rfl

/-- A page that moves shows what it showed before. -/
theorem contents_applyReparent (t : Tree) (plan : ReparentPlan) :
    (t.applyReparent plan).contents = t.contents := by
  funext c
  unfold contents
  rw [get?_applyReparent, Option.map_map]
  split
  · rw [Option.map_map]
    rfl
  · rfl

theorem children_applyReparent (t : Tree) (plan : ReparentPlan)
    (hne : plan.oldParent ≠ plan.newParent) (q : String) :
    (t.applyReparent plan).children q =
      if q = plan.newParent then
        (t.applyReparent plan).sortCodes (t.children plan.newParent ++ [plan.code])
      else if q = plan.oldParent then (t.children q).filter (fun c => c ≠ plan.code)
      else t.children q := by
  unfold applyReparent
  dsimp only
  rw [children_sortChildren]
  have hlisted : ∀ (u : Tree) (k : Int) (c : String),
      (u.closeGap plan.oldParent k).children c = u.children c := fun _ _ _ => rfl
  have hedited : ∀ f c, (t.edit plan.code f).children c = t.children c := fun _ _ => rfl
  rw [hlisted, children_listChild, children_unlistChild, children_unlistChild, hedited, hedited]
  by_cases hq : q = plan.newParent
  · rw [if_pos hq, if_pos hq, if_pos hq, if_neg hne.symm]
    rfl
  · rw [if_neg hq, if_neg hq, if_neg hq]

/-- A site map keeps up when a page moves below another parent. -/
theorem Follows.applyReparent (h : t.Follows s) {plan : ReparentPlan}
    (hfits : s.Fits (.reparent plan)) :
    (t.applyReparent plan).Follows (Places.Change.apply s (.reparent plan)) := by
  have hroot : ∀ {c}, Places.IsLastRoot _ c ↔ s.IsLastRoot c := hfits.isLastRoot_iff
  have hplaces : (t.applyReparent plan).places = Places.Change.apply s (.reparent plan) := by
    rw [places_applyReparent, h.places]
  cases hfits with
  | @reparent _ codes hplace hnew hne hlist hposition _ =>
  obtain rfl := hlist.unique (h.children plan.newParent)
  have hseat := Places.seat_of_place hplace rfl
  have hstored : (s plan.code).isSome := by
    rw [hplace]
    rfl
  have hleft : s.seat.leave plan.code plan.oldParent plan.oldPosition plan.code = none :=
    if_pos rfl
  refine ⟨hplaces, fun q => ?_, fun c => ?_⟩
  · rw [children_applyReparent t plan hne]
    by_cases hq : q = plan.newParent
    · have hlast := (hlist.leave_of_ne hne.symm hseat).place_append hleft
      rw [← hposition, ← Places.seat_reparent hstored hne] at hlast
      rw [if_pos hq, hq, sortCodes_of_lists (by rw [hplaces]; exact hlast) (.refl _)]
      exact hlast
    · rw [if_neg hq, Places.seat_reparent hstored hne]
      by_cases hqo : q = plan.oldParent
      · rw [if_pos hqo]
        subst hqo
        exact ((h.children _).leave_filter hseat).place_of_ne hq hleft
      · rw [if_neg hqo]
        exact ((h.children q).leave_of_ne hqo hseat).place_of_ne hq hleft
  · rw [hroot, ← h.root]
    rfl

-- ════════════════════════════════════════════════════════════════════════
-- Neighbours that are exchanged
-- ════════════════════════════════════════════════════════════════════════

theorem get?_applySwap (t : Tree) (plan : SwapPlan) (hne : plan.down ≠ plan.up) (c : String) :
    (t.applySwap plan).get? c =
      if c = plan.down then (t.get? c).map fun p => { p with position := p.position + 1 }
      else if c = plan.up then (t.get? c).map fun p => { p with position := p.position - 1 }
      else t.get? c := by
  have hedit : (t.applySwap plan).get? c = ((t.edit plan.up fun p =>
      { p with position := p.position - 1 }).edit plan.down fun p =>
      { p with position := p.position + 1 }).get? c := by
    unfold applySwap
    dsimp only
    split <;> rfl
  rw [hedit, get?_edit, get?_edit]
  by_cases hc : c = plan.down
  · rw [if_pos hc, if_pos hc, if_neg (by rw [hc]; exact hne)]
  · rw [if_neg hc, if_neg hc]

theorem places_applySwap (t : Tree) (plan : SwapPlan) (hne : plan.down ≠ plan.up) :
    (t.applySwap plan).places = Places.Change.apply t.places (.swap plan) := by
  funext c
  unfold places Places.Change.apply
  rw [get?_applySwap t plan hne]
  dsimp only
  split
  · rw [Option.map_map, Option.map_map]
    rfl
  · split
    · rw [Option.map_map, Option.map_map]
      rfl
    · rfl

/-- Pages that are exchanged show what they showed before. -/
theorem contents_applySwap (t : Tree) (plan : SwapPlan) (hne : plan.down ≠ plan.up) :
    (t.applySwap plan).contents = t.contents := by
  funext c
  unfold contents
  rw [get?_applySwap t plan hne]
  split
  · rw [Option.map_map]
    rfl
  · split
    · rw [Option.map_map]
      rfl
    · rfl

theorem children_applySwap (t : Tree) {plan : SwapPlan} (hup : t.get? plan.up = some p)
    (hparent : p.parent = some parent) (q : String) :
    (t.applySwap plan).children q =
      if q = parent then (t.applySwap plan).sortCodes (t.children q) else t.children q := by
  unfold applySwap
  rw [hup]
  dsimp only [Option.bind_some]
  rw [hparent]
  exact children_sortChildren _ _ _

/-- A site map keeps up when neighbours are exchanged. -/
theorem Follows.applySwap (h : t.Follows s) (horder : s.IsOrdered) {plan : SwapPlan}
    (hfits : s.Fits (.swap plan)) :
    (t.applySwap plan).Follows (Places.Change.apply s (.swap plan)) := by
  have hroot : ∀ {c}, Places.IsLastRoot _ c ↔ s.IsLastRoot c := hfits.isLastRoot_iff
  have hafter := (horder.apply hfits).seats
  have hne := hfits.ne_of_swap
  have hplaces : (t.applySwap plan).places = Places.Change.apply s (.swap plan) := by
    rw [places_applySwap t plan hne, h.places]
  cases hfits with
  | @swap _ parent position hup hdown =>
  have hseat := Places.seat_of_place hup rfl
  have hseat' := Places.seat_of_place hdown rfl
  obtain ⟨p, hp, hplace⟩ := places_eq_some_iff.1 ((congrFun h.places plan.up).trans hup)
  have hparent : p.parent = some parent := by rw [hplace]
  refine ⟨hplaces, fun q => ?_, fun c => ?_⟩
  · rw [children_applySwap t hp hparent]
    by_cases hq : q = parent
    · rw [if_pos hq]
      subst hq
      rw [← hplaces] at hafter ⊢
      -- the children are the same pages as before, only their order is another one
      refine lists_sortCodes hafter (h.children q).nodup fun c => ?_
      rw [(h.children q).mem_iff, hplaces, Places.seat_swap]
      exact Seats.exists_swap_iff.symm
    · rw [if_neg hq, Places.seat_swap]
      exact (h.children q).swap_of_ne hq hseat hseat'
  · rw [hroot, ← h.root]
    unfold Tree.applySwap
    dsimp only
    split <;> rfl

end Tree

end Sitemap
