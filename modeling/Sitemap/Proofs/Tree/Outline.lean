import Sitemap.Proofs.Hierarchy.Listing
import Sitemap.Proofs.Tree.Following
import Sitemap.Tree.Outline

/-!
# Outlines of changing site maps

Every change of a site map is told by events, so that an outline which is kept up to date by
them is the outline of the changed site map.

## Main definitions

- `Outline.Describes` — an outline has the pages of a site map, where they sit, and which of
  them are online

## Main results

- `Tree.outline_insert`, `Tree.outline_remove`, `Tree.outline_applyReparent`,
  `Tree.outline_applySwap` — changes of the hierarchy are told
- `Tree.outline_published`, `Tree.outline_unpublished`, `Tree.outline_edit` — so are changes of
  pages
- `Tree.Follows.describes_outline` — the outline of a tree of pages describes it
-/

namespace Sitemap

/-- An outline has the pages of a site map: where each of them sits, and whether it is online. -/
structure Outline.Describes (o : Outline) (t : Tree) : Prop where
  /-- The pages are the root page and those on the lists. -/
  pages : ∀ code, (t.get? code).isSome ↔ o.root = some code ∨ ∃ parent, code ∈ o.children parent
  /-- The page without parent is the root page. -/
  root : ∀ code, (∃ p, t.get? code = some p ∧ p.parent = none) ↔ o.root = some code
  /-- A page is on the list of its parent, at its position. -/
  seats : ∀ code parent (i : Nat),
    (∃ p, t.get? code = some p ∧ p.parent = some parent ∧ p.position = i + 1) ↔
      (o.children parent)[i]? = some code
  /-- The pages online are told apart. -/
  online : ∀ code, o.online code = true ↔ ∃ p, t.get? code = some p ∧ p.isOnline = true

namespace Outline

@[simp]
theorem replay_append (o : Outline) (before after : List Event) :
    o.replay (before ++ after) = (o.replay before).replay after :=
  List.foldl_append

/-- Outlines are compared list by list and page by page. -/
theorem ext_iff' {o o' : Outline} : o = o' ↔ o.root = o'.root ∧
    (∀ parent, o.children parent = o'.children parent) ∧ ∀ code, o.online code = o'.online code := by
  constructor
  · rintro rfl
    exact ⟨rfl, fun _ => rfl, fun _ => rfl⟩
  · obtain ⟨root, children, online⟩ := o
    obtain ⟨root', children', online'⟩ := o'
    rintro ⟨rfl, hchildren, honline⟩
    obtain rfl := funext hchildren
    obtain rfl := funext honline
    rfl

end Outline

namespace Tree

variable {t t' : Tree} {s : Places} {p : Page} {code parent : String}

theorem online_outline (t : Tree) (code : String) :
    t.outline.online code = (t.contents code).any fun k => k.online.isSome := by
  rw [contents, Option.any_map]
  rfl

theorem outline_congr (hroot : t'.rootCode = t.rootCode)
    (hchildren : ∀ q, t'.children q = t.children q) (hpages : t'.pages = t.pages) :
    t'.outline = t.outline := by
  refine Outline.ext_iff'.2 ⟨hroot, hchildren, fun c => ?_⟩
  show (t'.pages.get? c).any Page.isOnline = (t.pages.get? c).any Page.isOnline
  rw [hpages]

/-- The root page stays when the hierarchy is changed by a change that fits. -/
theorem Follows.rootCode_eq {change : Places.Change} (h : t.Follows s)
    (h' : t'.Follows (change.apply s)) (hfits : s.Fits change) : t'.rootCode = t.rootCode :=
  Option.ext fun code => (h'.root code).trans (hfits.isLastRoot_iff.trans (h.root code).symm)

-- ════════════════════════════════════════════════════════════════════════
-- Changes of the hierarchy
-- ════════════════════════════════════════════════════════════════════════

theorem outline_insert (h : t.Follows s) (hfits : s.Fits (.add p.toPlacement))
    (hparent : p.parent = some parent) (hnew : t.get? p.code = none) (honline : p.online = none) :
    (t.insert p).outline = t.outline.tell (.added p.code parent) := by
  have hfollows := h.insert hfits
  refine Outline.ext_iff'.2 ⟨h.rootCode_eq hfollows hfits, fun q => ?_, fun c => ?_⟩
  · exact (hfollows.children q).unique (hfits.lists_add hparent (h.children q))
  · show ((t.insert p).get? c).any Page.isOnline = (t.get? c).any Page.isOnline
    rw [get?_insert]
    split
    · next hc =>
      rw [hc, hnew, Option.any_some, Page.isOnline, honline]
      rfl
    · rfl

/-- A page that is removed is told to be gone, after it was told to go offline if need be. -/
theorem outline_remove (h : t.Follows s) (hpage : t.get? code = some p)
    (hparent : p.parent = some parent) (hfits : s.Fits (.drop code parent p.position)) :
    (t.remove code).outline =
      ((if p.isOnline then t.outline.tell (.unpublished code) else t.outline).tell
        (.deleted code)) := by
  have hfollows := h.remove hpage hparent hfits
  refine Outline.ext_iff'.2 ⟨?_, fun q => ?_, fun c => ?_⟩
  · rw [apply_ite (Outline.tell · _), apply_ite Outline.root]
    exact (h.rootCode_eq hfollows hfits).trans (ite_self _).symm
  · rw [apply_ite (Outline.tell · _), apply_ite (Outline.children · _)]
    exact ((hfollows.children q).unique (hfits.lists_drop (h.children q))).trans (ite_self _).symm
  · have hgone : (t.remove code).outline.online c = (c ≠ code && t.outline.online c) := by
      rw [online_outline, contents_remove hpage hparent, online_outline]
      dsimp only
      split
      · next hc => simp [hc]
      · next hc => simp [hc]
    rw [hgone, apply_ite (Outline.tell · _), apply_ite (Outline.online · _)]
    split
    · rfl
    · next hoffline =>
      by_cases hc : c = code
      · subst hc
        show _ = (t.get? c).any Page.isOnline
        simp [hpage, hoffline]
      · simp [hc, Outline.tell, Outline.strike]

/-- A page that moves below another parent is told to sit where it does then. -/
theorem outline_applyReparent (h : t.Follows s) {plan : ReparentPlan}
    (hfits : s.Fits (.reparent plan)) : (t.applyReparent plan).outline =
      t.outline.tell (.moved plan.code plan.newParent plan.newPosition) := by
  have hfollows := h.applyReparent hfits
  refine Outline.ext_iff'.2 ⟨h.rootCode_eq hfollows hfits, fun q => ?_, fun c => ?_⟩
  · exact (hfollows.children q).unique (hfits.lists_reparent (h.children q))
  · rw [online_outline, contents_applyReparent]
    exact (online_outline t c).symm

/-- Pages that exchange their places have a parent. -/
theorem exists_page_of_applySwap (h : t.Follows s) (hordered : s.IsOrdered) {plan : SwapPlan}
    (hfits : s.Fits (.swap plan)) (hcode : plan.up = code ∨ plan.down = code) :
    ∃ p parent, (t.applySwap plan).get? code = some p ∧ p.parent = some parent := by
  have hfollows := h.applySwap hordered hfits
  have hseat : ∃ parent position,
      (Places.Change.apply s (.swap plan)).seat code = some (parent, position) := by
    cases hfits with
    | @swap _ parent _ hup hdown =>
      rw [Places.seat_swap]
      refine ⟨parent, Seats.exists_swap_iff.2 ?_⟩
      rcases hcode with rfl | rfl
      · exact ⟨_, Places.seat_of_place hup rfl⟩
      · exact ⟨_, Places.seat_of_place hdown rfl⟩
  obtain ⟨parent, position, hseat⟩ := hseat
  obtain ⟨place, hplace, hparent, -⟩ := Places.seat_eq_some_iff.1 hseat
  rw [← hfollows.places] at hplace
  obtain ⟨p, hpage, rfl⟩ := places_eq_some_iff.1 hplace
  exact ⟨p, parent, hpage, hparent⟩

/-- Of neighbours that exchange their places, one is told to sit where it does then. -/
theorem outline_applySwap (h : t.Follows s) (hordered : s.IsOrdered) {plan : SwapPlan}
    (hfits : s.Fits (.swap plan)) (hcode : plan.up = code ∨ plan.down = code)
    (hpage : (t.applySwap plan).get? code = some p) (hparent : p.parent = some parent) :
    (t.applySwap plan).outline = t.outline.tell (.moved code parent p.position) := by
  have hfollows := h.applySwap hordered hfits
  have hplace := places_of_get? hpage
  rw [hfollows.places] at hplace
  have hseat := Places.seat_of_place hplace hparent
  refine Outline.ext_iff'.2 ⟨h.rootCode_eq hfollows hfits, fun q => ?_, fun c => ?_⟩
  · exact (hfollows.children q).unique (hfits.lists_swap hcode hseat (h.children q))
  · rw [online_outline, contents_applySwap t plan hfits.ne_of_swap]
    exact (online_outline t c).symm

-- ════════════════════════════════════════════════════════════════════════
-- Changes of pages
-- ════════════════════════════════════════════════════════════════════════

/-- A page that is changed in place has its outline changed in that page only. -/
theorem online_outline_edit {f : Page → Page} (hpage : t.get? code = some p) (c : String) :
    (t.edit code f).outline.online c =
      if c = code then (f p).isOnline else t.outline.online c := by
  show ((t.edit code f).get? c).any Page.isOnline = _
  rw [get?_edit]
  split
  · next hc =>
    rw [hc, hpage]
    rfl
  · rfl

theorem outline_edit {f : Page → Page} (hpage : t.get? code = some p)
    (hf : (f p).isOnline = p.isOnline) : (t.edit code f).outline = t.outline := by
  refine Outline.ext_iff'.2 ⟨rfl, fun _ => rfl, fun c => ?_⟩
  rw [online_outline_edit hpage]
  split
  · next hc =>
    show _ = (t.get? c).any Page.isOnline
    rw [hc, hpage, hf]
    rfl
  · rfl

theorem outline_published {f : Page → Page} (hpage : t.get? code = some p)
    (hf : (f p).isOnline = true) : (t.edit code f).outline = t.outline.tell (.published code) := by
  refine Outline.ext_iff'.2 ⟨rfl, fun _ => rfl, fun c => ?_⟩
  rw [online_outline_edit hpage, hf]
  show _ = (decide (c = code) || t.outline.online c)
  split
  · next hc => simp [hc]
  · next hc => simp [hc]

theorem outline_unpublished {f : Page → Page} (hpage : t.get? code = some p)
    (hf : (f p).isOnline = false) :
    (t.edit code f).outline = t.outline.tell (.unpublished code) := by
  refine Outline.ext_iff'.2 ⟨rfl, fun _ => rfl, fun c => ?_⟩
  rw [online_outline_edit hpage, hf]
  show _ = (decide (c ≠ code) && t.outline.online c)
  split
  · next hc => simp [hc]
  · next hc => simp [hc]

-- ════════════════════════════════════════════════════════════════════════
-- What an outline says
-- ════════════════════════════════════════════════════════════════════════

/-- The outline of a site map whose pages form a tree describes it. -/
theorem Follows.describes_outline (h : t.Follows s) (hrooted : s.IsRooted) :
    t.outline.Describes t := by
  have hseats : ∀ code parent (i : Nat),
      (∃ p, t.get? code = some p ∧ p.parent = some parent ∧ p.position = i + 1) ↔
        (t.children parent)[i]? = some code := by
    intro code parent i
    rw [(h.children parent).getElem?_iff, Places.seat_eq_some_iff, ← h.places]
    constructor
    · rintro ⟨p, hpage, hparent, hposition⟩
      exact ⟨_, places_of_get? hpage, hparent, hposition⟩
    · rintro ⟨_, hplace, hparent, hposition⟩
      obtain ⟨p, hpage, rfl⟩ := places_eq_some_iff.1 hplace
      exact ⟨p, hpage, hparent, hposition⟩
  have hroot : ∀ code, (∃ p, t.get? code = some p ∧ p.parent = none) ↔ t.rootCode = some code := by
    intro code
    rw [h.root]
    constructor
    · rintro ⟨p, hpage, hnone⟩
      have hplace := places_of_get? hpage
      rw [h.places] at hplace
      obtain ⟨top, htree⟩ | hempty := hrooted
      · obtain rfl := htree.single _ _ hplace hnone
        exact htree.isLastRoot
      · rw [hempty] at hplace
        cases hplace
    · rintro ⟨_, hplace, hnone, -⟩
      rw [← h.places] at hplace
      obtain ⟨p, hpage, rfl⟩ := places_eq_some_iff.1 hplace
      exact ⟨p, hpage, hnone⟩
  refine ⟨fun code => ?_, hroot, hseats, fun code => Option.any_eq_true _ _⟩
  constructor
  · intro hsome
    obtain ⟨p, hpage⟩ := Option.isSome_iff_exists.1 hsome
    cases hparent : p.parent with
    | none => exact .inl ((hroot code).1 ⟨p, hpage, hparent⟩)
    | some q =>
      have hplace := places_of_get? hpage
      rw [h.places] at hplace
      exact .inr ⟨q, (h.children q).mem_iff.2 ⟨_, Places.seat_of_place hplace hparent⟩⟩
  · rintro (hlast | ⟨q, hmem⟩)
    · obtain ⟨p, hpage, -⟩ := (hroot code).2 hlast
      rw [hpage]
      rfl
    · obtain ⟨i, hi⟩ := List.mem_iff_getElem?.1 hmem
      obtain ⟨p, hpage, -⟩ := (hseats code q i).2 hi
      rw [hpage]
      rfl

end Tree

end Sitemap
