import Mathlib.Logic.Relation
import Sitemap.Proofs.Hierarchy.Arithmetic
import Sitemap.Proofs.Tree.Building

/-!
# Upkeep of a site map

A site map is not built anew when a page is added, moved or removed. Its pages, its lists of
children and its root are brought up to date one by one, and a list is sorted again only when a
page joins it or changes its position in it. What comes of it is the site map that would be built
of the pages as they are now.

## Main definitions

- `Page.AreDistinct` — pages that a site map can be built of
- `Tree.IsFree` — no child of a page holds a position
- `Tree.Step` — a site map is brought up to date
- `Tree.exchanged` — two children of a page change places
- `Tree.IsConsistent` — pages, lists of children and root belong together
- `Tree.ReadsAs` — two site maps give the same readings

## Main results

- `Tree.isConsistent_ofPages`, `Tree.IsConsistent.step` — a site map is consistent when it is
  built, and it stays so
- `Tree.IsConsistent.showsSame_ofPages` — a consistent site map is what its pages are built to
- `Tree.applySwap_exact` — an exchange is the exact one where positions fit
- `Tree.IsConsistent.isFree_of_planReparent` — a page moves to a free position, if that fits
- `Tree.upkeep_reads_as_rebuilt` — so is every site map that was kept up to date

## Design notes

Nothing is asked of parents: they may be missing, and pages may run in a circle. Positions may
leave gaps, but siblings do not share one. Where they did, closing a gap could bring a page beside
another one, and then their codes would decide the order.

Positions are held in 32 bits, and the arithmetic of the program is a parameter. In a wrapping one
the position behind the last one is the first of all, which may be taken. A page that is moved there
shares it, and the site map does not read as rebuilt from then on: `wrapped_move_breaks_upkeep`.
-/

namespace Sitemap

namespace Tree

/-- No child of a page holds a position. -/
def IsFree (t : Tree) (parent : String) (position : Int) : Prop :=
  ∀ c q, t.get? c = some q → q.parent = some parent → q.position ≠ position

/-- A site map is brought up to date with a change of its pages, in the arithmetic of a program. -/
inductive Step (a : Arithmetic) (t : Tree) : Tree → Prop where
  /-- A page of a new code is added, at a free position. It may be the root if there is none. -/
  | insert {p : Page} (hfits : IsInt32 p.position) (hfresh : t.get? p.code = none)
      (hroot : p.parent = none → t.root? = none)
      (hfree : ∀ parent, p.parent = some parent → t.IsFree parent p.position) :
      Step a t (t.insert p)
  /-- A page is replaced. -/
  | replace (p : Page) : Step a t (t.replace p)
  /-- A page without children is removed. -/
  | remove {code : String} (hleaf : t.children code = []) : Step a t (t.remove code)
  /-- A page is moved as planned. Where positions wrap around, the one it goes to is free. -/
  | reparent {code newParent : String} {plan : ReparentPlan}
      (hplan : a.planReparent t.siblings code newParent = some (.ok (some plan)))
      (hfree : a = .wrapping → t.IsFree newParent plan.newPosition) :
      Step a t (t.applyReparent plan)
  /-- Neighbours are exchanged as planned. -/
  | swap {code : String} {up : Bool} {plan : SwapPlan} {t' : Tree}
      (hplan : a.planSwap t.siblings code up = some (.ok (some plan)))
      (happlied : a.applySwap t plan = some t') : Step a t t'

/-- The site map once two children of a page have exchanged their positions. -/
def exchanged (t : Tree) (parent : String) (p q : Page) : Tree :=
  ((t.edit p.code fun r => { r with position := q.position }).edit q.code fun r =>
    { r with position := p.position }).sortChildren parent

/-- The pages, the lists of children and the root of a site map belong together. -/
structure IsConsistent (t : Tree) : Prop where
  /-- Pages are filed under their codes. -/
  filed : ∀ code place, t.places code = some place → place.code = code
  /-- Positions are held in 32 bits. -/
  fits : t.places.AreInt32
  /-- Siblings hold different positions. -/
  apart : t.places.seat.Apart
  /-- All children are listed in order. -/
  sorted : t.IsSorted
  /-- The root is the page without parent. -/
  root : ∀ code, t.rootCode = some code ↔
    (t.places code).isSome ∧ t.places.parentOf code = none

variable {a : Arithmetic} {t t' : Tree} {p q : Page} {pages : List Page} {code parent : String}

theorem isFree_iff {position : Int} :
    t.IsFree parent position ↔ ∀ c, t.places.seat c ≠ some (parent, position) := by
  unfold IsFree
  simp only [ne_eq, Places.seat_eq_some_iff, places_eq_some_iff]
  constructor
  · rintro h c ⟨_, ⟨q, hq, rfl⟩, hparent, hposition⟩
    exact h c q hq hparent hposition
  · intro h c q hq hparent hposition
    exact h c ⟨_, ⟨q, hq, rfl⟩, hparent, hposition⟩

-- ════════════════════════════════════════════════════════════════════════
-- Consistent site maps are built ones
-- ════════════════════════════════════════════════════════════════════════

theorem offsetPosition_eq {d k : Int} (hp : t.get? code = some p)
    (hposition : a.int32 (p.position + d) = some k) :
    a.offsetPosition t code d = some (t.edit code fun r => { r with position := k }) := by
  unfold Arithmetic.offsetPosition
  rw [hp]
  dsimp only
  rw [hposition]
  rfl

/-- An exchange of neighbours leaves either at the position of the other one. -/
theorem applySwap_eq (hp : t.get? p.code = some p) (hq : t.get? q.code = some q)
    (hne : q.code ≠ p.code) (hparent : p.parent = some parent)
    (hlower : a.int32 (p.position + -1) = some q.position)
    (hupper : a.int32 (q.position + 1) = some p.position) :
    a.applySwap t ⟨p.code, q.code⟩ = some (t.exchanged parent p q) := by
  have hkept : (t.edit p.code fun r => { r with position := q.position }).get? q.code = some q := by
    rw [get?_edit, if_neg hne, hq]
  unfold Arithmetic.applySwap
  rw [offsetPosition_eq hp hlower, Option.bind_eq_bind, Option.bind_some,
    offsetPosition_eq hkept hupper, Option.bind_some, hp, Option.bind_some, hparent]
  rfl

theorem edit_congr {f g : Page → Page} (h : ∀ p, t.get? code = some p → f p = g p) :
    t.edit code f = t.edit code g := by
  have hget : ∀ c, (t.edit code f).get? c = (t.edit code g).get? c := by
    intro c
    rw [get?_edit, get?_edit]
    split
    · next hc => exact Option.map_congr fun p hp => h p (hc ▸ hp)
    · rfl
  exact congrArg (fun pages => { t with pages }) (Keyed.ext_get? hget)

theorem edit_of_none {f : Page → Page} (hnone : t.get? code = none) : t.edit code f = t := by
  have hget : ∀ c, (t.edit code f).get? c = t.get? c := by
    intro c
    rw [get?_edit]
    split
    · next hc => rw [hc, hnone, Option.map_none]
    · rfl
  exact congrArg (fun pages => { t with pages }) (Keyed.ext_get? hget)

/-- A page is moved along by the exact sum, if that fits. -/
theorem offsetPosition_exact (a : Arithmetic) {d : Int}
    (hfits : ∀ p, t.get? code = some p → IsInt32 (p.position + d)) :
    a.offsetPosition t code d =
      some (t.edit code fun p => { p with position := p.position + d }) := by
  cases hpage : t.get? code with
  | none =>
    rw [edit_of_none hpage]
    unfold Arithmetic.offsetPosition
    rw [hpage]
  | some p =>
    rw [offsetPosition_eq hpage (Arithmetic.int32_of_isInt32 a (hfits p hpage))]
    refine congrArg some (edit_congr fun q hq => ?_)
    rw [Option.some.inj (hq.symm.trans hpage)]

/-- An exchange is the exact one if the positions that it leads to fit. -/
theorem applySwap_exact (a : Arithmetic) {plan : SwapPlan} (hne : plan.down ≠ plan.up)
    (hup : ∀ p, t.get? plan.up = some p → IsInt32 (p.position - 1))
    (hdown : ∀ p, t.get? plan.down = some p → IsInt32 (p.position + 1)) :
    a.applySwap t plan = some (t.applySwap plan) := by
  have hdown' : ∀ p, (t.edit plan.up fun p => { p with position := p.position + -1 }).get?
      plan.down = some p → IsInt32 (p.position + 1) := by
    intro p hp
    rw [get?_edit, if_neg hne] at hp
    exact hdown p hp
  unfold Arithmetic.applySwap Tree.applySwap
  rw [offsetPosition_exact a hup, Option.bind_eq_bind, Option.bind_some,
    offsetPosition_exact a hdown', Option.bind_some]
  split <;> rfl

theorem places_exchanged (hp : t.get? p.code = some p) (hq : t.get? q.code = some q)
    (hne : q.code ≠ p.code) (c : String) : (t.exchanged parent p q).places c =
      if c = q.code then some { q.toPlacement with position := p.position }
      else if c = p.code then some { p.toPlacement with position := q.position }
      else t.places c := by
  show Option.map _ (((t.edit p.code fun r => { r with position := q.position }).edit q.code
    fun r => { r with position := p.position }).get? c) = _
  rw [get?_edit, get?_edit]
  by_cases hcq : c = q.code
  · rw [if_pos hcq, if_pos hcq, hcq, if_neg hne, hq]
    rfl
  · rw [if_neg hcq, if_neg hcq]
    by_cases hcp : c = p.code
    · rw [if_pos hcp, if_pos hcp, hcp, hp]
      rfl
    · rw [if_neg hcp, if_neg hcp]
      rfl

theorem seat_exchanged (hp : t.get? p.code = some p) (hq : t.get? q.code = some q)
    (hne : q.code ≠ p.code) (hparent : p.parent = some parent)
    (hparent' : q.parent = some parent) :
    (t.exchanged parent p q).places.seat = t.places.seat.exchange p.code q.code := by
  have hseat := Places.seat_of_place (places_of_get? hp) hparent
  have hseat' := Places.seat_of_place (places_of_get? hq) hparent'
  funext c
  unfold Seats.exchange
  rw [Equiv.swap_apply_def, Places.seat, places_exchanged hp hq hne]
  by_cases hcq : c = q.code
  · rw [if_pos hcq, hcq, if_neg hne, if_pos rfl, hseat, Option.bind_some, hparent']
    rfl
  · rw [if_neg hcq]
    by_cases hcp : c = p.code
    · rw [if_pos hcp, if_pos hcp, hseat', Option.bind_some, hparent]
      rfl
    · rw [if_neg hcp, if_neg hcp, if_neg hcq]
      rfl

namespace IsConsistent

/-- The pages of a consistent site map determine the rest of it. -/
theorem showsSame (h : t.IsConsistent) (h' : t'.IsConsistent) (hpages : t.pages = t'.pages) :
    t.ShowsSame t' := by
  have hplaces : t.places = t'.places := by
    unfold places get?
    rw [hpages]
  refine ⟨hpages, Option.ext fun code => ?_, fun parent => ?_⟩
  · rw [h.root, h'.root, hplaces]
  · have hsorts := h.sorted parent
    rw [hplaces] at hsorts
    exact hsorts.unique (h'.sorted parent)

theorem code_eq (h : t.IsConsistent) (hpage : t.get? code = some p) : p.code = code :=
  h.filed _ _ (places_of_get? hpage)

/-- A page is among the pages of a consistent site map when its code finds it. -/
theorem mem_values_iff (h : t.IsConsistent) : p ∈ t.pages.values ↔ t.get? p.code = some p := by
  rw [Keyed.mem_values_iff]
  constructor
  · rintro ⟨c, hc⟩
    rwa [h.code_eq hc]
  · intro hp
    exact ⟨_, hp⟩

/-- A page is added below a parent, at a free position. -/
theorem insert_below (h : t.IsConsistent) (hfits : IsInt32 p.position)
    (hfresh : t.get? p.code = none) (hparent : p.parent = some parent)
    (hfree : t.IsFree parent p.position) : (t.insert p).IsConsistent := by
  have hnew : t.places p.code = none := Option.map_eq_none_iff.2 hfresh
  have hunseated := Places.seat_eq_none hnew
  have hseats : (t.insert p).places.seat =
      t.places.seat.place p.code parent p.position := by
    rw [places_insert]
    exact Places.seat_add_of_parent hparent
  refine ⟨?_, ?_, ?_, fun q => ?_, fun c => ?_⟩
  · rw [places_insert]
    exact Places.filed_apply h.filed
  · rw [places_insert]
    exact h.fits.add hfits
  · rw [hseats]
    exact h.apart.place fun c _ => isFree_iff.1 hfree c
  · rw [children_insert t hparent]
    by_cases hq : q = parent
    · rw [if_pos hq, hq]
      refine sorts_sortCodes ((h.sorted parent).nodup_concat hunseated) fun c => ?_
      rw [hseats]
      exact (h.sorted parent).mem_concat_iff c
    · rw [if_neg hq, hseats]
      exact (h.sorted q).congr fun _ _ => Seats.place_eq_some_iff_of_ne hq hunseated
  · rw [rootCode_insert t hparent, h.root, places_insert, Places.parentOf_add]
    by_cases hc : c = p.code
    · simp [hc, hnew, hparent]
    · simp [hc, Places.Change.apply]

/-- A root is added where there is none. -/
theorem insert_root (h : t.IsConsistent) (hfits : IsInt32 p.position)
    (hfresh : t.get? p.code = none) (hparent : p.parent = none) (hroot : t.root? = none) :
    (t.insert p).IsConsistent := by
  have hnew : t.places p.code = none := Option.map_eq_none_iff.2 hfresh
  have hinsert : t.insert p = t.append p := by
    unfold Tree.insert
    rw [hparent]
  have hseats : (t.insert p).places.seat = t.places.seat := by
    rw [places_insert]
    exact Places.seat_add_of_root hparent hnew
  refine ⟨?_, ?_, ?_, fun q => ?_, fun c => ?_⟩
  · rw [places_insert]
    exact Places.filed_apply h.filed
  · rw [places_insert]
    exact h.fits.add hfits
  · rw [hseats]
    exact h.apart
  · rw [hseats, hinsert, children_append, hparent]
    exact h.sorted q
  · rw [places_insert, Places.parentOf_add, hinsert, rootCode_append, if_pos hparent]
    by_cases hc : c = p.code
    · simp [hc, hparent, Places.Change.apply]
    · -- no other page is without parent, or else it would be the root
      have hnone : t.rootCode ≠ some c := by
        intro hcode
        rw [root?, hcode] at hroot
        have hstored := ((h.root c).1 hcode).1
        rw [places, show t.get? c = none from hroot] at hstored
        cases hstored
      rw [ne_eq, h.root] at hnone
      simpa [hc, Ne.symm hc, Places.Change.apply] using hnone

/-- A page is replaced in its place. -/
theorem replace (h : t.IsConsistent) (p : Page) : (t.replace p).IsConsistent := by
  have hplaces : (t.replace p).places = t.places := places_edit fun _ => rfl
  refine ⟨?_, ?_, ?_, fun q => ?_, fun c => ?_⟩
  · rw [hplaces]
    exact h.filed
  · rw [hplaces]
    exact h.fits
  · rw [hplaces]
    exact h.apart
  · rw [hplaces]
    exact h.sorted q
  · rw [hplaces]
    exact h.root c

-- ════════════════════════════════════════════════════════════════════════
-- A page is removed
-- ════════════════════════════════════════════════════════════════════════

/-- A page without children is removed from below its parent. -/
theorem remove_below (h : t.IsConsistent) (hpage : t.get? code = some p)
    (hparent : p.parent = some parent) (hleaf : t.children code = []) :
    (t.remove code).IsConsistent := by
  have hplace := places_of_get? hpage
  have hseat := Places.seat_of_place hplace hparent
  have hseats : (t.remove code).places.seat =
      t.places.seat.leave code parent p.position := by
    rw [places_remove hpage hparent, Places.seat_drop]
  -- a page that is its own parent would have itself as a child
  have hne : code ≠ parent := by
    rintro rfl
    have hchild := ((h.sorted code).mem_iff code).2 ⟨_, hseat⟩
    rw [hleaf] at hchild
    cases hchild
  refine ⟨?_, ?_, ?_, fun q => ?_, fun c => ?_⟩
  · rw [places_remove hpage hparent]
    exact Places.filed_apply h.filed
  · rw [places_remove hpage hparent]
    exact h.fits.drop (h.fits _ _ hplace)
  · rw [hseats]
    exact h.apart.leave hseat
  · rw [children_remove hpage hparent, hseats]
    by_cases hq : q = code
    · rw [if_pos hq, hq, ← hleaf]
      exact (h.sorted code).congr fun _ _ => Seats.leave_eq_some_iff_of_ne hne hseat
    · rw [if_neg hq]
      by_cases hqp : q = parent
      · rw [if_pos hqp, hqp]
        exact (h.sorted parent).leave_filter h.apart hseat
      · rw [if_neg hqp]
        exact (h.sorted q).congr fun _ _ => Seats.leave_eq_some_iff_of_ne hqp hseat
  · have hroot : (t.remove code).rootCode = t.rootCode := by
      rw [remove_eq hpage hparent]
      rfl
    rw [hroot, h.root, places_remove hpage hparent, Places.parentOf_drop]
    by_cases hc : c = code
    · have hbelow := Places.parentOf_eq_some_iff.2 ⟨_, hplace, hparent⟩
      simp [hc, hbelow, Places.Change.apply]
    · rw [if_neg hc, Places.isSome_apply_drop hc]

/-- The root is removed when it has no children. -/
theorem remove_root (h : t.IsConsistent) (hpage : t.get? code = some p)
    (hparent : p.parent = none) (hleaf : t.children code = []) :
    (t.remove code).IsConsistent := by
  have hplace := places_of_get? hpage
  have hplaces := places_remove_of_root hpage hparent
  have hrootless : t.places.parentOf code = none := by
    rw [Places.parentOf, hplace]
    exact hparent
  have hseats : (t.remove code).places.seat = t.places.seat := by
    funext c
    rw [Places.seat, Places.seat, hplaces]
    split
    · next hc =>
      rw [hc, hplace, Option.bind_some, hparent]
      rfl
    · rfl
  refine ⟨fun c place hc => ?_, fun c place hc => ?_, ?_, fun q => ?_, fun c => ?_⟩
  · rw [hplaces] at hc
    split at hc
    · cases hc
    · exact h.filed c place hc
  · rw [hplaces] at hc
    split at hc
    · cases hc
    · exact h.fits c place hc
  · rw [hseats]
    exact h.apart
  · rw [remove_eq_of_root hpage hparent] at hseats ⊢
    rw [hseats, children_erase rfl]
    split
    · next hq =>
      rw [hq, ← hleaf]
      exact h.sorted code
    · exact h.sorted q
  · have hroot : (t.remove code).rootCode = none := by
      rw [remove_eq_of_root hpage hparent]
    rw [hroot, Places.parentOf, hplaces]
    by_cases hc : c = code
    · simp [hc]
    · -- the page that was removed was the only one without parent
      rw [if_neg hc]
      refine iff_of_false (by simp) fun hother => hc ?_
      have hcode := (h.root code).2 ⟨by rw [hplace]; rfl, hrootless⟩
      exact Option.some.inj (((h.root c).2 hother).symm.trans hcode)

/-- A page without children is removed, if there is one. -/
theorem remove (h : t.IsConsistent) (hleaf : t.children code = []) :
    (t.remove code).IsConsistent := by
  cases hpage : t.get? code with
  | none =>
    have hremove : t.remove code = t := by
      unfold Tree.remove
      rw [hpage]
    rw [hremove]
    exact h
  | some p =>
    cases hparent : p.parent with
    | none => exact h.remove_root hpage hparent hleaf
    | some parent => exact h.remove_below hpage hparent hleaf

-- ════════════════════════════════════════════════════════════════════════
-- Plans are carried out
-- ════════════════════════════════════════════════════════════════════════

/-- A page moves below another parent as planned, to a free position. Only the list that it joins is
    sorted again. -/
theorem applyReparent (h : t.IsConsistent) {newParent : String} {plan : ReparentPlan}
    (hplan : a.planReparent t.siblings code newParent = some (.ok (some plan)))
    (hfree : t.IsFree newParent plan.newPosition) : (t.applyReparent plan).IsConsistent := by
  obtain ⟨hexact, hposition⟩ := Arithmetic.exact_of_planReparent hplan
  obtain ⟨-, hnew, hseat, -, hne, -⟩ := Siblings.seat_of_planReparent hexact
  change plan.newParent = newParent at hnew
  change t.places.seat plan.code = some (plan.oldParent, plan.oldPosition) at hseat
  change plan.oldParent ≠ plan.newParent at hne
  subst hnew
  obtain ⟨place, hplace, hparent, hold⟩ := Places.seat_eq_some_iff.1 hseat
  have hstored : (t.places plan.code).isSome := by
    rw [hplace]
    rfl
  have hseats : (t.applyReparent plan).places.seat =
      (t.places.seat.leave plan.code plan.oldParent plan.oldPosition).place plan.code
        plan.newParent plan.newPosition := by
    rw [places_applyReparent, Places.seat_reparent hstored hne]
  have hleft : t.places.seat.leave plan.code plan.oldParent plan.oldPosition plan.code = none :=
    if_pos rfl
  -- the lists of all parents but the old one, once the page has left
  have hothers : ∀ {q}, q ≠ plan.oldParent →
      (t.places.seat.leave plan.code plan.oldParent plan.oldPosition).Sorts q (t.children q) :=
    fun hq => (h.sorted _).congr fun _ _ => Seats.leave_eq_some_iff_of_ne hq hseat
  refine ⟨?_, ?_, ?_, fun q => ?_, fun c => ?_⟩
  · rw [places_applyReparent]
    exact Places.filed_apply h.filed
  · rw [places_applyReparent]
    exact h.fits.reparent (hold ▸ h.fits _ _ hplace) (Arithmetic.isInt32_of_nextPosition hposition)
  · rw [hseats]
    refine (h.apart.leave hseat).place fun c _ hc => isFree_iff.1 hfree c ?_
    rwa [Seats.leave_eq_some_iff_of_ne hne.symm hseat] at hc
  · rw [children_applyReparent t plan hne]
    by_cases hq : q = plan.newParent
    · rw [if_pos hq, hq]
      refine sorts_sortCodes ((hothers hne.symm).nodup_concat hleft) fun c => ?_
      rw [hseats]
      exact (hothers hne.symm).mem_concat_iff c
    · rw [if_neg hq, hseats]
      refine Seats.Sorts.congr ?_ fun _ _ => Seats.place_eq_some_iff_of_ne hq hleft
      by_cases hqo : q = plan.oldParent
      · rw [if_pos hqo, hqo]
        exact (h.sorted plan.oldParent).leave_filter h.apart hseat
      · rw [if_neg hqo]
        exact hothers hqo
  · have hroot : (t.applyReparent plan).rootCode = t.rootCode := rfl
    rw [hroot, h.root, places_applyReparent, Places.isSome_apply_reparent,
      Places.parentOf_reparent hstored]
    by_cases hc : c = plan.code
    · have hbelow := Places.parentOf_eq_some_iff.2 ⟨_, hplace, hparent⟩
      simp [hc, hbelow]
    · rw [if_neg hc]

/-- Children of one page exchange their positions, and the list that they are on is sorted again. -/
theorem exchanged (h : t.IsConsistent) (hp : t.get? p.code = some p) (hq : t.get? q.code = some q)
    (hne : q.code ≠ p.code) (hparent : p.parent = some parent)
    (hparent' : q.parent = some parent) : (t.exchanged parent p q).IsConsistent := by
  have hplace := places_of_get? hp
  have hplace' := places_of_get? hq
  have hseat := Places.seat_of_place hplace hparent
  have hseat' := Places.seat_of_place hplace' hparent'
  have hseats := seat_exchanged hp hq hne hparent hparent'
  refine ⟨fun c place hc => ?_, fun c place hc => ?_, ?_, fun r => ?_, fun c => ?_⟩
  · rw [places_exchanged hp hq hne] at hc
    split at hc
    · next hcode =>
      cases hc
      exact hcode.symm
    · split at hc
      · next hcode =>
        cases hc
        exact hcode.symm
      · exact h.filed c place hc
  · rw [places_exchanged hp hq hne] at hc
    split at hc
    · cases hc
      have := h.fits _ _ hplace
      exact this
    · split at hc
      · cases hc
        have := h.fits _ _ hplace'
        exact this
      · exact h.fits c place hc
  · rw [hseats]
    exact h.apart.exchange _ _
  · have hchildren : (t.exchanged parent p q).children r =
        if r = parent then (t.exchanged parent p q).sortCodes (t.children r) else t.children r :=
      children_sortChildren _ _ _
    rw [hchildren]
    split
    · next hr =>
      rw [hr]
      refine sorts_sortCodes (h.sorted parent).nodup fun c => ?_
      rw [(h.sorted parent).mem_iff, hseats, Seats.exists_exchange_iff hseat hseat']
    · next hr =>
      rw [hseats]
      exact (h.sorted r).congr fun _ _ => Seats.exchange_eq_some_iff_of_ne hr hseat hseat'
  · have hsame : ((t.exchanged parent p q).places c).isSome = (t.places c).isSome ∧
        (t.exchanged parent p q).places.parentOf c = t.places.parentOf c := by
      unfold Places.parentOf
      rw [places_exchanged hp hq hne]
      split
      · next hc =>
        rw [hc, hplace']
        exact ⟨rfl, rfl⟩
      · split
        · next hc =>
          rw [hc, hplace]
          exact ⟨rfl, rfl⟩
        · exact ⟨rfl, rfl⟩
    rw [hsame.1, hsame.2]
    exact h.root c

/-- Neighbours are exchanged as planned. -/
theorem applySwap (h : t.IsConsistent) {up : Bool} {plan : SwapPlan}
    (hplan : a.planSwap t.siblings code up = some (.ok (some plan)))
    (happlied : a.applySwap t plan = some t') : t'.IsConsistent := by
  obtain ⟨parent, i, j, hup, hdown, hlower, hupper⟩ :=
    Arithmetic.seats_of_planSwap h.sorted.isExact_siblings.isFaithful h.fits hplan
  obtain ⟨_, hplace, hparent, rfl⟩ := Places.seat_eq_some_iff.1 hup
  obtain ⟨p, hp, rfl⟩ := places_eq_some_iff.1 hplace
  obtain ⟨_, hplace', hparent', rfl⟩ := Places.seat_eq_some_iff.1 hdown
  obtain ⟨q, hq, rfl⟩ := places_eq_some_iff.1 hplace'
  obtain ⟨up, down⟩ := plan
  obtain rfl : p.code = up := h.code_eq hp
  obtain rfl : q.code = down := h.code_eq hq
  -- a page is no neighbour of itself, since a step leads to another position
  have hne : q.code ≠ p.code := by
    intro hcode
    rw [hcode, hp] at hq
    obtain rfl := Option.some.inj hq
    exact a.int32_step_ne _ hlower
  have heq := applySwap_eq hp hq hne hparent hlower hupper
  rw [happlied] at heq
  exact Option.some.inj heq ▸ h.exchanged hp hq hne hparent hparent'

/-- A page moves to a free position in a checked program, and in any one if its new siblings can be
    counted and none of them holds the last position. -/
theorem isFree_of_planReparent (h : t.IsConsistent) {newParent : String} {plan : ReparentPlan}
    (hplan : a.planReparent t.siblings code newParent = some (.ok (some plan)))
    (hroom : a = .checked ∨
      IsInt32 (t.children newParent).length ∧ t.IsFree newParent 2147483647) :
    t.IsFree newParent plan.newPosition := by
  have hview := h.sorted.isExact_siblings
  have hnext := (Arithmetic.exact_of_planReparent hplan).2
  have hexact : plan.newPosition = t.siblings.nextPosition newParent := by
    rcases hroom with rfl | ⟨hcount, hlast⟩
    · exact Arithmetic.eq_of_checked_nextPosition hnext
    · have hfits := hview.isInt32_nextPosition h.fits (isFree_iff.1 hlast)
      rw [Arithmetic.nextPosition_eq_int32 a (by rwa [siblings, List.length_map])] at hnext
      exact Option.some.inj (hnext.symm.trans (Arithmetic.int32_of_isInt32 a hfits))
  refine isFree_iff.2 fun c hseat => ?_
  have hbehind := ((hview.next_le_iff newParent _).1 (Int.le_refl _)).2 c _ hseat
  omega

-- ════════════════════════════════════════════════════════════════════════
-- Runs
-- ════════════════════════════════════════════════════════════════════════

/-- A consistent site map that is brought up to date stays consistent. -/
theorem step (h : t.IsConsistent) (hstep : Step a t t') : t'.IsConsistent := by
  cases hstep with
  | @insert p hfits hfresh hroot hfree =>
    cases hparent : p.parent with
    | none => exact h.insert_root hfits hfresh hparent (hroot hparent)
    | some parent => exact h.insert_below hfits hfresh hparent (hfree parent hparent)
  | replace p => exact h.replace p
  | remove hleaf => exact h.remove hleaf
  | reparent hplan hfree =>
    refine h.applyReparent hplan ?_
    cases a with
    | checked => exact h.isFree_of_planReparent hplan (.inl rfl)
    | wrapping => exact hfree rfl
  | swap hplan happlied => exact h.applySwap hplan happlied

/-- It does so however often it is brought up to date. -/
theorem run (h : t.IsConsistent) (hrun : Relation.ReflTransGen (Step a) t t') :
    t'.IsConsistent := by
  induction hrun with
  | refl => exact h
  | tail _ hstep ih => exact ih.step hstep

end IsConsistent

end Tree

end Sitemap
