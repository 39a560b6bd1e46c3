import Sitemap.Edit
import Sitemap.Proofs.Hierarchy.Ancestry
import Sitemap.Proofs.Hierarchy.Plans
import Sitemap.Proofs.Hierarchy.Rewriting
import Sitemap.Proofs.Order
import Sitemap.Proofs.Rows.References
import Sitemap.Proofs.Rows.Statements

/-!
# Places of stored pages

What the edits of the rows do to the places of the stored pages.

## Main definitions

- `Tables.places` — the places of the stored pages

## Main results

- `Tables.isExact_siblings` — plans are made against an exact view
- `RowEdit.places_of_addPage`, `RowEdit.places_of_deletePage`, `RowEdit.places_of_movePage`,
  `RowEdit.places_of_swapPositions` — edits of the hierarchy are changes that fit
- `RowEdit.places_of_updatePage` — rewriting a page overwrites its parent

## Design notes

The parent that a rewritten page gets is the one that the caller names, at the position that
the page has in the rows. It is the one edit of a page that is not made against the rows.
-/

namespace Sitemap

namespace Tables

/-- The places of the stored pages. -/
def places (t : Tables) : Places :=
  fun code => (t.pages.get? code).map fun row => row.toPlacement

variable {t t' : Tables} {code parent : String} {codes : List String} {position : Int}

theorem places_eq_some_iff {p : Placement} :
    t.places code = some p ↔ ∃ row, t.pages.get? code = some row ∧ row.toPlacement = p :=
  Option.map_eq_some_iff

theorem places_eq_none_iff : t.places code = none ↔ t.pages.get? code = none :=
  Option.map_eq_none_iff

theorem places_of_row {row : PageRow} (h : t.pages.get? code = some row) :
    t.places code = some row.toPlacement :=
  places_eq_some_iff.2 ⟨row, h, rfl⟩

theorem places_congr (h : t'.pages = t.pages) : t'.places = t.places := by
  unfold places
  rw [h]

-- ════════════════════════════════════════════════════════════════════════
-- The view that plans are made against
-- ════════════════════════════════════════════════════════════════════════

/-- The row of a stored child says where it sits. -/
theorem seat_of_mem_childRows (hfiled : ∀ c p, t.places c = some p → p.code = c) {row : PageRow}
    (hrow : row ∈ t.childRows parent) : t.places.seat row.code = some (parent, row.position) := by
  simp only [childRows, List.mem_filter, Keyed.mem_values_iff, decide_eq_true_eq] at hrow
  obtain ⟨⟨c, hrow⟩, hparent⟩ := hrow
  have hplace := places_of_row hrow
  rw [← hfiled _ _ hplace] at hplace
  exact Places.seat_of_place hplace hparent

/-- A stored child has a row. -/
theorem exists_childRow_of_seat (hfiled : ∀ c p, t.places c = some p → p.code = c)
    (hseat : t.places.seat code = some (parent, position)) :
    ∃ row ∈ t.childRows parent, row.code = code ∧ row.position = position := by
  obtain ⟨place, hplace, hparent, hposition⟩ := Places.seat_eq_some_iff.1 hseat
  obtain ⟨row, hrow, rfl⟩ := places_eq_some_iff.1 hplace
  refine ⟨row, ?_, hfiled _ _ hplace, hposition⟩
  simp only [childRows, List.mem_filter, Keyed.mem_values_iff, decide_eq_true_eq]
  exact ⟨⟨code, hrow⟩, hparent⟩

/-- Rows that are filed under their codes tell the codes of the pages. -/
theorem map_code_values (hfiled : ∀ c p, t.places c = some p → p.code = c) :
    t.pages.values.map (fun row => row.code) = t.pages.keys :=
  Keyed.map_values_eq_keys fun _ _ hrow => hfiled _ _ (places_of_row hrow)

/-- Rows that are filed under their codes have different codes. -/
theorem pairwise_code_values (hfiled : ∀ c p, t.places c = some p → p.code = c) :
    t.pages.values.Pairwise fun a b => a.code ≠ b.code := by
  have hnodup := t.pages.nodup_keys
  rw [← map_code_values hfiled] at hnodup
  exact List.pairwise_map.1 hnodup

/-- Rows that are filed under their codes are listed by code. -/
theorem sorted_code_values (hfiled : ∀ c p, t.places c = some p → p.code = c) :
    t.pages.values.Pairwise fun a b => a.code ≤ b.code := by
  have hascending := t.pages.pairwise_keys
  rw [← map_code_values hfiled] at hascending
  refine (List.pairwise_map.1 hascending).imp fun hlt => isLE_compare_code.1 ?_
  rw [hlt]
  rfl

/-- Rows that are filed under their codes are an exact view: a child is looked for in the order of
    codes. -/
theorem isExact_siblings (hfiled : ∀ c p, t.places c = some p → p.code = c) :
    t.siblings.IsExact where
  counted := t.isCounted_siblings
  next_le_iff parent bound := by
    have hpositions : t.siblings.childPositions parent =
        ((t.childRows parent).map fun row => row.position).map some := by
      rw [List.map_map]
      rfl
    unfold Siblings.nextPosition
    rw [hpositions, nextPosition_map_some_le_iff, List.forall_mem_map]
    refine and_congr_right fun _ => ⟨fun h c k hc => ?_, fun h row hrow => ?_⟩
    · obtain ⟨row, hrow, -, rfl⟩ := exists_childRow_of_seat hfiled hc
      exact h row hrow
    · exact h _ _ (seat_of_mem_childRows hfiled hrow)
  childAt_eq_some_iff parent position code := by
    have hsorted : (t.childRows parent).Pairwise fun a b => a.code ≤ b.code :=
      (sorted_code_values hfiled).filter _
    show Option.map _ _ = _ ↔ t.places.seat code = _ ∧ ∀ other, t.places.seat other = _ → _
    rw [find?_eq_some_iff_least (hsorted.imp fun hle _ _ => hle)]
    simp only [decide_eq_true_eq]
    refine and_congr ⟨?_, fun hseat => ?_⟩ ⟨fun h c hc => ?_, fun h row hrow hposition => ?_⟩
    · rintro ⟨row, hrow, rfl, rfl⟩
      exact seat_of_mem_childRows hfiled hrow
    · obtain ⟨row, hrow, hcode, hposition⟩ := exists_childRow_of_seat hfiled hseat
      exact ⟨row, hrow, hposition, hcode⟩
    · obtain ⟨row, hrow, rfl, hposition⟩ := exists_childRow_of_seat hfiled hc
      exact h row hrow hposition
    · exact h _ (hposition ▸ seat_of_mem_childRows hfiled hrow)

/-- A stored child is found at its position. -/
theorem isSome_childAt (hfiled : ∀ c p, t.places c = some p → p.code = c)
    (h : t.places.seat code = some (parent, position)) :
    (t.siblings.childAt parent position).isSome := by
  obtain ⟨row, hrow, -, hposition⟩ := exists_childRow_of_seat hfiled h
  show (Option.map _ _).isSome
  rw [Option.isSome_map, List.find?_isSome]
  exact ⟨row, hrow, decide_eq_true hposition⟩

/-- The rows of the children of a page, ordered by position, name its list of children. -/
theorem code_sorted_childRows (hfiled : ∀ c p, t.places c = some p → p.code = c)
    (hlist : t.places.seat.Lists parent codes) :
    ((t.childRows parent).mergeSort fun a b => a.position ≤ b.position).map (fun row => row.code) =
      codes := by
  refine hlist.eq_of_ascending ?_ ?_
  · have hnodup : ((t.childRows parent).map fun row => row.code).Nodup :=
      List.pairwise_map.2 ((pairwise_code_values hfiled).filter _)
    refine ((List.mergeSort_perm _ _).map _).trans ?_
    rw [List.perm_ext_iff_of_nodup hnodup hlist.nodup]
    intro c
    rw [hlist.mem_iff, List.mem_map]
    constructor
    · rintro ⟨row, hrow, rfl⟩
      exact ⟨_, seat_of_mem_childRows hfiled hrow⟩
    · rintro ⟨position, hc⟩
      obtain ⟨row, hrow, hcode, -⟩ := exists_childRow_of_seat hfiled hc
      exact ⟨row, hrow, hcode⟩
  · have hsorted : ((t.childRows parent).mergeSort fun a b => a.position ≤ b.position).Pairwise
        fun a b => decide (a.position ≤ b.position) = true := by
      refine List.pairwise_mergeSort (fun a b c => ?_) (fun a b => ?_) _
      · simp only [decide_eq_true_eq]
        omega
      · simp only [Bool.or_eq_true, decide_eq_true_eq]
        omega
    refine List.pairwise_map.2 (hsorted.imp_of_mem fun {a b} ha hb hle i j hi hj => ?_)
    rw [seat_of_mem_childRows hfiled (List.mem_mergeSort.1 ha)] at hi
    rw [seat_of_mem_childRows hfiled (List.mem_mergeSort.1 hb)] at hj
    cases hi
    cases hj
    exact of_decide_eq_true hle

/-- Pages without stored children are nobody's parent. -/
theorem hasChildren_eq_false_iff :
    t.hasChildren code = false ↔ ∀ c, t.places.parentOf c ≠ some code := by
  unfold hasChildren
  rw [List.any_eq_false]
  simp only [decide_eq_true_eq, Keyed.mem_values_iff]
  constructor
  · intro h c hparent
    obtain ⟨p, hp, hcode⟩ := Places.parentOf_eq_some_iff.1 hparent
    obtain ⟨row, hrow, rfl⟩ := places_eq_some_iff.1 hp
    exact h row ⟨c, hrow⟩ hcode
  · rintro h row ⟨c, hrow⟩ hcode
    exact h c (Places.parentOf_eq_some_iff.2 ⟨_, places_of_row hrow, hcode⟩)

/-- Closing a gap in the rows closes it in the places. -/
theorem places_shiftPages : (t.shiftPages parent position).places =
    fun c => (t.places c).map (Placement.closeGap parent position) := by
  funext c
  unfold places shiftPages
  dsimp only
  rw [Keyed.get?_map, Option.map_map, Option.map_map]
  rfl

/-- Parents of stored pages are stored, once references were checked. -/
theorem IsLinked.isSome_places (h : t.IsLinked) (hparent : t.places.parentOf code = some parent) :
    (t.places parent).isSome := by
  obtain ⟨p, hp, hq⟩ := Places.parentOf_eq_some_iff.1 hparent
  obtain ⟨row, hrow, rfl⟩ := places_eq_some_iff.1 hp
  rw [places, Option.isSome_map]
  exact h.parent code row hrow parent hq

end Tables

-- ════════════════════════════════════════════════════════════════════════
-- Edits of the hierarchy
-- ════════════════════════════════════════════════════════════════════════

namespace RowEdit

open Tables Places

variable {t t' : Tables} {r : Registry} {time : Timestamp} {page : Page} {code : String}

/-- A page is filed under a code that was free, with the position and the time of the write, and
    its editions are stored one after the other. -/
theorem steps_of_addPage {stored : Page} (h : addPage r time page t = .ok (stored, t')) :
    t.pages.get? page.code = none ∧
      stored = { page with
        position := match page.parent with
          | some parent => t.siblings.nextPosition parent
          | none => 1
        draft := page.draft.stamped time
        online := page.online.map fun v => v.stamped time } ∧
      ∃ u, ({ t with pages := t.pages.insert page.code ⟨stored.toPlacement, page.group⟩ } :
          Tables).insertVersion r .draft page.code stored.draft = .ok u ∧
        (stored.online = none ∧ t' = u ∨
          ∃ v, stored.online = some v ∧ u.insertVersion r .online page.code v = .ok t') := by
  simp only [addPage, bind_eq_ok, require_eq_ok, insertPage_eq_ok] at h
  obtain ⟨_, ⟨hfree, rfl⟩, u, hdraft, h⟩ := h
  split at h
  · next v hversion =>
    simp only [bind_eq_ok, require_eq_ok] at h
    obtain ⟨w, honline, h⟩ := h
    cases h
    exact ⟨hfree, rfl, u, hdraft, .inr ⟨v, hversion, honline⟩⟩
  · next hversion =>
    cases h
    exact ⟨hfree, rfl, _, hdraft, .inl ⟨hversion, rfl⟩⟩

/-- A page is stored under a code that was free, with the position and the time of the
    write. -/
theorem pages_of_addPage {stored : Page} (h : addPage r time page t = .ok (stored, t')) :
    t.pages.get? page.code = none ∧
      t'.pages = t.pages.insert page.code ⟨stored.toPlacement, page.group⟩ ∧
      stored = { page with
        position := match page.parent with
          | some parent => t.siblings.nextPosition parent
          | none => 1
        draft := page.draft.stamped time
        online := page.online.map fun v => v.stamped time } := by
  obtain ⟨hfree, hstored, u, hdraft, honline⟩ := steps_of_addPage h
  have hpages := (touches_of_insertVersion hdraft).1.pages
  refine ⟨hfree, ?_, hstored⟩
  obtain ⟨-, rfl⟩ | ⟨v, -, honline⟩ := honline
  · exact hpages
  · exact (touches_of_insertVersion honline).1.pages.trans hpages

/-- A new page gets the place that it is answered with. -/
theorem places_of_newPage {stored : Page} (h : addPage r time page t = .ok (stored, t')) :
    t.places page.code = none ∧ stored.code = page.code ∧ stored.parent = page.parent ∧
      t'.places = Change.apply t.places (.add stored.toPlacement) := by
  obtain ⟨hfree, hpages, hstored⟩ := pages_of_addPage h
  have hcode : stored.code = page.code := by rw [hstored]
  refine ⟨places_eq_none_iff.2 hfree, hcode, by rw [hstored], funext fun c => ?_⟩
  unfold places Change.apply
  rw [hpages, Keyed.get?_insert, ← hcode]
  dsimp only
  split <;> rfl

/-- A page with a parent is stored behind the children of the parent. -/
theorem places_of_addPage (hordered : t.places.IsOrdered) {stored : Page} {parent : String}
    (hparent : page.parent = some parent) (h : addPage r time page t = .ok (stored, t')) :
    ∃ codes, t.places page.code = none ∧ t.places.seat.Lists parent codes ∧
      stored.toPlacement = ⟨page.code, some parent, codes.length + 1⟩ ∧
      t'.places = Change.apply t.places (.add stored.toPlacement) := by
  obtain ⟨-, -, hstored⟩ := pages_of_addPage h
  obtain ⟨hfree, -, -, hplaces⟩ := places_of_newPage h
  obtain ⟨codes, hcodes⟩ := hordered.seats parent
  refine ⟨codes, hfree, hcodes, ?_, hplaces⟩
  rw [hstored, hparent]
  dsimp only
  rw [(isExact_siblings hordered.filed).isFaithful.next _ _ hcodes, ← hparent]

/-- A page is stored below a page that is stored by a change that fits. -/
theorem fits_of_addPage (hordered : t.places.IsOrdered) {stored : Page} {parent : String}
    (hparent : page.parent = some parent) (hbelow : (t.places parent).isSome)
    (h : addPage r time page t = .ok (stored, t')) :
    Fits t.places (.add stored.toPlacement) ∧
      t'.places = Change.apply t.places (.add stored.toPlacement) := by
  obtain ⟨codes, hfree, hlist, hplace, hplaces⟩ := places_of_addPage hordered hparent h
  refine ⟨?_, hplaces⟩
  rw [hplace]
  exact .add hfree hbelow hlist

/-- A page leaves its row and its editions, and the gap is closed if it had a parent. -/
theorem pages_of_deletePage {u : Unit} (h : deletePage code t = .ok (u, t')) :
    ∃ row, t.pages.get? code = some row ∧ t.hasChildren code = false ∧
      ∃ dropped, (dropEditions code t).deletePage code = .ok (row, dropped) ∧
        t' = match row.parent with
          | some parent => dropped.shiftPages parent row.position
          | none => dropped := by
  simp only [deletePage, bind_eq_ok, guard_eq_ok, require_eq_ok, Bool.not_eq_true] at h
  obtain ⟨hleaf, ⟨row, dropped⟩, hdropped, h⟩ := h
  have hrow : t.pages.get? code = some row := (deletePage_eq_ok.1 hdropped).1
  refine ⟨row, hrow, hleaf, dropped, hdropped, ?_⟩
  split at h
  · next hparent =>
    cases h
    rw [hparent]
  · next hparent =>
    cases h
    rw [hparent]

/-- A page below a parent leaves its place. -/
theorem places_of_deletePage (hordered : t.places.IsOrdered) {u : Unit} {place : Placement}
    {parent : String} (hplace : t.places code = some place) (hparent : place.parent = some parent)
    (h : deletePage code t = .ok (u, t')) :
    Fits t.places (.drop code parent place.position) ∧
      t'.places = Change.apply t.places (.drop code parent place.position) := by
  obtain ⟨row, hrow, hleaf, dropped, hdropped, rfl⟩ := pages_of_deletePage h
  obtain rfl : row.toPlacement = place := Option.some.inj ((places_of_row hrow).symm.trans hplace)
  obtain ⟨-, rfl⟩ := deletePage_eq_ok.1 hdropped
  refine ⟨.drop (hordered.place_of_seat (seat_of_place hplace hparent))
    (hasChildren_eq_false_iff.1 hleaf), ?_⟩
  rw [hparent]
  funext c
  unfold Change.apply
  rw [places_shiftPages]
  dsimp only [places, dropEditions]
  rw [Keyed.get?_erase]
  split <;> rfl

/-- A planned move is carried out, on any rows. -/
theorem exists_movePage {newParent : String} {planned : Option ReparentPlan}
    (hplan : t.siblings.planReparent code newParent = .ok planned) :
    ∃ t', movePage code newParent t = .ok (planned, t') := by
  cases planned with
  | none => exact ⟨t, bind_eq_ok.2 ⟨none, hplan, rfl⟩⟩
  | some plan =>
    obtain ⟨-, -, hseat, -⟩ := Siblings.seat_of_planReparent hplan
    obtain ⟨place, hplace, -, -⟩ := seat_eq_some_iff.1 hseat
    obtain ⟨row, hrow, -⟩ := places_eq_some_iff.1 hplace
    obtain ⟨u, hu⟩ :
        ∃ u, t.updateTreePosition plan.code plan.newParent plan.newPosition = .ok u :=
      ⟨_, modifyPage_eq_ok.2 ⟨Option.isSome_of_eq_some hrow, rfl⟩⟩
    exact ⟨_, bind_eq_ok.2 ⟨some plan, hplan, bind_eq_ok.2 ⟨u, require_eq_ok.2 hu, rfl⟩⟩⟩

/-- A page that moves is given the place of the plan, and the gap that it leaves is closed. -/
theorem places_of_moved {newParent : String} {plan : ReparentPlan}
    (h : movePage code newParent t = .ok (some plan, t')) :
    t'.places = Change.apply t.places (.reparent plan) := by
  simp only [movePage, bind_eq_ok] at h
  obtain ⟨planned, -, h⟩ := h
  cases planned with
  | none => cases h
  | some planned =>
    simp only [bind_eq_ok, require_eq_ok, updateTreePosition, modifyPage_eq_ok] at h
    obtain ⟨_, ⟨-, rfl⟩, h⟩ := h
    cases h
    rw [places_shiftPages]
    funext c
    unfold Change.apply
    dsimp only [places]
    rw [Keyed.get?_modify]
    split
    · simp only [Option.map_map]
      rfl
    · rfl

/-- A move is carried out as it is planned on the rows. -/
theorem plan_of_movePage {newParent : String} {moved : Option ReparentPlan}
    (h : movePage code newParent t = .ok (moved, t')) :
    t.siblings.planReparent code newParent = .ok moved := by
  simp only [movePage, bind_eq_ok] at h
  obtain ⟨planned, hplan, h⟩ := h
  rw [hplan]
  cases planned with
  | none =>
    cases h
    rfl
  | some plan =>
    simp only [bind_eq_ok] at h
    obtain ⟨_, -, h⟩ := h
    cases h
    rfl

/-- A page moves as planned, and the gap that it leaves is closed. -/
theorem places_of_movePage (hordered : t.places.IsOrdered) {newParent : String}
    {moved : Option ReparentPlan} (h : movePage code newParent t = .ok (moved, t')) :
    match moved with
    | none => t' = t
    | some plan => plan.code = code ∧ plan.newParent = newParent ∧
        Fits t.places (.reparent plan) ∧ t'.places = Change.apply t.places (.reparent plan) := by
  have hplan := plan_of_movePage h
  cases moved with
  | none =>
    unfold movePage at h
    rw [hplan] at h
    cases h
    rfl
  | some plan =>
    obtain ⟨hfits, hcode, hparent⟩ :=
      Siblings.fits_of_planReparent (isExact_siblings hordered.filed).isFaithful hordered hplan
    exact ⟨hcode, hparent, hfits, places_of_moved h⟩

/-- An exchange of neighbours is carried out as it is planned on the rows. -/
theorem plan_of_swapPositions {up : Bool} {swapped : Option SwapPlan}
    (h : swapPositions code up t = .ok (swapped, t')) :
    t.siblings.planSwap code up = .ok swapped := by
  simp only [swapPositions, bind_eq_ok] at h
  obtain ⟨planned, hplan, h⟩ := h
  rw [hplan]
  cases planned with
  | none =>
    cases h
    rfl
  | some plan =>
    simp only [bind_eq_ok] at h
    obtain ⟨_, -, _, -, h⟩ := h
    cases h
    rfl

/-- A move changes places only. -/
theorem editions_of_movePage {newParent : String} {moved : Option ReparentPlan}
    (h : movePage code newParent t = .ok (moved, t')) :
    t'.metadata = t.metadata ∧ t'.widgets = t.widgets := by
  simp only [movePage, bind_eq_ok] at h
  obtain ⟨planned, -, h⟩ := h
  cases planned with
  | none =>
    cases h
    exact ⟨rfl, rfl⟩
  | some plan =>
    simp only [bind_eq_ok, require_eq_ok, updateTreePosition, modifyPage_eq_ok] at h
    obtain ⟨_, ⟨-, rfl⟩, h⟩ := h
    cases h
    exact ⟨rfl, rfl⟩

/-- Neighbours exchange their places as planned. -/
theorem places_of_swapPositions (hordered : t.places.IsOrdered) {up : Bool}
    {swapped : Option SwapPlan} (h : swapPositions code up t = .ok (swapped, t')) :
    match swapped with
    | none => t' = t
    | some plan => (plan.up = code ∨ plan.down = code) ∧
        Fits t.places (.swap plan) ∧ t'.places = Change.apply t.places (.swap plan) := by
  simp only [swapPositions, bind_eq_ok] at h
  obtain ⟨planned, hplan, h⟩ := h
  cases planned with
  | none =>
    cases h
    rfl
  | some plan =>
    simp only [bind_eq_ok, require_eq_ok, offsetPosition, modifyPage_eq_ok] at h
    obtain ⟨_, ⟨-, rfl⟩, _, ⟨-, rfl⟩, h⟩ := h
    cases h
    obtain ⟨hfits, hcode⟩ :=
      Siblings.fits_of_planSwap (isExact_siblings hordered.filed).isFaithful hordered hplan
    have heither : plan.up = code ∨ plan.down = code := by
      cases up with
      | true => exact .inl hcode
      | false => exact .inr hcode
    refine ⟨heither, hfits, ?_⟩
    funext c
    unfold Change.apply
    dsimp only [places]
    rw [Keyed.get?_modify, Keyed.get?_modify]
    by_cases hdown : c = plan.down
    · rw [if_pos hdown, if_pos hdown, if_neg (by rw [hdown]; exact hfits.ne_of_swap),
        Option.map_map, Option.map_map]
      rfl
    · rw [if_neg hdown, if_neg hdown]
      split
      · rw [Option.map_map, Option.map_map]
        rfl
      · rfl

/-- An exchange of neighbours changes places only. -/
theorem editions_of_swapPositions {up : Bool} {swapped : Option SwapPlan}
    (h : swapPositions code up t = .ok (swapped, t')) :
    t'.metadata = t.metadata ∧ t'.widgets = t.widgets := by
  simp only [swapPositions, bind_eq_ok] at h
  obtain ⟨planned, -, h⟩ := h
  cases planned with
  | none =>
    cases h
    exact ⟨rfl, rfl⟩
  | some plan =>
    simp only [bind_eq_ok, require_eq_ok, offsetPosition, modifyPage_eq_ok] at h
    obtain ⟨_, ⟨-, rfl⟩, _, ⟨-, rfl⟩, h⟩ := h
    cases h
    exact ⟨rfl, rfl⟩

-- ════════════════════════════════════════════════════════════════════════
-- Edits of one page
-- ════════════════════════════════════════════════════════════════════════

/-- The draft of a stored page is dropped, and the new one stored with the time of the write. The
    row of the page gets the parent and the group. -/
theorem steps_of_updatePage {draft : PageVersion}
    (h : updatePage r time page t = .ok (draft, t')) :
    (t.pages.get? page.code).isSome ∧ draft = page.draft.stamped time ∧
      ∃ u, ((t.deleteWidgets .draft page.code).deleteMetadata .draft page.code).insertVersion r
          .draft page.code draft = .ok u ∧
        t' = { u with pages := t.pages.modify page.code fun row =>
          { row with parent := page.parent, group := page.group } } := by
  simp only [updatePage, bind_eq_ok, require_eq_ok, Tables.updatePage, modifyPage_eq_ok] at h
  obtain ⟨u, hversion, _, ⟨hstored, rfl⟩, h⟩ := h
  cases h
  have hpages : u.pages = t.pages := (touches_of_insertVersion hversion).1.pages
  rw [hpages] at hstored ⊢
  exact ⟨hstored, rfl, u, hversion, rfl⟩

/-- A rewritten page is below the parent that the caller named, at the position that it had
    before. -/
theorem places_of_updatePage {draft : PageVersion}
    (h : updatePage r time page t = .ok (draft, t')) :
    (t.places page.code).isSome ∧ t'.places = t.places.rewrite page.code page.parent := by
  obtain ⟨hstored, -, u, -, rfl⟩ := steps_of_updatePage h
  refine ⟨by rwa [places, Option.isSome_map], funext fun c => ?_⟩
  unfold Places.rewrite places
  dsimp only
  rw [Keyed.get?_modify]
  split
  · rw [Option.map_map, Option.map_map]
    rfl
  · rfl

/-- A page that is stored with the parent that it has stays in its place. -/
theorem places_of_updatePage_self {draft : PageVersion}
    (hplace : t.places page.code = some page.toPlacement)
    (h : RowEdit.updatePage r time page t = .ok (draft, t')) : t'.places = t.places := by
  obtain ⟨-, hplaces⟩ := places_of_updatePage h
  have hparent : t.places.parentOf page.code = page.parent := by
    rw [Places.parentOf, hplace]
    rfl
  rw [hplaces, ← hparent, Places.rewrite_self]

/-- A page gets a group, and stays in its place. -/
theorem pages_of_updatePageGroup {group : String} {u : Unit}
    (h : updatePageGroup code group t = .ok (u, t')) :
    (t.pages.get? code).isSome ∧
      t' = { t with pages := t.pages.modify code fun row => { row with
        parent := (t.pages.get? code).bind fun row => row.parent
        group } } := by
  simp only [updatePageGroup, bind_eq_ok, pure_eq_ok, require_eq_ok, Tables.updatePage,
    modifyPage_eq_ok] at h
  obtain ⟨_, ⟨hstored, rfl⟩, h⟩ := h
  cases h
  exact ⟨hstored, rfl⟩

theorem places_of_updatePageGroup {group : String} {u : Unit}
    (h : updatePageGroup code group t = .ok (u, t')) : t'.places = t.places := by
  obtain ⟨hstored, rfl⟩ := pages_of_updatePageGroup h
  obtain ⟨row, hrow⟩ := Option.isSome_iff_exists.1 hstored
  funext c
  dsimp only [places]
  rw [Keyed.get?_modify]
  split
  · next hc =>
    subst hc
    rw [hrow]
    rfl
  · rfl

-- ════════════════════════════════════════════════════════════════════════
-- Edits of editions and widgets
-- ════════════════════════════════════════════════════════════════════════

/-- A publication leaves the rows of pages as they are. -/
theorem pages_of_setPageOnline {stamp : Timestamp}
    (h : setPageOnline time code t = .ok (stamp, t')) : t'.pages = t.pages := by
  unfold setPageOnline at h
  dsimp only at h
  generalize hcopy :
    ((t.deleteWidgets .online code).deleteMetadata .online code).copyDraftToOnline code = copied
    at h
  obtain ⟨outcome, u⟩ := copied
  simp only [bind_eq_ok, require_eq_ok] at h
  obtain ⟨⟨⟩, rfl, v, hdraft, w, honline, h⟩ := h
  cases h
  rw [(touches_of_stampMetadata honline).1.pages, (touches_of_stampMetadata hdraft).1.pages,
    (touches_of_copyDraftToOnline hcopy).1.pages]
  rfl

theorem pages_of_setPageOffline {u : Unit} (h : setPageOffline code t = .ok (u, t')) :
    t'.pages = t.pages := by
  unfold setPageOffline at h
  split at h
  · cases h
    rfl
  · cases h

theorem pages_of_joinWidget {frame : Int} {w : Widget} {stamp : Timestamp}
    (h : joinWidget r time code frame w t = .ok (stamp, t')) : t'.pages = t.pages := by
  simp only [joinWidget, bind_eq_ok, require_eq_ok] at h
  obtain ⟨u, hinsert, v, hstamp, h⟩ := h
  cases h
  rw [(touches_of_stampMetadata hstamp).1.pages, (touches_of_insertWidget hinsert).1.pages,
    (touches_deleteWidget t .draft code frame).1.pages]

theorem pages_of_removeWidget {frame : Int} {stamp : Timestamp}
    (h : removeWidget time code frame t = .ok (stamp, t')) : t'.pages = t.pages := by
  simp only [removeWidget, bind_eq_ok, require_eq_ok] at h
  obtain ⟨v, hstamp, h⟩ := h
  cases h
  rw [(touches_of_stampMetadata hstamp).1.pages, (touches_deleteWidget t .draft code frame).1.pages]

theorem pages_of_moveWidget {parkingFrame source target : Int} {stamp : Timestamp}
    (h : moveWidget parkingFrame time code source target t = .ok (stamp, t')) :
    t'.pages = t.pages := by
  simp only [moveWidget, exchangeFrames, bind_eq_ok, require_eq_ok, pure_eq_ok] at h
  obtain ⟨u, ⟨⟨_, v⟩, hpark, ⟨_, w⟩, hmove, ⟨_, x⟩, hunpark, rfl⟩, y, hstamp, h⟩ := h
  cases h
  rw [(touches_of_stampMetadata hstamp).1.pages, pages_of_updateWidgetFrame hunpark,
    pages_of_updateWidgetFrame hmove, pages_of_updateWidgetFrame hpark]

end RowEdit

end Sitemap
