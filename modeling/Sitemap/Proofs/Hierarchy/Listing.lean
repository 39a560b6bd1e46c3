import Sitemap.Proofs.Hierarchy.Change

/-!
# Changes as edits of lists

The lists of children say everything about the seats of pages, so a change of the hierarchy is
an edit of these lists: a page is appended to one, struck from all, or struck and put back.

## Main results

- `Seats.Lists.leave_strike` — a page that leaves is struck from every list
- `Seats.Lists.swap_reinsert` — neighbours exchange their places when either of them is struck
  and put back where the other one was
- `Places.Fits.lists_add`, `Places.Fits.lists_drop`, `Places.Fits.lists_reparent`,
  `Places.Fits.lists_swap` — the lists after each of the changes

## Design notes

A page is on one list at most, so striking it from all of them is striking it from its own. In
this form a change can be told without its old parent.
-/

namespace Sitemap

-- ════════════════════════════════════════════════════════════════════════
-- Neighbours in a list
-- ════════════════════════════════════════════════════════════════════════

/-- Neighbours exchange their places when the second one is put before the first. -/
theorem insertIdx_eraseIdx_succ {α : Type} {l : List α} {k : Nat} {a b : α}
    (ha : l[k]? = some a) (hb : l[k + 1]? = some b) :
    (l.eraseIdx (k + 1)).insertIdx k b = (l.set k b).set (k + 1) a := by
  obtain ⟨hlt, rfl⟩ := List.getElem?_eq_some_iff.1 hb
  obtain ⟨-, rfl⟩ := List.getElem?_eq_some_iff.1 ha
  apply List.ext_getElem?
  intro i
  rw [List.getElem?_insertIdx]
  simp only [List.getElem?_eraseIdx, List.getElem?_set, List.length_set, List.length_eraseIdx]
  grind

/-- Neighbours exchange their places when the first one is put behind the second. -/
theorem insertIdx_succ_eraseIdx {α : Type} {l : List α} {k : Nat} {a b : α}
    (ha : l[k]? = some a) (hb : l[k + 1]? = some b) :
    (l.eraseIdx k).insertIdx (k + 1) a = (l.set k b).set (k + 1) a := by
  obtain ⟨hlt, rfl⟩ := List.getElem?_eq_some_iff.1 hb
  obtain ⟨-, rfl⟩ := List.getElem?_eq_some_iff.1 ha
  apply List.ext_getElem?
  intro i
  rw [List.getElem?_insertIdx]
  simp only [List.getElem?_eraseIdx, List.getElem?_set, List.length_set, List.length_eraseIdx]
  grind

-- ════════════════════════════════════════════════════════════════════════
-- Seats
-- ════════════════════════════════════════════════════════════════════════

namespace Seats.Lists

variable {s : Seats} {parent other code up down : String} {codes : List String} {position : Int}

theorem filter_eq_self (h : s.Lists other codes)
    (hcode : ∀ position, s code ≠ some (other, position)) :
    codes.filter (fun c => c ≠ code) = codes := by
  refine List.filter_eq_self.2 fun c hc => decide_eq_true ?_
  rintro rfl
  obtain ⟨position, hseat⟩ := h.mem_iff.1 hc
  exact hcode position hseat

theorem leave_strike (h : s.Lists other codes) (hcode : s code = some (parent, position)) :
    (s.leave code parent position).Lists other (codes.filter fun c => c ≠ code) := by
  by_cases hother : other = parent
  · subst hother
    exact h.leave_filter hcode
  · rw [h.filter_eq_self fun k hk => hother ?_]
    · exact h.leave_of_ne hother hcode
    · rw [hcode] at hk
      exact (Prod.mk.inj (Option.some.inj hk)).1.symm

/-- Neighbours exchange their places when either of them is struck and put back where the other
    one was. -/
theorem swap_reinsert (h : s.Lists parent codes) {k : Nat} (hup : codes[k + 1]? = some up)
    (hdown : codes[k]? = some down) :
    (s.swap up down).Lists parent ((codes.filter fun c => c ≠ up).insertIdx k up) ∧
      (s.swap up down).Lists parent ((codes.filter fun c => c ≠ down).insertIdx (k + 1) down) := by
  rw [h.filter_eq_eraseIdx hup, h.filter_eq_eraseIdx hdown, insertIdx_eraseIdx_succ hdown hup,
    insertIdx_succ_eraseIdx hdown hup]
  exact ⟨h.swap_set hup hdown, h.swap_set hup hdown⟩

end Seats.Lists

-- ════════════════════════════════════════════════════════════════════════
-- Changes that fit
-- ════════════════════════════════════════════════════════════════════════

namespace Places.Fits

variable {s : Places} {code parent other : String} {codes : List String} {position : Int}

/-- A new page is appended to the list of its parent. -/
theorem lists_add {place : Placement} (hfits : s.Fits (.add place))
    (hparent : place.parent = some parent) (h : s.seat.Lists other codes) :
    (Change.apply s (.add place)).seat.Lists other
      (if other = parent then codes ++ [place.code] else codes) := by
  cases hfits with
  | @add code q listed hnew _ hlist =>
    obtain rfl : q = parent := Option.some.inj hparent
    rw [seat_add]
    split
    · next heq =>
      subst heq
      rw [h.unique hlist]
      exact hlist.place_append (seat_eq_none hnew)
    · next hne => exact h.place_of_ne hne (seat_eq_none hnew)

theorem lists_drop (hfits : s.Fits (.drop code parent position)) (h : s.seat.Lists other codes) :
    (Change.apply s (.drop code parent position)).seat.Lists other
      (codes.filter fun c => c ≠ code) := by
  cases hfits with
  | drop hplace =>
    rw [seat_drop]
    exact h.leave_strike (seat_of_place hplace rfl)

/-- A page that moves is struck and put at its new position. -/
theorem lists_reparent {plan : ReparentPlan} (hfits : s.Fits (.reparent plan))
    (h : s.seat.Lists other codes) :
    (Change.apply s (.reparent plan)).seat.Lists other
      (if other = plan.newParent then
        (codes.filter fun c => c ≠ plan.code).insertIdx (plan.newPosition - 1).toNat plan.code
      else codes.filter fun c => c ≠ plan.code) := by
  cases hfits with
  | @reparent plan listed hplace _ hne hlist hposition _ =>
    have hseat := seat_of_place hplace rfl
    have hleft := h.leave_strike hseat
    have hgone : (s.seat.leave plan.code plan.oldParent plan.oldPosition) plan.code = none :=
      if_pos rfl
    rw [seat_reparent (by rw [hplace]; rfl) hne]
    split
    · next heq =>
      subst heq
      obtain rfl := h.unique hlist
      -- the page was not on the list that it is put on, so it comes last
      have hself : codes.filter (fun c => c ≠ plan.code) = codes := by
        refine h.filter_eq_self fun k hk => hne ?_
        rw [hseat] at hk
        exact (Prod.mk.inj (Option.some.inj hk)).1
      rw [hself] at hleft ⊢
      have hlast : (plan.newPosition - 1).toNat = codes.length := by omega
      rw [hlast, List.insertIdx_length_self, hposition]
      exact hleft.place_append hgone
    · next hother => exact hleft.place_of_ne hother hgone

/-- When neighbours exchange their places, either of them is struck and put at its new
    position. -/
theorem lists_swap {plan : SwapPlan} (hfits : s.Fits (.swap plan))
    (hcode : plan.up = code ∨ plan.down = code)
    (hseat : (Change.apply s (.swap plan)).seat code = some (parent, position))
    (h : s.seat.Lists other codes) :
    (Change.apply s (.swap plan)).seat.Lists other
      (if other = parent then
        (codes.filter fun c => c ≠ code).insertIdx (position - 1).toNat code
      else codes.filter fun c => c ≠ code) := by
  have hne := hfits.ne_of_swap
  cases hfits with
  | @swap plan q first hup hdown =>
    have hupper := seat_of_place hup rfl
    have hlower := seat_of_place hdown rfl
    rw [seat_swap] at hseat ⊢
    -- the page is below the parent of both, before and after
    have hbefore : ∃ k, s.seat code = some (q, k) := by
      rcases hcode with rfl | rfl
      · exact ⟨_, hupper⟩
      · exact ⟨_, hlower⟩
    obtain ⟨k, hbefore⟩ := hbefore
    obtain rfl : q = parent := by
      obtain ⟨j, hj⟩ := Seats.exists_swap_iff.1 ⟨_, hseat⟩
      rw [hbefore] at hj
      exact (Prod.mk.inj (Option.some.inj hj)).1
    split
    · next heq =>
      subst heq
      obtain ⟨i, hi, hfirst⟩ := (h plan.down first).1 hlower
      have hnext : codes[i + 1]? = some plan.up := by
        rw [h.getElem?_iff, hupper]
        push_cast
        rw [hfirst]
      obtain ⟨hfromUp, hfromDown⟩ := h.swap_reinsert hnext hi
      rcases hcode with rfl | rfl
      · obtain rfl : position = first := by
          rw [Seats.swap, if_neg hne.symm, if_pos rfl, hupper] at hseat
          simpa using hseat.symm
        rw [show (position - 1).toNat = i by omega]
        exact hfromUp
      · obtain rfl : position = first + 1 := by
          rw [Seats.swap, if_pos rfl, hlower] at hseat
          simpa using hseat.symm
        rw [show (first + 1 - 1).toNat = i + 1 by omega]
        exact hfromDown
    · next hother =>
      rw [h.filter_eq_self fun k' hk' => hother ?_]
      · exact h.swap_of_ne hother hupper hlower
      · rw [hbefore] at hk'
        exact (Prod.mk.inj (Option.some.inj hk')).1.symm

end Places.Fits

end Sitemap
