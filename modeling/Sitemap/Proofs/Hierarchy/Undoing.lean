import Sitemap.Proofs.Hierarchy.Plans
import Sitemap.Proofs.Hierarchy.Sorting

/-!
# Changes taken back

A change that fits can be taken back by another change: a page that was added leaves again, and
neighbours that were exchanged are exchanged again. The places are then those from before, and not
only the same order of the children, since a gap that nobody is behind moves nobody.

## Main definitions

- `SwapPlan.reversed` — the exchange that takes an exchange back

## Main results

- `Places.Fits.drop_add` — a page that was added leaves no trace
- `Places.Fits.swap_swap` — neighbours that were exchanged twice are where they were
- `Siblings.IsFaithful.planSwap_reversed` — the step to the other side is planned to take one back
-/

namespace Sitemap

/-- The exchange that takes an exchange back. -/
def SwapPlan.reversed (plan : SwapPlan) : SwapPlan := ⟨plan.down, plan.up⟩

namespace Places

variable {s : Places} {plan : SwapPlan}

/-- Neighbours that are exchanged have each the position that the other one had. -/
theorem Fits.places_swap (hfits : s.Fits (.swap plan)) : ∃ parent position,
    s plan.up = some ⟨plan.up, some parent, position + 1⟩ ∧
      s plan.down = some ⟨plan.down, some parent, position⟩ ∧
      Change.apply s (.swap plan) plan.up = some ⟨plan.up, some parent, position⟩ ∧
      Change.apply s (.swap plan) plan.down = some ⟨plan.down, some parent, position + 1⟩ := by
  have hne := hfits.ne_of_swap
  cases hfits with
  | @swap _ parent position hup hdown =>
    refine ⟨parent, position, hup, hdown, ?_, ?_⟩
    · unfold Change.apply
      dsimp only
      rw [if_neg hne.symm, if_pos rfl, hup, Option.map_some, Int.add_sub_cancel]
    · unfold Change.apply
      dsimp only
      rw [if_pos rfl, hdown, Option.map_some]

/-- Neighbours that were exchanged are neighbours the other way round. -/
theorem Fits.reversed (hfits : s.Fits (.swap plan)) :
    (Change.apply s (.swap plan)).Fits (.swap plan.reversed) := by
  obtain ⟨parent, position, -, -, hup, hdown⟩ := hfits.places_swap
  exact .swap hdown hup

/-- Neighbours that were exchanged twice are where they were. -/
theorem Fits.swap_swap (hfits : s.Fits (.swap plan)) :
    Change.apply (Change.apply s (.swap plan)) (.swap plan.reversed) = s := by
  obtain ⟨parent, position, hup, hdown, hup', hdown'⟩ := hfits.places_swap
  have hne := hfits.ne_of_swap
  funext c
  unfold Change.apply SwapPlan.reversed at *
  dsimp only at *
  by_cases hc : c = plan.up
  · rw [if_pos hc, hc, hup', hup, Option.map_some]
  · rw [if_neg hc]
    by_cases hc' : c = plan.down
    · rw [if_pos hc', hc', hdown', hdown, Option.map_some, Int.add_sub_cancel]
    · rw [if_neg hc', if_neg hc', if_neg hc]

/-- A page that was added last leaves no trace, as there is nobody behind it. -/
theorem Fits.drop_add {place : Placement} {parent : String} (hfits : s.Fits (.add place))
    (hparent : place.parent = some parent) :
    Change.apply (Change.apply s (.add place)) (.drop place.code parent place.position) = s := by
  cases hfits with
  | @add code q codes hnew hstored hlist =>
    cases hparent
    funext c
    unfold Change.apply
    dsimp only
    by_cases hc : c = code
    · rw [if_pos hc, hc, hnew]
    · rw [if_neg hc, if_neg hc]
      cases hplace : s c with
      | none => rfl
      | some p =>
        rw [Option.map_some, Placement.closeGap, if_neg]
        rintro ⟨hbelow, hbehind⟩
        have hseat := hlist.position_mem (seat_of_place hplace hbelow)
        omega

end Places

namespace Siblings

variable {s s' : Siblings} {code : String} {up : Bool} {plan : SwapPlan}

/-- Once neighbours were exchanged as planned, the step to the other side is planned to exchange
    them again. -/
theorem IsFaithful.planSwap_reversed (h : s.IsFaithful) (h' : s'.IsExact)
    (hordered : Places.IsOrdered s.lookup) (hplan : s.planSwap code up = .ok (some plan))
    (hlookup : s'.lookup = Places.Change.apply s.lookup (.swap plan)) :
    s'.planSwap code (!up) = .ok (some plan.reversed) := by
  obtain ⟨hfits, hcode⟩ := fits_of_planSwap h hordered hplan
  obtain ⟨parent, position, -, hbefore, hup, hdown⟩ := hfits.places_swap
  rw [← hlookup] at hup hdown
  have hinorder : (Places.seat s'.lookup).InOrder := by
    rw [hlookup]
    exact (hordered.apply hfits).seats
  -- a child that sits at a position is the only one there, so it is found
  have hchild : ∀ c k, Places.seat s'.lookup c = some (parent, k) →
      s'.childAt parent k = some c := by
    intro c k hc
    refine (h'.childAt_eq_some_iff _ _ _).2 ⟨hc, fun other hother => ?_⟩
    obtain rfl := hinorder.apart c other _ hc hother
    exact String.le_refl c
  have hfirst : 1 ≤ position := by
    obtain ⟨codes, hcodes⟩ := hordered.seats parent
    exact (hcodes.position_mem (Places.seat_of_place hbefore rfl)).1
  unfold planSwap
  cases up with
  | true =>
    obtain rfl : plan.up = code := hcode
    simp only [hup, Bool.not_true, Bool.false_eq_true, if_false]
    rw [if_neg (by omega), hchild _ _ (Places.seat_of_place hdown rfl)]
    rfl
  | false =>
    obtain rfl : plan.down = code := hcode
    simp only [hdown, Bool.not_false, if_true, Int.add_sub_cancel]
    rw [if_neg (by omega), hchild _ _ (Places.seat_of_place hup rfl)]
    rfl

end Siblings

end Sitemap
