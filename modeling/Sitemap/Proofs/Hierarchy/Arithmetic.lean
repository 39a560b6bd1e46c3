import Sitemap.Proofs.Hierarchy.Plans

/-!
# Plans in 32 bits

A program that holds positions in 32 bits makes the plans of exact sums as long as these fit. They
do where the children of every page are in order and there are fewer pages than positions. Where
they do not, a checked program stops, so that every plan it makes is exact; a wrapping one goes on
with what is left of the sum.

## Main definitions

- `Places.AreInt32` — all positions are held in 32 bits

## Main results

- `Arithmetic.nextPosition_eq_int32` — the next position is what becomes of the exact sum
- `Arithmetic.exact_of_planReparent`, `Arithmetic.seats_of_planSwap` — what a plan is made for,
  whether its sums fit or not
- `Siblings.IsFaithful.plans_are_exact` — plans on pages in order are exact
-/

namespace Sitemap

/-- All positions are held in 32 bits. -/
def Places.AreInt32 (s : Places) : Prop :=
  ∀ code place, s code = some place → IsInt32 place.position

-- ════════════════════════════════════════════════════════════════════════
-- Places in 32 bits
-- ════════════════════════════════════════════════════════════════════════

/-- Closing a gap is done in 32 bits: what is renumbered lies behind the gap. -/
theorem Placement.isInt32_closeGap {p : Placement} {parent : String} {gap : Int}
    (hp : IsInt32 p.position) (hgap : IsInt32 gap) :
    IsInt32 (p.closeGap parent gap).position := by
  obtain ⟨hlow, hhigh⟩ := hp
  unfold closeGap
  split
  · next hafter =>
    have := hafter.2
    have := hgap.1
    exact ⟨by dsimp only; omega, by dsimp only; omega⟩
  · exact ⟨hlow, hhigh⟩

namespace Places.AreInt32

variable {s : Places} {code parent : String} {position : Int}

theorem add (h : s.AreInt32) {p : Placement} (hp : IsInt32 p.position) :
    (Change.apply s (.add p)).AreInt32 := by
  intro c place hc
  dsimp only [Change.apply] at hc
  split at hc
  · cases hc
    exact hp
  · exact h c place hc

theorem drop (h : s.AreInt32) (hgap : IsInt32 position) :
    (Change.apply s (.drop code parent position)).AreInt32 := by
  intro c place hc
  dsimp only [Change.apply] at hc
  split at hc
  · cases hc
  · obtain ⟨p, hp, rfl⟩ := Option.map_eq_some_iff.1 hc
    exact Placement.isInt32_closeGap (h c p hp) hgap

theorem reparent (h : s.AreInt32) {plan : ReparentPlan} (hgap : IsInt32 plan.oldPosition)
    (hnew : IsInt32 plan.newPosition) : (Change.apply s (.reparent plan)).AreInt32 := by
  intro c place hc
  obtain ⟨p, hp, rfl⟩ := Option.map_eq_some_iff.1 hc
  refine Placement.isInt32_closeGap ?_ hgap
  split at hp
  · obtain ⟨q, -, rfl⟩ := Option.map_eq_some_iff.1 hp
    exact hnew
  · exact h c p hp

end Places.AreInt32

namespace Arithmetic

variable {a : Arithmetic} {children : List (Option Int)} {position : Int} {s : Siblings}
  {code newParent : String} {up : Bool}

-- ════════════════════════════════════════════════════════════════════════
-- The next position
-- ════════════════════════════════════════════════════════════════════════

/-- Where the children can be counted, their next position is what becomes of the exact sum. -/
theorem nextPosition_eq_int32 (a : Arithmetic) (hcount : IsInt32 children.length) :
    a.nextPosition children = a.int32 (Sitemap.nextPosition children) := by
  unfold Arithmetic.nextPosition Sitemap.nextPosition
  rw [int32_of_isInt32 a hcount, Option.bind_eq_bind, Option.bind_some]
  by_cases hempty : children = []
  · subst hempty
    exact (int32_of_isInt32 a (by decide)).symm
  · rw [if_neg (by simpa using hempty)]
    split <;> rfl

/-- The next position is held in 32 bits. -/
theorem isInt32_of_nextPosition (h : a.nextPosition children = some position) :
    IsInt32 position := by
  unfold Arithmetic.nextPosition at h
  obtain ⟨count, -, h⟩ := Option.bind_eq_some_iff.1 h
  split at h
  · cases h
    decide
  · split at h
    · exact isInt32_of_int32 h
    · exact isInt32_of_int32 h

/-- A checked program that works out a position works out the exact one. -/
theorem eq_of_checked_nextPosition (h : checked.nextPosition children = some position) :
    position = Sitemap.nextPosition children := by
  have hcount : IsInt32 children.length := by
    unfold Arithmetic.nextPosition at h
    obtain ⟨count, hcount, -⟩ := Option.bind_eq_some_iff.1 h
    rw [← eq_of_checked hcount]
    exact isInt32_of_int32 hcount
  rw [nextPosition_eq_int32 _ hcount] at h
  exact eq_of_checked h

-- ════════════════════════════════════════════════════════════════════════
-- What a plan is made for
-- ════════════════════════════════════════════════════════════════════════

/-- A plan to move a page is the exact one but for the position it goes to. -/
theorem exact_of_planReparent {plan : ReparentPlan}
    (h : a.planReparent s code newParent = some (.ok (some plan))) :
    s.planReparent code newParent =
        .ok (some { plan with newPosition := s.nextPosition newParent }) ∧
      a.nextPosition (s.childPositions newParent) = some plan.newPosition := by
  unfold Arithmetic.planReparent at h
  split at h
  · next exact hexact =>
    obtain ⟨position, hposition, hplan⟩ := Option.map_eq_some_iff.1 h
    cases hplan
    obtain ⟨-, hnew, -, -, -, hnext, -⟩ := Siblings.seat_of_planReparent hexact
    rw [hexact, ← hnew, ← hnext]
    exact ⟨rfl, hnew ▸ hposition⟩
  · next hother => exact absurd (Option.some.inj h) (hother plan)

/-- A plan to exchange neighbours is for children of one parent, and a step from the position of
    either leads to that of the other. -/
theorem seats_of_planSwap (hfaithful : s.IsFaithful) (hheld : Places.AreInt32 s.lookup)
    {plan : SwapPlan} (h : a.planSwap s code up = some (.ok (some plan))) :
    ∃ parent i j, Places.seat s.lookup plan.up = some (parent, i) ∧
      Places.seat s.lookup plan.down = some (parent, j) ∧
      a.int32 (i + -1) = some j ∧ a.int32 (j + 1) = some i := by
  unfold Arithmetic.planSwap at h
  split at h
  · cases h
  · cases h
  · next c parent position hplace =>
    have hself := Places.seat_of_place hplace rfl
    obtain ⟨target, htarget, hplan⟩ := Option.map_eq_some_iff.1 h
    split at hplan
    · cases hplan
    · obtain ⟨neighbour, hneighbour, hplan⟩ := Option.map_eq_some_iff.1 (Except.ok.inj hplan)
      have hother := hfaithful.childAt _ _ _ hneighbour
      have hposition : IsInt32 position := hheld _ _ hplace
      cases up with
      | true =>
        cases hplan
        exact ⟨parent, _, _, hself, hother, htarget, int32_add_back hposition rfl htarget⟩
      | false =>
        cases hplan
        exact ⟨parent, _, _, hother, hself, int32_add_back hposition rfl htarget, htarget⟩

-- ════════════════════════════════════════════════════════════════════════
-- Plans whose sums fit
-- ════════════════════════════════════════════════════════════════════════

/-- A plan to move a page is exact when the position it goes to fits. -/
theorem planReparent_eq (a : Arithmetic)
    (hnext : a.nextPosition (s.childPositions newParent) = some (s.nextPosition newParent)) :
    a.planReparent s code newParent = some (s.planReparent code newParent) := by
  unfold Arithmetic.planReparent
  split
  · next plan hplan =>
    obtain ⟨-, hnew, -, -, -, hposition, -⟩ := Siblings.seat_of_planReparent hplan
    rw [hnext, hplan, ← hnew, ← hposition]
    rfl
  · rfl

/-- A plan to exchange a page with a neighbour is exact when the positions around it fit. -/
theorem planSwap_eq (a : Arithmetic)
    (hfits : ∀ parent position, Places.seat s.lookup code = some (parent, position) →
      IsInt32 (position - 1) ∧ IsInt32 (position + 1)) :
    a.planSwap s code up = some (s.planSwap code up) := by
  unfold Arithmetic.planSwap Siblings.planSwap
  split
  · next hplace => rw [hplace]
  · next hplace => rw [hplace]
  · next c parent position hplace =>
    obtain ⟨hbefore, hafter⟩ := hfits _ _ (Places.seat_of_place hplace rfl)
    have htarget : a.int32 (position + if up then -1 else 1) =
        some (if up then position - 1 else position + 1) := by
      cases up with
      | true => exact int32_of_isInt32 a hbefore
      | false => exact int32_of_isInt32 a hafter
    rw [htarget, hplace]
    rfl

end Arithmetic

/-- The next position fits in 32 bits where no child holds the last of these. -/
theorem Siblings.IsExact.isInt32_nextPosition {s : Siblings} {parent : String} (h : s.IsExact)
    (hheld : Places.AreInt32 s.lookup)
    (hlast : ∀ c, Places.seat s.lookup c ≠ some (parent, 2147483647)) :
    IsInt32 (s.nextPosition parent) := by
  have hfirst := ((h.next_le_iff parent _).1 (Int.le_refl _)).1
  have hle : s.nextPosition parent ≤ 2147483647 := by
    refine (h.next_le_iff parent _).2 ⟨by omega, fun c position hseat => ?_⟩
    obtain ⟨place, hplace, -, rfl⟩ := Places.seat_eq_some_iff.1 hseat
    have hhigh := (hheld _ _ hplace).2
    have hne : place.position ≠ 2147483647 := fun heq => hlast c (heq ▸ hseat)
    omega
  exact ⟨by omega, by omega⟩

/-- Where the children of every page are in order, and there are fewer pages than positions, all
    positions and plans are exact. -/
theorem Siblings.IsFaithful.plans_are_exact {s : Siblings} (h : s.IsFaithful)
    (hordered : Places.IsOrdered s.lookup)
    (hlisted : ∀ parent, (s.childPositions parent).length ≤ s.count)
    (hfew : s.count < 2147483647) (a : Arithmetic) :
    (∀ parent, a.nextPosition (s.childPositions parent) = some (s.nextPosition parent)) ∧
      (∀ code newParent, a.planReparent s code newParent =
        some (s.planReparent code newParent)) ∧
      ∀ code up, a.planSwap s code up = some (s.planSwap code up) := by
  -- no position is larger than the number of pages
  have hlength : ∀ {parent codes}, (Places.seat s.lookup).Lists parent codes →
      codes.length ≤ s.count := by
    intro parent codes hlist
    refine h.counted codes hlist.nodup fun c hc => ?_
    obtain ⟨position, hseat⟩ := hlist.mem_iff.1 hc
    obtain ⟨place, hplace, -⟩ := Places.seat_eq_some_iff.1 hseat
    rw [hplace]
    rfl
  have hnext : ∀ parent,
      a.nextPosition (s.childPositions parent) = some (s.nextPosition parent) := by
    intro parent
    obtain ⟨codes, hlist⟩ := hordered.seats parent
    have hposition : Sitemap.nextPosition (s.childPositions parent) = codes.length + 1 :=
      h.next parent codes hlist
    have hcodes := hlength hlist
    have hcount := hlisted parent
    rw [Arithmetic.nextPosition_eq_int32 a ⟨by omega, by omega⟩]
    exact Arithmetic.int32_of_isInt32 a ⟨by omega, by omega⟩
  refine ⟨hnext, fun code newParent => Arithmetic.planReparent_eq a (hnext newParent),
    fun code up => Arithmetic.planSwap_eq a fun parent position hseat => ?_⟩
  obtain ⟨codes, hlist⟩ := hordered.seats parent
  have hposition := hlist.position_mem hseat
  have hcodes := hlength hlist
  exact ⟨⟨by omega, by omega⟩, ⟨by omega, by omega⟩⟩

end Sitemap
