import Sitemap.Proofs.Checks
import Sitemap.Proofs.Hierarchy.Ancestry
import Sitemap.Proofs.Hierarchy.Change

/-!
# Plans

A plan that is made against a faithful view of pages in order is a change that fits. Where pages
need not be in order, plans still depend on nothing but the places, if the view is exact.

## Main definitions

- `Siblings.IsFaithful` — a view tells the truth about the places that it looks up
- `Siblings.IsExact` — and it does so whatever positions the pages hold
- `Siblings.Agrees` — the same plans are made against two views

## Main results

- `Siblings.IsExact.agrees` — exact views of the same places agree
- `Siblings.seat_of_planReparent`, `Siblings.seat_of_planSwap` — what a plan is made for
- `Siblings.fits_of_planReparent`, `Siblings.fits_of_planSwap` — plans fit
- `Siblings.exists_planReparent_congr` — two views of the same places admit the same moves
-/

namespace Sitemap

/-- The largest of some positions stays below a bound when each of them does. -/
theorem foldl_max_le_iff {l : List Int} {a b : Int} :
    l.foldl max a ≤ b ↔ a ≤ b ∧ ∀ x ∈ l, x ≤ b := by
  induction l generalizing a with
  | nil => simp
  | cons x rest ih =>
    rw [List.foldl_cons, ih, List.forall_mem_cons, Int.max_le, and_assoc]

/-- The position after children that can all be found is the first one, from 1 on, that lies behind
    all of them. -/
theorem nextPosition_le_iff {children : List (Option Int)} {bound : Int}
    (hfound : none ∉ children) :
    nextPosition children ≤ bound ↔ 1 ≤ bound ∧ ∀ x, some x ∈ children → x < bound := by
  have hmem : ∀ x, x ∈ children.reduceOption ↔ some x ∈ children :=
    fun x => List.mem_filterMap.trans (by simp)
  unfold nextPosition
  rw [if_neg (by simpa using hfound), Int.add_le_iff_le_sub, foldl_max_le_iff]
  simp only [hmem]
  refine and_congr ⟨fun h => by omega, fun h => by omega⟩ (forall₂_congr fun x _ => ?_)
  exact ⟨fun h => by omega, fun h => by omega⟩

theorem nextPosition_map_some_le_iff {positions : List Int} {bound : Int} :
    nextPosition (positions.map some) ≤ bound ↔ 1 ≤ bound ∧ ∀ x ∈ positions, x < bound := by
  rw [nextPosition_le_iff (by simp)]
  simp

/-- Where the children of a parent are in order, the first position behind all of them is the one
    after their number. -/
theorem Seats.Lists.next_eq {s : Seats} {parent : String} {codes : List String} {next : Int}
    (h : s.Lists parent codes) (hnext : ∀ bound, next ≤ bound ↔ 1 ≤ bound ∧
      ∀ code position, s code = some (parent, position) → position < bound) :
    next = codes.length + 1 := by
  have hbehind := (hnext _).1 (Int.le_refl _)
  refine Int.le_antisymm ((hnext _).2 ⟨by omega, fun c k hc => ?_⟩) ?_
  · have := (h.position_mem hc).2
    omega
  · by_cases hempty : codes.length = 0
    · omega
    · have hlast : codes[codes.length - 1]? = some codes[codes.length - 1] :=
        List.getElem?_eq_getElem (by omega)
      have := hbehind.2 _ _ ((h.getElem?_iff _).1 hlast)
      omega

namespace Siblings

/-- A view tells the truth about the places that it looks up. -/
structure IsFaithful (s : Siblings) : Prop where
  /-- It counts all pages. -/
  counted : s.IsCounted
  /-- Where the children of a parent are in order, the next one comes after them. -/
  next : ∀ parent codes, (Places.seat s.lookup).Lists parent codes →
    s.nextPosition parent = codes.length + 1
  /-- A child that is found at a position sits there. -/
  childAt : ∀ parent position code, s.childAt parent position = some code →
    Places.seat s.lookup code = some (parent, position)

/-- A view says of the places that it looks up just what there is to be said. Positions may be
    taken twice and may leave gaps. -/
structure IsExact (s : Siblings) : Prop where
  /-- It counts all pages. -/
  counted : s.IsCounted
  /-- The next position below a parent is the first one, from 1 on, that lies behind all of its
      children. -/
  next_le_iff : ∀ parent bound, s.nextPosition parent ≤ bound ↔ 1 ≤ bound ∧
    ∀ code position, Places.seat s.lookup code = some (parent, position) → position < bound
  /-- Of the children at a position the one of the smallest code is found. -/
  childAt_eq_some_iff : ∀ parent position code, s.childAt parent position = some code ↔
    Places.seat s.lookup code = some (parent, position) ∧
      ∀ other, Places.seat s.lookup other = some (parent, position) → code ≤ other

/-- Two views answer alike, and the same plans are made against them. -/
structure Agrees (s s' : Siblings) : Prop where
  /-- The same ancestors are found. -/
  ancestors : ∀ code, s.ancestors code = s'.ancestors code
  /-- A page that is appended to some children gets the same position. -/
  nextPosition : ∀ parent, s.nextPosition parent = s'.nextPosition parent
  /-- The same child is found at a position. -/
  childAt : ∀ parent position, s.childAt parent position = s'.childAt parent position
  /-- Moves below another parent have the same plan, or are refused for the same reason. -/
  planReparent : ∀ code newParent, s.planReparent code newParent = s'.planReparent code newParent
  /-- So do exchanges with a neighbour. -/
  planSwap : ∀ code up, s.planSwap code up = s'.planSwap code up

variable {s s' : Siblings} {code newParent : String}

/-- An exact view is a faithful one. -/
theorem IsExact.isFaithful (h : s.IsExact) : s.IsFaithful where
  counted := h.counted
  next parent _ hlist := hlist.next_eq (h.next_le_iff parent)
  childAt _ _ _ hchild := ((h.childAt_eq_some_iff _ _ _).1 hchild).1

/-- What is said of places just as it is, is the same for the same places. -/
theorem IsExact.agrees (h : s.IsExact) (h' : s'.IsExact) (hlookup : s.lookup = s'.lookup) :
    s.Agrees s' := by
  have hancestors : ∀ code, s.ancestors code = s'.ancestors code :=
    ancestors_congr hlookup h'.counted h.counted
  have hnext : ∀ parent, s.nextPosition parent = s'.nextPosition parent := by
    intro parent
    have hiff : ∀ bound, s.nextPosition parent ≤ bound ↔ s'.nextPosition parent ≤ bound := by
      intro bound
      rw [h.next_le_iff, h'.next_le_iff, hlookup]
    exact Int.le_antisymm ((hiff _).2 (Int.le_refl _)) ((hiff _).1 (Int.le_refl _))
  have hchild : ∀ parent position, s.childAt parent position = s'.childAt parent position := by
    intro parent position
    refine Option.ext fun code => ?_
    rw [h.childAt_eq_some_iff, h'.childAt_eq_some_iff, hlookup]
  refine ⟨hancestors, hnext, hchild, fun code newParent => ?_, fun code up => ?_⟩
  · unfold planReparent isDescendant
    rw [hlookup, hancestors, hnext]
  · unfold planSwap
    simp only [hlookup, hchild]

/-- The walk to the ancestors tells which pages lie in the subtree of a page. -/
theorem leadsTo_iff (hcounted : s.IsCounted) : LeadsTo (Places.parentOf s.lookup) code newParent ↔
    newParent = code ∨ s.isDescendant newParent code = true := by
  rw [isDescendant_iff hcounted]
  constructor
  · intro hlead
    by_cases hne : newParent = code
    · exact .inl hne
    · exact .inr (hlead.exists_parent hne)
  · rintro (rfl | ⟨parent, hparent, hlead⟩)
    · exact .refl
    · exact .step hparent hlead

/-- A page that moves goes below a page outside of its subtree. -/
theorem IsFaithful.not_leadsTo (h : s.IsFaithful)
    (hout : ¬ (newParent = code ∨ s.isDescendant newParent code = true)) :
    ¬ LeadsTo (Places.parentOf s.lookup) code newParent :=
  mt (leadsTo_iff h.counted).1 hout

/-- A plan to move a page takes it from its seat to the next position below another page. -/
theorem seat_of_planReparent {plan : ReparentPlan}
    (hplan : s.planReparent code newParent = .ok (some plan)) :
    plan.code = code ∧ plan.newParent = newParent ∧
      Places.seat s.lookup plan.code = some (plan.oldParent, plan.oldPosition) ∧
      (s.lookup plan.newParent).isSome ∧ plan.oldParent ≠ plan.newParent ∧
      plan.newPosition = s.nextPosition plan.newParent ∧
      ¬ (plan.newParent = plan.code ∨ s.isDescendant plan.newParent plan.code = true) := by
  unfold planReparent at hplan
  split at hplan
  · cases hplan
  · next place hplace =>
    split at hplan
    · cases hplan
    · next hparent =>
      split at hplan
      · cases hplan
      · next oldParent hold =>
        split at hplan
        · cases hplan
        · next hout =>
          split at hplan
          · cases hplan
          · next hne =>
            cases hplan
            refine ⟨rfl, rfl, Places.seat_of_place hplace hold, ?_, hne, rfl, hout⟩
            simpa [Option.isSome_iff_ne_none] using hparent

/-- A plan to exchange a page with a neighbour is for children of one parent, one position from
    each other, and moves the page to the side that was asked for. -/
theorem seat_of_planSwap (h : s.IsFaithful) {up : Bool} {plan : SwapPlan}
    (hplan : s.planSwap code up = .ok (some plan)) :
    (if up then plan.up else plan.down) = code ∧ ∃ parent position,
      Places.seat s.lookup plan.up = some (parent, position + 1) ∧
      Places.seat s.lookup plan.down = some (parent, position) := by
  unfold planSwap at hplan
  split at hplan
  · cases hplan
  · next place hplace =>
    split at hplan
    · cases hplan
    · next parent hparent =>
      have hself := Places.seat_of_place hplace hparent
      dsimp only at hplan
      generalize htarget : (if up then place.position - 1 else place.position + 1) = target at hplan
      split at hplan
      · cases hplan
      · obtain ⟨neighbour, hneighbour, hplan⟩ :=
          Option.map_eq_some_iff.1 (Except.ok.inj hplan)
        have hother := h.childAt _ _ _ hneighbour
        rw [← htarget] at hother
        cases up with
        | true =>
          simp only [if_true] at hplan hother
          subst hplan
          exact ⟨rfl, parent, _, by rw [Int.sub_add_cancel]; exact hself, hother⟩
        | false =>
          simp only [Bool.false_eq_true, if_false] at hplan hother
          subst hplan
          exact ⟨rfl, parent, _, hother, hself⟩

/-- A plan to move a page below another parent fits the places that it was made on. -/
theorem fits_of_planReparent (h : s.IsFaithful) (hordered : Places.IsOrdered s.lookup)
    {plan : ReparentPlan} (hplan : s.planReparent code newParent = .ok (some plan)) :
    Places.Fits s.lookup (.reparent plan) ∧ plan.code = code ∧ plan.newParent = newParent := by
  obtain ⟨hcode, hnew, hseat, hparent, hne, hnext, hout⟩ := seat_of_planReparent hplan
  obtain ⟨codes, hcodes⟩ := hordered.seats plan.newParent
  exact ⟨.reparent (hordered.place_of_seat hseat) hparent hne hcodes
    (hnext.trans (h.next _ _ hcodes)) (h.not_leadsTo hout), hcode, hnew⟩

/-- A plan to exchange a page with a neighbour fits the places that it was made on, and moves
    the page to the side that was asked for. -/
theorem fits_of_planSwap (h : s.IsFaithful) (hordered : Places.IsOrdered s.lookup) {up : Bool}
    {plan : SwapPlan} (hplan : s.planSwap code up = .ok (some plan)) :
    Places.Fits s.lookup (.swap plan) ∧ (if up then plan.up else plan.down) = code := by
  obtain ⟨hcode, parent, position, hup, hdown⟩ := seat_of_planSwap h hplan
  exact ⟨.swap (hordered.place_of_seat hup) (hordered.place_of_seat hdown), hcode⟩

/-- No move is planned only below the parent that the page has. -/
theorem parentOf_of_planReparent (hplan : s.planReparent code newParent = .ok none) :
    s.parentOf code = some newParent := by
  unfold planReparent at hplan
  split at hplan
  · cases hplan
  · next place hplace =>
    split at hplan
    · cases hplan
    · split at hplan
      · cases hplan
      · next oldParent hold =>
        split at hplan
        · cases hplan
        · split at hplan
          · next hsame => exact Places.parentOf_eq_some_iff.2 ⟨_, hplace, hsame ▸ hold⟩
          · cases hplan

/-- An exchange of a page with a neighbour can be planned, if perhaps for nothing. -/
theorem exists_planSwap (h : (s.lookup code).isSome) (up : Bool) :
    ∃ planned, s.planSwap code up = .ok planned := by
  obtain ⟨place, hplace⟩ := Option.isSome_iff_exists.1 h
  unfold planSwap
  rw [hplace]
  dsimp only
  split
  · exact ⟨_, rfl⟩
  · split
    · split <;> exact ⟨_, rfl⟩
    · split <;> exact ⟨_, rfl⟩

/-- Two views that look up the same places find the same pages below a page. -/
theorem isDescendant_congr (hlookup : s'.lookup = s.lookup)
    (hcounted : s.IsCounted) (hcounted' : s'.IsCounted) (ancestor : String) :
    s'.isDescendant code ancestor = s.isDescendant code ancestor := by
  rw [isDescendant, isDescendant, ancestors_congr hlookup hcounted hcounted']

/-- A move that is planned against one view is planned against another one of the same places,
    though perhaps to another position. -/
theorem exists_planReparent_congr (hlookup : s'.lookup = s.lookup)
    (hcounted : s.IsCounted) (hcounted' : s'.IsCounted) {planned : Option ReparentPlan}
    (h : s.planReparent code newParent = .ok planned) :
    ∃ planned', s'.planReparent code newParent = .ok planned' := by
  unfold planReparent at h ⊢
  rw [hlookup, isDescendant_congr hlookup hcounted hcounted']
  split at h
  · cases h
  · split at h
    · cases h
    · next hstored =>
      rw [if_neg hstored]
      split at h
      · cases h
      · split at h
        · cases h
        · next hout =>
          rw [if_neg hout]
          split
          · exact ⟨_, rfl⟩
          · exact ⟨_, rfl⟩

end Siblings

end Sitemap
