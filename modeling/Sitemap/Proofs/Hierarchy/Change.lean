import Sitemap.Proofs.Hierarchy.Places

/-!
# Changes of the hierarchy

Four changes make up whatever happens to the places of pages: a page is appended to the
children of a parent, a page leaves, it moves below another parent, and neighbours exchange
their places. Each of them is a function on places and comes with the condition under which
it fits.

## Main definitions

- `Places.Change` — the four changes
- `Places.Change.apply` — the places after a change
- `Places.Fits` — a change suits the places that it is made on
- `Places.IsClosed` — parents are pages
- `Places.Follow` — places come from others by at most one change that fits
- `Places.IsRooted` — the pages form a tree, or there are none

## Main results

- `Places.IsOrdered.apply`, `Places.IsTree.apply` — changes that fit keep pages in order and
  in a tree
- `Places.Fits.isLastRoot_iff` — no change that fits touches the root that is shown
- `Places.Fits.isClosed` — after a change that fits, parents are pages if they were before

## Design notes

A change that fits may still be made where pages run in a circle: order is kept without
regard to it, as rows in order need not form a tree.
-/

namespace Sitemap

namespace Places

/-- A change of the hierarchy. -/
inductive Change where
  /-- A page gets a place. -/
  | add (place : Placement)
  /-- The page at a place below `parent` leaves, and the gap is closed. -/
  | drop (code parent : String) (position : Int)
  /-- A page moves below another parent, and the gap that it leaves is closed. -/
  | reparent (plan : ReparentPlan)
  /-- Neighbours exchange their places. -/
  | swap (plan : SwapPlan)

/-- The places after a change. -/
def Change.apply (s : Places) : Change → Places
  | .add place => fun c => if c = place.code then some place else s c
  | .drop code parent position => fun c =>
    if c = code then none else (s c).map (Placement.closeGap parent position)
  | .reparent plan => fun c =>
    (if c = plan.code then (s c).map fun p =>
        { p with parent := some plan.newParent, position := plan.newPosition }
      else s c).map (Placement.closeGap plan.oldParent plan.oldPosition)
  | .swap plan => fun c =>
    if c = plan.down then (s c).map fun p => { p with position := p.position + 1 }
    else if c = plan.up then (s c).map fun p => { p with position := p.position - 1 }
    else s c

/-- A change suits the places that it is made on. -/
inductive Fits (s : Places) : Change → Prop where
  /-- A new page comes last among the children of a page. -/
  | add {code parent : String} {codes : List String} (hnew : s code = none)
    (hparent : (s parent).isSome) (hlist : s.seat.Lists parent codes) :
    Fits s (.add ⟨code, some parent, codes.length + 1⟩)
  /-- The page that leaves sits where it is taken from, and it has no children. -/
  | drop {code parent : String} {position : Int}
    (hplace : s code = some ⟨code, some parent, position⟩)
    (hleaf : ∀ c, s.parentOf c ≠ some code) : Fits s (.drop code parent position)
  /-- The page that moves sits where it is taken from, and it comes last among the children
      of a page outside of its own subtree. -/
  | reparent {plan : ReparentPlan} {codes : List String}
    (hplace : s plan.code = some ⟨plan.code, some plan.oldParent, plan.oldPosition⟩)
    (hparent : (s plan.newParent).isSome) (hne : plan.oldParent ≠ plan.newParent)
    (hlist : s.seat.Lists plan.newParent codes)
    (hposition : plan.newPosition = codes.length + 1)
    (hout : ¬ LeadsTo s.parentOf plan.code plan.newParent) : Fits s (.reparent plan)
  /-- The pages are neighbours. -/
  | swap {plan : SwapPlan} {parent : String} {position : Int}
    (hup : s plan.up = some ⟨plan.up, some parent, position + 1⟩)
    (hdown : s plan.down = some ⟨plan.down, some parent, position⟩) : Fits s (.swap plan)

variable {s : Places} {change : Change} {code parent top : String} {position : Int}

/-- Neighbours are two pages. -/
theorem Fits.ne_of_swap {plan : SwapPlan} (h : s.Fits (.swap plan)) : plan.down ≠ plan.up := by
  cases h with
  | swap hup hdown =>
    intro heq
    rw [heq, hup] at hdown
    simp only [Option.some.injEq, Placement.mk.injEq] at hdown
    omega

/-- A page that moves has a parent. -/
theorem Fits.code_ne_of_root {plan : ReparentPlan} (h : s.Fits (.reparent plan))
    (hroot : s top = some ⟨top, none, position⟩) : top ≠ plan.code := by
  cases h with
  | reparent hplace =>
    rintro rfl
    rw [hroot] at hplace
    cases hplace

-- ════════════════════════════════════════════════════════════════════════
-- Seats after a change
-- ════════════════════════════════════════════════════════════════════════

/-- Closing a gap does to the seat of a page what it does to its place. -/
theorem seat_closeGap (p : Placement) :
    ((p.closeGap parent position).parent.map fun q =>
        (q, (p.closeGap parent position).position)) =
      (p.parent.map fun q => (q, p.position)).map (Seats.closeGap parent position) := by
  obtain ⟨c, _ | q, k⟩ := p
  · rw [Placement.closeGap_of_ne (by simp)]
    rfl
  · by_cases hafter : q = parent ∧ position < k
    · simp [Placement.closeGap, Placement.IsAfter, Seats.closeGap, hafter]
    · simp [Placement.closeGap, Placement.IsAfter, Seats.closeGap, hafter]

theorem seat_add : (Change.apply s (.add ⟨code, some parent, position⟩)).seat =
    s.seat.place code parent position := by
  funext c
  unfold Change.apply seat Seats.place
  dsimp only
  split <;> rfl

/-- A page that is added below a parent takes its seat there. -/
theorem seat_add_of_parent {place : Placement} (hparent : place.parent = some parent) :
    (Change.apply s (.add place)).seat = s.seat.place place.code parent place.position := by
  obtain ⟨c, q, k⟩ := place
  obtain rfl : q = some parent := hparent
  exact seat_add

/-- A new page without parent takes no seat. -/
theorem seat_add_of_root {place : Placement} (hroot : place.parent = none)
    (hnew : s place.code = none) : (Change.apply s (.add place)).seat = s.seat := by
  funext c
  unfold Change.apply seat
  dsimp only
  split
  · next hc =>
    rw [hc, hnew, Option.bind_some, hroot]
    rfl
  · rfl

theorem seat_drop : (Change.apply s (.drop code parent position)).seat =
    s.seat.leave code parent position := by
  funext c
  unfold Change.apply seat Seats.leave
  dsimp only
  split
  · rfl
  · rw [Option.map_bind, Option.bind_map]
    refine congrArg (Option.bind (s c)) (funext fun p => ?_)
    exact seat_closeGap p

/-- A page that moves leaves its seat and is given another one. -/
theorem seat_reparent {plan : ReparentPlan} (hstored : (s plan.code).isSome)
    (hne : plan.oldParent ≠ plan.newParent) :
    (Change.apply s (.reparent plan)).seat =
      (s.seat.leave plan.code plan.oldParent plan.oldPosition).place plan.code plan.newParent
        plan.newPosition := by
  funext c
  unfold Change.apply seat Seats.place Seats.leave
  dsimp only
  by_cases hc : c = plan.code
  · obtain ⟨p, hp⟩ := Option.isSome_iff_exists.1 hstored
    rw [if_pos hc, if_pos hc, hc, hp, Option.map_some, Option.map_some,
      Placement.closeGap_of_ne (by simpa using hne.symm)]
    rfl
  · rw [if_neg hc, if_neg hc, if_neg hc, Option.map_bind, Option.bind_map]
    refine congrArg (Option.bind (s c)) (funext fun p => ?_)
    exact seat_closeGap p

theorem seat_swap {plan : SwapPlan} :
    (Change.apply s (.swap plan)).seat = s.seat.swap plan.up plan.down := by
  funext c
  unfold Change.apply seat Seats.swap
  dsimp only
  split
  · cases s c with
    | none => rfl
    | some p => obtain ⟨_, _ | _, _⟩ := p <;> rfl
  · split
    · cases s c with
      | none => rfl
      | some p => obtain ⟨_, _ | _, _⟩ := p <;> rfl
    · rfl

-- ════════════════════════════════════════════════════════════════════════
-- Order after a change
-- ════════════════════════════════════════════════════════════════════════

/-- Places stay filed under their codes. -/
theorem filed_apply (h : ∀ c p, s c = some p → p.code = c) :
    ∀ c p, Change.apply s change c = some p → p.code = c := by
  intro c p hp
  unfold Change.apply at hp
  split at hp
  · next place =>
    split at hp
    · next hc =>
      cases hp
      exact hc.symm
    · exact h c p hp
  · split at hp
    · cases hp
    · obtain ⟨q, hq, rfl⟩ := Option.map_eq_some_iff.1 hp
      rw [Placement.code_closeGap]
      exact h c q hq
  · obtain ⟨q, hq, rfl⟩ := Option.map_eq_some_iff.1 hp
    rw [Placement.code_closeGap]
    split at hq
    · obtain ⟨q', hq', rfl⟩ := Option.map_eq_some_iff.1 hq
      exact h c q' hq'
    · exact h c q hq
  · split at hp
    · obtain ⟨q, hq, rfl⟩ := Option.map_eq_some_iff.1 hp
      exact h c q hq
    · split at hp
      · obtain ⟨q, hq, rfl⟩ := Option.map_eq_some_iff.1 hp
        exact h c q hq
      · exact h c p hp

/-- A page that moves behind the children of another parent keeps the seats in order. -/
theorem inOrder_reparent {plan : ReparentPlan} {codes : List String} (h : s.seat.InOrder)
    (hseat : s.seat plan.code = some (plan.oldParent, plan.oldPosition))
    (hne : plan.oldParent ≠ plan.newParent) (hlist : s.seat.Lists plan.newParent codes)
    (hposition : plan.newPosition = codes.length + 1) :
    (Change.apply s (.reparent plan)).seat.InOrder := by
  obtain ⟨place, hplace, -, -⟩ := seat_eq_some_iff.1 hseat
  rw [seat_reparent (Option.isSome_of_eq_some hplace) hne, hposition]
  -- the page is no longer in a seat when it is given the new one
  refine (h.leave hseat).place (hlist.leave_of_ne hne.symm hseat) ?_
  exact if_pos rfl

/-- Changes that fit keep pages in order. -/
theorem IsOrdered.apply (h : s.IsOrdered) (hfits : s.Fits change) :
    IsOrdered (change.apply s) := by
  refine ⟨filed_apply h.filed, ?_⟩
  cases hfits with
  | add hnew _ hlist =>
    rw [seat_add]
    exact h.seats.place hlist (seat_eq_none hnew)
  | drop hplace =>
    rw [seat_drop]
    exact h.seats.leave (seat_of_place hplace rfl)
  | reparent hplace _ hne hlist hposition _ =>
    exact inOrder_reparent h.seats (seat_of_place hplace rfl) hne hlist hposition
  | swap hup hdown =>
    rw [seat_swap]
    exact h.seats.swap (seat_of_place hup rfl) (seat_of_place hdown rfl)

/-- Closing a gap neither moves nor makes a page without parent. -/
theorem map_closeGap_eq_some_iff {place : Option Placement} {p : Placement}
    (hroot : p.parent = none) :
    place.map (Placement.closeGap parent position) = some p ↔ place = some p := by
  rw [Option.map_eq_some_iff]
  constructor
  · rintro ⟨q, rfl, rfl⟩
    rw [Placement.parent_closeGap] at hroot
    rw [Placement.closeGap_of_ne (by simp [hroot])]
  · rintro rfl
    exact ⟨p, rfl, Placement.closeGap_of_ne (by simp [hroot])⟩

/-- A page without parent stays where it is, and no page loses its parent. -/
theorem Fits.root_iff (hfits : s.Fits change) (c : String) (p : Placement)
    (hroot : p.parent = none) : change.apply s c = some p ↔ s c = some p := by
  have hnot : ∀ {q : Placement}, q.parent ≠ none → ¬ some q = some p := by
    rintro q hq heq
    rw [← Option.some.inj heq] at hroot
    exact hq hroot
  unfold Change.apply
  cases hfits with
  | @add code parent codes hnew =>
    dsimp only
    split
    · next hc =>
      rw [hc, hnew]
      exact iff_of_false (hnot (by simp)) (by simp)
    · rfl
  | @drop code parent position hplace =>
    dsimp only
    split
    · next hc =>
      rw [hc, hplace]
      exact iff_of_false (by simp) (hnot (by simp))
    · exact map_closeGap_eq_some_iff hroot
  | @reparent plan codes hplace =>
    dsimp only
    rw [map_closeGap_eq_some_iff hroot]
    split
    · next hc =>
      rw [hc, hplace]
      exact iff_of_false (hnot (by simp)) (hnot (by simp))
    · rfl
  | @swap plan parent position hup hdown =>
    dsimp only
    split
    · next hc =>
      rw [hc, hdown]
      exact iff_of_false (hnot (by simp)) (hnot (by simp))
    · split
      · next hc =>
        rw [hc, hup]
        exact iff_of_false (hnot (by simp)) (hnot (by simp))
      · rfl

/-- No change that fits touches the root that is shown. -/
theorem Fits.isLastRoot_iff (hfits : s.Fits change) :
    IsLastRoot (change.apply s) code ↔ s.IsLastRoot code :=
  IsLastRoot.congr hfits.root_iff

-- ════════════════════════════════════════════════════════════════════════
-- Parents after a change
-- ════════════════════════════════════════════════════════════════════════

theorem parentOf_add {place : Placement} (c : String) :
    (Change.apply s (.add place)).parentOf c =
      if c = place.code then place.parent else s.parentOf c := by
  unfold Change.apply parentOf
  dsimp only
  split <;> rfl

theorem parentOf_drop (c : String) :
    (Change.apply s (.drop code parent position)).parentOf c =
      if c = code then none else s.parentOf c := by
  unfold Change.apply parentOf
  dsimp only
  split
  · rfl
  · rw [Option.bind_map]
    exact congrArg (Option.bind (s c)) (funext fun p => p.parent_closeGap)

theorem parentOf_reparent_of_ne {plan : ReparentPlan} {c : String} (hc : c ≠ plan.code) :
    (Change.apply s (.reparent plan)).parentOf c = s.parentOf c := by
  unfold Change.apply parentOf
  dsimp only
  rw [if_neg hc, Option.bind_map]
  exact congrArg (Option.bind (s c)) (funext fun p => p.parent_closeGap)

theorem parentOf_reparent {plan : ReparentPlan} (hstored : (s plan.code).isSome) (c : String) :
    (Change.apply s (.reparent plan)).parentOf c =
      if c = plan.code then some plan.newParent else s.parentOf c := by
  split
  · next hc =>
    obtain ⟨p, hp⟩ := Option.isSome_iff_exists.1 hstored
    unfold Change.apply parentOf
    dsimp only
    rw [if_pos hc, hc, hp]
    exact Placement.parent_closeGap _
  · next hc => exact parentOf_reparent_of_ne hc

theorem parentOf_swap {plan : SwapPlan} (c : String) :
    (Change.apply s (.swap plan)).parentOf c = s.parentOf c := by
  unfold Change.apply parentOf
  dsimp only
  split
  · rw [Option.bind_map]
    rfl
  · split
    · rw [Option.bind_map]
      rfl
    · rfl

/-- A page that has a place after a change had one before, or it is the new page. -/
theorem isSome_of_isSome_apply (h : (change.apply s code).isSome) :
    (s code).isSome ∨ ∃ place, change = .add place ∧ code = place.code := by
  unfold Change.apply at h
  split at h
  · next place =>
    split at h
    · next hc => exact .inr ⟨place, rfl, hc⟩
    · exact .inl h
  · split at h
    · cases h
    · exact .inl (by simpa using h)
  · split at h
    · exact .inl (by simpa using h)
    · exact .inl (by simpa using h)
  · split at h
    · exact .inl (by simpa using h)
    · split at h
      · exact .inl (by simpa using h)
      · exact .inl h

theorem isSome_apply_drop {c : String} (hc : c ≠ code) :
    (Change.apply s (.drop code parent position) c).isSome = (s c).isSome := by
  unfold Change.apply
  dsimp only
  rw [if_neg hc, Option.isSome_map]

theorem isSome_apply_reparent {plan : ReparentPlan} (c : String) :
    (Change.apply s (.reparent plan) c).isSome = (s c).isSome := by
  unfold Change.apply
  dsimp only
  rw [Option.isSome_map]
  split
  · exact Option.isSome_map
  · rfl

theorem isSome_apply_swap {plan : SwapPlan} (c : String) :
    (Change.apply s (.swap plan) c).isSome = (s c).isSome := by
  unfold Change.apply
  dsimp only
  split
  · exact Option.isSome_map
  · split
    · exact Option.isSome_map
    · rfl

/-- Parents are pages. -/
def IsClosed (s : Places) : Prop :=
  ∀ c q, s.parentOf c = some q → (s q).isSome

/-- After a change that fits, parents are pages if they were before. -/
theorem Fits.isClosed (hfits : s.Fits change) (hclosed : s.IsClosed) :
    IsClosed (change.apply s) := by
  intro c q hparent
  cases hfits with
  | @add code parent codes hnew hstored hlist =>
    rw [parentOf_add] at hparent
    have hold : (s q).isSome := by
      split at hparent
      · obtain rfl := Option.some.inj hparent
        exact hstored
      · exact hclosed c q hparent
    unfold Change.apply
    dsimp only
    split
    · rfl
    · exact hold
  | @drop code parent position hplace hleaf =>
    rw [parentOf_drop] at hparent
    split at hparent
    · cases hparent
    · have hne : q ≠ code := fun heq => hleaf c (heq ▸ hparent)
      rw [isSome_apply_drop hne]
      exact hclosed c q hparent
  | @reparent plan codes hplace hstored =>
    rw [parentOf_reparent (by rw [hplace]; rfl)] at hparent
    rw [isSome_apply_reparent]
    split at hparent
    · obtain rfl := Option.some.inj hparent
      exact hstored
    · exact hclosed c q hparent
  | swap =>
    rw [parentOf_swap] at hparent
    rw [isSome_apply_swap]
    exact hclosed c q hparent

-- ════════════════════════════════════════════════════════════════════════
-- Trees after a change
-- ════════════════════════════════════════════════════════════════════════

/-- After a change that fits, parents lead every page to the root. -/
theorem Fits.reaches (hfits : s.Fits change)
    (hreaches : ∀ c, (s c).isSome → LeadsTo s.parentOf top c) {c : String}
    (hc : (change.apply s c).isSome) : LeadsTo (change.apply s).parentOf top c := by
  have hold := isSome_of_isSome_apply hc
  cases hfits with
  | @add code parent codes hnew hparent =>
    have hkeep : ∀ {c}, LeadsTo s.parentOf top c →
        LeadsTo (Change.apply s (.add ⟨code, some parent, codes.length + 1⟩)).parentOf top c := by
      intro c hlead
      refine hlead.mono fun c q hq => ?_
      rw [parentOf_add, if_neg ?_]
      · exact hq
      · rintro rfl
        rw [parentOf_eq_none hnew] at hq
        cases hq
    rcases hold with hold | ⟨place, hplace, rfl⟩
    · exact hkeep (hreaches c hold)
    · cases hplace
      exact .step (by rw [parentOf_add, if_pos rfl]) (hkeep (hreaches parent hparent))
  | @drop code parent position hplace hleaf =>
    rcases hold with hold | ⟨_, hadd, -⟩
    · have hne : c ≠ code := by
        rintro rfl
        simp [Change.apply] at hc
      -- the page that leaves has no children, so no path leads through it
      have hlead := hreaches c hold
      clear hc hold
      induction hlead with
      | refl => exact .refl
      | @step c q hq _ ih =>
        refine .step ?_ (ih fun heq => hleaf c (heq ▸ hq))
        rw [parentOf_drop, if_neg hne]
        exact hq
    · cases hadd
  | @reparent plan codes hplace hparent hne hlist hposition hout =>
    have hstored : (s plan.code).isSome := by
      rw [hplace]
      rfl
    rcases hold with hold | ⟨_, hadd, -⟩
    · have hmoved : (Change.apply s (.reparent plan)).parentOf plan.code = some plan.newParent := by
        rw [parentOf_reparent hstored, if_pos rfl]
      refine (hreaches c hold).redirect hmoved ?_ (hreaches _ hparent) hout
      intro c hc
      rw [parentOf_reparent hstored, if_neg hc]
    · cases hadd
  | @swap plan parent position hup hdown =>
    rcases hold with hold | ⟨_, hadd, -⟩
    · refine (hreaches c hold).mono fun c q hq => ?_
      rw [parentOf_swap]
      exact hq
    · cases hadd

/-- Changes that fit keep pages in a tree, with the same root. -/
theorem IsTree.apply (h : s.IsTree top) (hfits : s.Fits change) :
    IsTree (change.apply s) top where
  toIsOrdered := h.toIsOrdered.apply hfits
  root := (hfits.root_iff top _ rfl).2 h.root
  single c p hp hroot := h.single c p ((hfits.root_iff c p hroot).1 hp) hroot
  reaches _ hc := hfits.reaches h.reaches hc

-- ════════════════════════════════════════════════════════════════════════
-- At most one change
-- ════════════════════════════════════════════════════════════════════════

/-- The places after are those before, or they come from them by one change that fits. -/
def Follow (before after : Places) : Prop :=
  after = before ∨ ∃ change, before.Fits change ∧ after = change.apply before

namespace Follow

variable {s' : Places}

theorem of_eq (h : s' = s) : s.Follow s' :=
  .inl h

theorem of_fits (hfits : s.Fits change) (h : s' = change.apply s) : s.Follow s' :=
  .inr ⟨change, hfits, h⟩

/-- Order is kept. -/
theorem isOrdered (h : s.Follow s') (hordered : s.IsOrdered) : s'.IsOrdered := by
  rcases h with rfl | ⟨change, hfits, rfl⟩
  · exact hordered
  · exact hordered.apply hfits

/-- A tree is kept. -/
theorem isTree (h : s.Follow s') (htree : s.IsTree top) : s'.IsTree top := by
  rcases h with rfl | ⟨change, hfits, rfl⟩
  · exact htree
  · exact htree.apply hfits

/-- Where there are no pages, no change fits. -/
theorem eq_of_forall_none (h : s.Follow s') (hnone : ∀ c, s c = none) : s' = s := by
  rcases h with heq | ⟨change, hfits, -⟩
  · exact heq
  · cases hfits with
    | add _ hparent =>
      rw [hnone] at hparent
      cases hparent
    | drop hplace | reparent hplace | swap hplace =>
      rw [hnone] at hplace
      cases hplace

/-- Parents stay pages. -/
theorem isClosed (h : s.Follow s') (hclosed : s.IsClosed) : s'.IsClosed := by
  rcases h with rfl | ⟨change, hfits, rfl⟩
  · exact hclosed
  · exact hfits.isClosed hclosed

end Follow

/-- The pages form a tree, or there are none. -/
def IsRooted (s : Places) : Prop :=
  (∃ top, s.IsTree top) ∨ ∀ c, s c = none

/-- A tree is kept, and no pages stay no pages. -/
theorem Follow.isRooted {s' : Places} (h : s.Follow s') (hrooted : s.IsRooted) :
    s'.IsRooted := by
  rcases hrooted with ⟨top, htree⟩ | hnone
  · exact .inl ⟨top, h.isTree htree⟩
  · exact .inr (h.eq_of_forall_none hnone ▸ hnone)

end Places

end Sitemap
