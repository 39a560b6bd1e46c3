import Sitemap.Proofs.Hierarchy.Change

/-!
# Parents that are written

Besides the changes that suit the places they are made on, a writer may set the parent of a
page to whatever it takes to be its parent. The page keeps its position then, and no gap is
closed. This module says when that does no harm.

## Main definitions

- `IsAcyclic` — following parents leads from no code back to it
- `Places.IsSound` — contiguous positions, no circles and a single root
- `Places.rewrite` — the places once the parent of a page was written
- `Places.Admits` — a parent may be written without harm

## Main results

- `isAcyclic_redirect_iff` — when a page that gets another parent closes a circle
- `Places.IsTree.isSound` — a tree is sound
- `Seats.InOrder.last_of_reseated` — which seats stay in order when one page is seated elsewhere
- `Places.IsTree.rewrite`, `Places.IsTree.admits_of_isSound` — in a tree, a parent may be
  written exactly when it is admitted
-/

namespace Sitemap

namespace LeadsTo

variable {parentOf parentOf' : String → Option String} {top code parent : String}

/-- A code that leads to one without parent does not lie below itself. -/
theorem acyclic (htop : parentOf top = none) (h : LeadsTo parentOf top code)
    (hparent : parentOf code = some parent) : ¬ LeadsTo parentOf code parent := by
  induction h generalizing parent with
  | refl =>
    rw [htop] at hparent
    cases hparent
  | @step c q hq _ ih =>
    obtain rfl : q = parent := Option.some.inj (hq.symm.trans hparent)
    -- a circle through the code is one through its parent
    intro hcircle
    cases hcircle with
    | refl => exact ih hq .refl
    | step hnext hback => exact ih hnext (hback.trans (.step hq .refl))

/-- The way down to a code does not depend on the parent of that code. -/
theorem congr_below (h : LeadsTo parentOf top code)
    (hother : ∀ c, c ≠ top → parentOf' c = parentOf c) : LeadsTo parentOf' top code := by
  induction h with
  | refl => exact .refl
  | @step c q hq _ ih =>
    by_cases hc : c = top
    · rw [hc]
      exact .refl
    · exact .step ((hother c hc).trans hq) ih

/-- Which codes lead to a code does not depend on the parent of that code. -/
theorem below_iff (hother : ∀ c, c ≠ top → parentOf' c = parentOf c) :
    LeadsTo parentOf' top code ↔ LeadsTo parentOf top code :=
  ⟨fun h => h.congr_below fun c hc => (hother c hc).symm, fun h => h.congr_below hother⟩

/-- Where one parent was replaced, a code leads where it led before, unless it does so by way of
    the code with the new parent. -/
theorem of_redirected {moved : String} (h : LeadsTo parentOf' top code)
    (hother : ∀ c, c ≠ moved → parentOf' c = parentOf c) :
    LeadsTo parentOf top code ∨ LeadsTo parentOf' moved code ∧ LeadsTo parentOf' top moved := by
  induction h with
  | refl => exact .inl .refl
  | @step c q hq hlead ih =>
    by_cases hc : c = moved
    · subst hc
      exact .inr ⟨.refl, .step hq hlead⟩
    · rcases ih with hold | ⟨hbelow, habove⟩
      · exact .inl (.step ((hother c hc).symm.trans hq) hold)
      · exact .inr ⟨.step hq hbelow, habove⟩

end LeadsTo

/-- Following parents leads from no code back to it. -/
def IsAcyclic (parentOf : String → Option String) : Prop :=
  ∀ code parent, parentOf code = some parent → ¬ LeadsTo parentOf code parent

/-- A new parent closes a circle just where it lies in the subtree of the page that gets it. -/
theorem isAcyclic_redirect_iff {parentOf parentOf' : String → Option String}
    {moved newParent : String} (hacyclic : IsAcyclic parentOf)
    (hmoved : parentOf' moved = some newParent)
    (hother : ∀ c, c ≠ moved → parentOf' c = parentOf c) :
    IsAcyclic parentOf' ↔ ¬ LeadsTo parentOf moved newParent := by
  rw [← LeadsTo.below_iff hother]
  constructor
  · intro h
    exact h moved newParent hmoved
  · intro hout c q hq hback
    by_cases hc : c = moved
    · subst hc
      obtain rfl := Option.some.inj (hmoved.symm.trans hq)
      exact hout hback
    · rcases hback.of_redirected hother with hold | ⟨hbelow, habove⟩
      · exact hacyclic c q ((hother c hc).symm.trans hq) hold
      · -- the circle leads through the page that was moved, so it does from the new parent on
        obtain ⟨p, hp, hlead⟩ := habove.exists_parent (Ne.symm hc)
        obtain rfl := Option.some.inj (hmoved.symm.trans hp)
        exact hout (hlead.trans (.step hq hbelow))

namespace Seats

variable {s s' : Seats} {code old new parent : String} {codes codes' : List String}

/-- When one child leaves and nobody closes the gap, the seats stay in order only if it was the
    last one. -/
theorem Lists.length_of_left (h : s.Lists parent codes) (h' : s'.Lists parent codes') {i : Nat}
    (hi : codes[i]? = some code) (hgone : ∀ position, s' code ≠ some (parent, position))
    (hother : ∀ c, c ≠ code → s' c = s c) : codes.length = i + 1 ∧ codes'.length = i := by
  have hstays : ∀ (j : Nat) (hj : j < codes.length), j ≠ i → j < codes'.length := by
    intro j hj hne
    have hseat := (h.getElem?_iff j).1 (List.getElem?_eq_getElem hj)
    have hdiff : codes[j] ≠ code := by
      intro heq
      have hcode := (h.getElem?_iff i).1 hi
      rw [heq, hcode] at hseat
      simp only [Option.some.injEq, Prod.mk.injEq] at hseat
      omega
    have hafter := h'.position_mem ((hother _ hdiff).trans hseat)
    omega
  have hle : codes'.length ≤ i := by
    by_contra hlonger
    have hthere : i < codes'.length := by omega
    have hseat := (h'.getElem?_iff i).1 (List.getElem?_eq_getElem hthere)
    have hdiff : codes'[i] ≠ code := by
      intro heq
      rw [heq] at hseat
      exact hgone _ hseat
    -- two children would have shared the position before
    have htwo := (h.getElem?_iff i).2 ((hother _ hdiff).symm.trans hseat)
    rw [hi] at htwo
    exact hdiff (Option.some.inj htwo).symm
  have hlt := (List.getElem?_eq_some_iff.1 hi).1
  constructor
  · by_contra hlonger
    have hlater := hstays (i + 1) (by omega) (by omega)
    omega
  · by_contra hshorter
    have hearlier := hstays codes'.length (by omega) (by omega)
    omega

/-- When a page is seated at its old position below another parent and the seats stay in order,
    then it was the last child of its old parent, and it is the last one of the new. -/
theorem InOrder.last_of_reseated {position : Int} (hs : s.InOrder) (hs' : s'.InOrder)
    (hcode : s code = some (old, position)) (hcode' : s' code = some (new, position))
    (hne : old ≠ new) (hother : ∀ c, c ≠ code → s' c = s c) :
    ∃ codes siblings, s.Lists old (codes ++ [code]) ∧ s.Lists new siblings ∧
      siblings.length = codes.length := by
  obtain ⟨oldCodes, hold⟩ := hs old
  obtain ⟨_, hold'⟩ := hs' old
  obtain ⟨siblings, hnew⟩ := hs new
  obtain ⟨_, hnew'⟩ := hs' new
  obtain ⟨i, hi, rfl⟩ := (hold code position).1 hcode
  have hi' := (hnew'.getElem?_iff i).2 hcode'
  have hleft : ∀ k, s' code ≠ some (old, k) := by
    intro k hseat
    rw [hcode'] at hseat
    cases hseat
    exact hne rfl
  have habsent : ∀ k, s code ≠ some (new, k) := by
    intro k hseat
    rw [hcode] at hseat
    cases hseat
    exact hne rfl
  obtain ⟨hlast, -⟩ := hold.length_of_left hold' hi hleft hother
  obtain ⟨-, hlength⟩ := hnew'.length_of_left hnew hi' habsent fun c hc => (hother c hc).symm
  rcases List.eq_nil_or_concat oldCodes with rfl | ⟨codes, last, rfl⟩
  · cases hi
  · rw [List.concat_eq_append] at hold hi hlast
    rw [List.length_append, List.length_singleton] at hlast
    obtain rfl : i = codes.length := by omega
    rw [List.getElem?_concat_length] at hi
    obtain rfl := Option.some.inj hi
    exact ⟨codes, siblings, hold, hnew, hlength⟩

end Seats

namespace Places

/-- The positions of the children of every page are 1 to their number, no page lies below
    itself, and exactly one page has no parent. -/
structure IsSound (s : Places) : Prop where
  seats : s.seat.InOrder
  acyclic : ∀ code parent, s.parentOf code = some parent → ¬ LeadsTo s.parentOf code parent
  root : ∃! code, ∃ p, s code = some p ∧ p.parent = none

/-- The places once the parent of a page was written. -/
def rewrite (s : Places) (code : String) (parent : Option String) : Places := fun c =>
  if c = code then (s c).map fun p => { p with parent } else s c

/-- A parent may be written for a page: it is the one that the page has, or the page is the
    last child of its parent, it becomes the last one of the new parent without changing its
    position, and the new parent lies outside of its subtree. -/
inductive Admits (s : Places) (code : String) : Option String → Prop where
  | same : Admits s code (s.parentOf code)
  | last {old new : String} {codes siblings : List String}
    (hold : s.seat.Lists old (codes ++ [code])) (hnew : s.seat.Lists new siblings)
    (hlength : siblings.length = codes.length) (hout : ¬ LeadsTo s.parentOf code new) :
    Admits s code (some new)

variable {s : Places} {code top : String} {parent : Option String}

/-- A tree is sound. -/
theorem IsTree.isSound (h : s.IsTree top) : s.IsSound where
  seats := h.seats
  acyclic c q hq := by
    obtain ⟨p, hp, -⟩ := parentOf_eq_some_iff.1 hq
    exact (h.reaches c (by rw [hp]; rfl)).acyclic h.parentOf_root hq
  root := ⟨top, ⟨_, h.root, rfl⟩, fun c ⟨p, hp, hroot⟩ => h.single c p hp hroot⟩

/-- Where pages form a tree, or there are none, no page lies below itself. -/
theorem IsRooted.acyclic (h : s.IsRooted) {parent : String}
    (hparent : s.parentOf code = some parent) : ¬ LeadsTo s.parentOf code parent := by
  rcases h with ⟨top, htree⟩ | hnone
  · exact htree.isSound.acyclic code parent hparent
  · rw [parentOf_eq_none (hnone code)] at hparent
    cases hparent

-- ════════════════════════════════════════════════════════════════════════
-- Writing a parent
-- ════════════════════════════════════════════════════════════════════════

theorem rewrite_self (s : Places) (code : String) : s.rewrite code (s.parentOf code) = s := by
  funext c
  unfold rewrite parentOf
  split
  · next hc =>
    rw [hc]
    cases s code <;> rfl
  · rfl

theorem parentOf_rewrite (hstored : (s code).isSome) (c : String) :
    (s.rewrite code parent).parentOf c = if c = code then parent else s.parentOf c := by
  unfold rewrite parentOf
  dsimp only
  split
  · next hc =>
    obtain ⟨p, hp⟩ := Option.isSome_iff_exists.1 hstored
    rw [hc, hp]
    rfl
  · rfl

/-- A parent may be written without closing a circle when it lies outside of the subtree. -/
theorem isAcyclic_rewrite_iff {new : String} (hacyclic : IsAcyclic s.parentOf)
    (hstored : (s code).isSome) :
    IsAcyclic (s.rewrite code (some new)).parentOf ↔ ¬ LeadsTo s.parentOf code new := by
  refine isAcyclic_redirect_iff hacyclic ?_ fun c hc => ?_
  · rw [parentOf_rewrite hstored, if_pos rfl]
  · rw [parentOf_rewrite hstored, if_neg hc]

theorem seat_rewrite_of_ne {c : String} (hc : c ≠ code) :
    (s.rewrite code parent).seat c = s.seat c := by
  have hsame : s.rewrite code parent c = s c := if_neg hc
  rw [seat, hsame]
  rfl

/-- Writing a parent that is admitted keeps a tree. -/
theorem IsTree.rewrite (h : s.IsTree top) (hparent : ∀ q, parent = some q → (s q).isSome)
    (hadmits : s.Admits code parent) : (s.rewrite code parent).IsTree top := by
  cases hadmits with
  | same =>
    rw [rewrite_self]
    exact h
  | @last old new codes siblings hold hnew hlength hout =>
    have hlast : (codes ++ [code])[codes.length]? = some code := List.getElem?_concat_length
    have hplace := h.place_of_seat ((hold.getElem?_iff codes.length).1 hlast)
    have hne : old ≠ new := by
      rintro rfl
      have hsame := congrArg List.length (hold.unique hnew)
      rw [List.length_append, List.length_singleton] at hsame
      omega
    -- the page moves as if it had been asked to, and no sibling was behind it
    have hfits : s.Fits (.reparent ⟨code, old, codes.length + 1, new, codes.length + 1⟩) :=
      .reparent hplace (hparent new rfl) hne hnew (by rw [hlength]) hout
    have hmove : s.rewrite code (some new) = Change.apply s
        (.reparent ⟨code, old, codes.length + 1, new, codes.length + 1⟩) := by
      funext c
      unfold Places.rewrite Change.apply
      dsimp only
      by_cases hc : c = code
      · rw [if_pos hc, if_pos hc, hc, hplace, Option.map_some, Option.map_some, Option.map_some,
          Placement.closeGap_of_ne (by simpa using hne.symm)]
      · rw [if_neg hc, if_neg hc]
        cases hp : s c with
        | none => rfl
        | some p =>
          refine congrArg some (if_neg ?_).symm
          rintro ⟨hbelow, hbehind⟩
          have hposition := hold.position_mem (seat_of_place hp hbelow)
          rw [List.length_append, List.length_singleton] at hposition
          omega
    rw [hmove]
    exact h.apply hfits

/-- Writing a parent that is not admitted breaks a tree: there is another root or none, a page
    below itself, or the positions of siblings are no longer contiguous. -/
theorem IsTree.admits_of_isSound (h : s.IsTree top) (hstored : (s code).isSome)
    (hsound : (s.rewrite code parent).IsSound) : s.Admits code parent := by
  obtain ⟨place, hplace⟩ := Option.isSome_iff_exists.1 hstored
  obtain ⟨c, old, position⟩ := place
  obtain rfl : c = code := h.filed _ _ hplace
  by_cases hsame : parent = s.parentOf c
  · rw [hsame]
    exact .same
  have hwritten : s.rewrite c parent c = some ⟨c, parent, position⟩ := by
    unfold Places.rewrite
    rw [if_pos rfl, hplace]
    rfl
  obtain ⟨root, ⟨place, hroot, hnone⟩, hunique⟩ := hsound.root
  cases old with
  | none =>
    -- the page was the root, and it no longer is; another one there is not
    obtain rfl : c = top := h.single _ _ hplace rfl
    have hparent : s.parentOf c = none := by rw [parentOf, hplace]; rfl
    rw [hparent] at hsame
    by_cases hc : root = c
    · rw [hc, hwritten] at hroot
      cases hroot
      exact absurd hnone hsame
    · have hkept : s.rewrite c parent root = s root := if_neg hc
      rw [hkept] at hroot
      exact absurd (h.single root place hroot hnone) hc
  | some old =>
    have hparent : s.parentOf c = some old := parentOf_eq_some_iff.2 ⟨_, hplace, rfl⟩
    have hc : top ≠ c := by
      rintro rfl
      rw [h.root] at hplace
      cases hplace
    cases parent with
    | none =>
      -- now both the page and the root are without parent
      have hkept : s.rewrite c none top = s top := if_neg hc
      have htop := hunique top ⟨_, hkept.trans h.root, rfl⟩
      have hcode := hunique c ⟨_, hwritten, rfl⟩
      exact absurd (htop.trans hcode.symm) hc
    | some new =>
      rw [hparent, Option.some.injEq] at hsame
      have hout : ¬ LeadsTo s.parentOf c new :=
        (isAcyclic_rewrite_iff h.isSound.acyclic hstored).1 hsound.acyclic
      have hseat : s.seat c = some (old, position) := seat_of_place hplace rfl
      have hseat' : (s.rewrite c (some new)).seat c = some (new, position) :=
        seat_of_place hwritten rfl
      obtain ⟨codes, siblings, hold, hnew, hlength⟩ := h.seats.last_of_reseated hsound.seats
        hseat hseat' (fun heq => hsame heq.symm) fun d hd => seat_rewrite_of_ne hd
      exact .last hold hnew hlength hout

end Places

end Sitemap
