import Sitemap.Proofs.Hierarchy.Rewriting
import Mathlib.Logic.Function.Basic

/-!
# Arrangements

All lists of children at once. A change of the hierarchy is made for one page: it edits the list
that the page is on, and at most one more. What it does to the positions of other pages leaves
their order, and below the page nothing changes.

## Main definitions

- `Places.ShiftsSiblings` — pages keep their places, except that siblings of one page may be
  renumbered
- `Arrangement`, `Seats.Arranges` — the lists of children of all pages
- `Arrangement.Trades` — a page changes places with the one before it, or after it

## Main results

- `Places.Fits.shiftsSiblings` — a change that fits renumbers siblings only
- `Places.ShiftsSiblings.lists_below` — what lies below the page keeps its lists
- `Places.Fits.arranges_add`, `Places.Fits.arranges_drop`, `Places.Fits.arranges_reparent`,
  `Places.Fits.arranges_swap` — the arrangement after each of the changes
-/

namespace Sitemap

-- ════════════════════════════════════════════════════════════════════════
-- Pages that are renumbered
-- ════════════════════════════════════════════════════════════════════════

namespace Places

variable {s s' : Places} {change : Change} {code : String}

/-- The page that a change of the hierarchy is made for. Neighbours that exchange their places
    are both such a page. -/
def Change.IsAbout (code : String) : Change → Prop
  | .add place => place.code = code
  | .drop c _ _ => c = code
  | .reparent plan => plan.code = code
  | .swap plan => plan.up = code ∨ plan.down = code

/-- All pages but one keep their places, except that siblings of that page may get other
    positions: the children of a parent that it had, or that it has now. -/
def ShiftsSiblings (s s' : Places) (code : String) : Prop :=
  ∀ c, c ≠ code → s' c = s c ∨ ∃ p parent position, s c = some p ∧
    s' c = some { p with position } ∧ p.parent = some parent ∧
    (s.parentOf code = some parent ∨ s'.parentOf code = some parent)

theorem ShiftsSiblings.refl (s : Places) (code : String) : s.ShiftsSiblings s code :=
  fun _ _ => .inl rfl

/-- Closing a gap moves the pages behind it only. -/
theorem shiftsSiblings_closeGap {parent c : String} {position : Int}
    (hparent : s.parentOf code = some parent)
    (h : s' c = (s c).map (Placement.closeGap parent position)) :
    s' c = s c ∨ ∃ p parent position, s c = some p ∧ s' c = some { p with position } ∧
      p.parent = some parent ∧ (s.parentOf code = some parent ∨ s'.parentOf code = some parent) := by
  cases hp : s c with
  | none =>
    rw [hp] at h
    exact .inl h
  | some p =>
    rw [hp, Option.map_some] at h
    by_cases hafter : p.IsAfter parent position
    · rw [Placement.closeGap, if_pos hafter] at h
      exact .inr ⟨p, parent, _, rfl, h, hafter.1, .inl hparent⟩
    · rw [Placement.closeGap, if_neg hafter] at h
      exact .inl h

/-- A change that fits renumbers siblings only. -/
theorem Fits.shiftsSiblings (hfits : s.Fits change) (habout : change.IsAbout code) :
    s.ShiftsSiblings (change.apply s) code := by
  intro c hc
  cases hfits with
  | add =>
    subst habout
    exact .inl (if_neg hc)
  | drop hplace =>
    subst habout
    exact shiftsSiblings_closeGap (parentOf_eq_some_iff.2 ⟨_, hplace, rfl⟩) (if_neg hc)
  | @reparent plan _ hplace =>
    subst habout
    have hclosed : Change.apply s (.reparent plan) c =
        (s c).map (Placement.closeGap plan.oldParent plan.oldPosition) := by
      unfold Change.apply
      dsimp only
      rw [if_neg hc]
    exact shiftsSiblings_closeGap (parentOf_eq_some_iff.2 ⟨_, hplace, rfl⟩) hclosed
  | @swap plan parent position hup hdown =>
    have hbelow : s.parentOf code = some parent := by
      rcases habout with rfl | rfl
      · exact parentOf_eq_some_iff.2 ⟨_, hup, rfl⟩
      · exact parentOf_eq_some_iff.2 ⟨_, hdown, rfl⟩
    unfold Change.apply
    dsimp only
    split
    · next hlower =>
      rw [hlower, hdown]
      exact .inr ⟨_, parent, _, rfl, rfl, rfl, .inl hbelow⟩
    · split
      · next hupper =>
        rw [hupper, hup]
        exact .inr ⟨_, parent, _, rfl, rfl, rfl, .inl hbelow⟩
      · exact .inl rfl

/-- Each page but one keeps its parent. -/
theorem ShiftsSiblings.parentOf_eq (h : s.ShiftsSiblings s' code) {c : String} (hc : c ≠ code) :
    s'.parentOf c = s.parentOf c := by
  rcases h c hc with hkept | ⟨p, parent, position, hp, hp', hparent, -⟩
  · rw [parentOf, hkept]
    rfl
  · rw [parentOf, parentOf, hp, hp']
    rfl

/-- The same pages lie below the page. -/
theorem ShiftsSiblings.leadsTo_iff (h : s.ShiftsSiblings s' code) {c : String} :
    LeadsTo s'.parentOf code c ↔ LeadsTo s.parentOf code c :=
  ⟨fun hlead => hlead.congr_below fun _ hc => (h.parentOf_eq hc).symm,
    fun hlead => hlead.congr_below fun _ hc => h.parentOf_eq hc⟩

/-- A page that lies below the page keeps the list of its children, unless pages run in a
    circle. -/
theorem ShiftsSiblings.lists_below (h : s.ShiftsSiblings s' code)
    (hout : ∀ parent, s.parentOf code = some parent → ¬ LeadsTo s.parentOf code parent)
    (hout' : ∀ parent, s'.parentOf code = some parent → ¬ LeadsTo s'.parentOf code parent)
    {c : String} {codes : List String} (hc : LeadsTo s.parentOf code c)
    (hlist : s.seat.Lists c codes) : s'.seat.Lists c codes := by
  have hc' := h.leadsTo_iff.2 hc
  have hnot : ¬ (s.parentOf code = some c ∨ s'.parentOf code = some c) := by
    rintro (hparent | hparent)
    · exact hout c hparent hc
    · exact hout' c hparent hc'
  refine hlist.congr fun child k => ?_
  by_cases hchild : child = code
  · -- the page itself is no child of what lies below it, neither before nor after
    subst hchild
    have hseat : ∀ {places : Places}, places.seat child = some (c, k) →
        places.parentOf child = some c := by
      intro places hseat
      obtain ⟨p, hp, hparent, -⟩ := seat_eq_some_iff.1 hseat
      exact parentOf_eq_some_iff.2 ⟨p, hp, hparent⟩
    exact ⟨fun hs => absurd (.inr (hseat hs)) hnot, fun hs => absurd (.inl (hseat hs)) hnot⟩
  · rcases h child hchild with hkept | ⟨p, parent, position, hp, hp', hparent, hbelow⟩
    · rw [seat, seat, hkept]
    · have hne : parent ≠ c := fun heq => hnot (heq ▸ hbelow)
      rw [seat, seat, hp, hp']
      simp [hparent, hne]

end Places

-- ════════════════════════════════════════════════════════════════════════
-- Lists of all pages
-- ════════════════════════════════════════════════════════════════════════

/-- The children of each page, in order. -/
abbrev Arrangement : Type := String → List String

/-- A page changes places with the one before it (`true`), or with the one after it. -/
inductive Arrangement.Trades (code : String) : Bool → List String → List String → Prop where
  | up (front : List String) (neighbour : String) (back : List String) :
    Trades code true (front ++ neighbour :: code :: back) (front ++ code :: neighbour :: back)
  | down (front : List String) (neighbour : String) (back : List String) :
    Trades code false (front ++ code :: neighbour :: back) (front ++ neighbour :: code :: back)

/-- A page is struck once at most, so that nothing of the other pages is lost. -/
theorem Arrangement.filter_erase (code : String) (codes : List String) :
    (codes.erase code).filter (fun c => c ≠ code) = codes.filter fun c => c ≠ code := by
  induction codes with
  | nil => rfl
  | cons c codes ih =>
    by_cases hc : c = code
    · rw [hc, List.erase_cons_head, List.filter_cons_of_neg (by simp)]
    · rw [List.erase_cons_tail (by simpa using hc), List.filter_cons, List.filter_cons, ih]

/-- A page that trades places leaves the order of all others. -/
theorem Arrangement.Trades.filter_eq {code : String} {up : Bool} {codes codes' : List String}
    (h : Trades code up codes codes') :
    codes'.filter (fun c => c ≠ code) = codes.filter fun c => c ≠ code := by
  cases h with
  | up front neighbour back | down front neighbour back =>
    simp only [List.filter_append, List.filter_cons]
    simp

/-- The lists are those of the children that sit below each page. -/
def Seats.Arranges (s : Seats) (l : Arrangement) : Prop :=
  ∀ parent, s.Lists parent (l parent)

namespace Seats.Arranges

variable {s : Seats} {l l' : Arrangement} {code up down parent : String} {position : Int}

theorem unique (h : s.Arranges l) (h' : s.Arranges l') : l' = l :=
  funext fun parent => (h' parent).unique (h parent)

/-- One list is another one, and all others are as they were. -/
theorem update {codes : List String} (h : s.Lists parent codes)
    (hother : ∀ other, other ≠ parent → s.Lists other (l other)) :
    s.Arranges (Function.update l parent codes) := by
  intro other
  rw [Function.update_apply]
  split
  · next heq => rwa [heq]
  · next hne => exact hother other hne

/-- A page that is placed behind the children of a parent is appended to their list. -/
theorem place (h : s.Arranges l) (hcode : s code = none) :
    (s.place code parent ((l parent).length + 1)).Arranges
      (Function.update l parent (l parent ++ [code])) :=
  update ((h parent).place_append hcode) fun other hne => (h other).place_of_ne hne hcode

/-- A page that leaves its seat is erased from the list of its parent. -/
theorem leave (h : s.Arranges l) (hcode : s code = some (parent, position)) :
    (s.leave code parent position).Arranges
      (Function.update l parent ((l parent).erase code)) := by
  refine update ?_ fun other hne => (h other).leave_of_ne hne hcode
  rw [← (h parent).filter_eq_erase]
  exact (h parent).leave_filter hcode

/-- Neighbours that exchange their seats stand next to each other on one list, and trade places
    there. -/
theorem swap (h : s.Arranges l) (hup : s up = some (parent, position + 1))
    (hdown : s down = some (parent, position)) :
    ∃ front back, l parent = front ++ down :: up :: back ∧
      (s.swap up down).Arranges (Function.update l parent (front ++ up :: down :: back)) := by
  obtain ⟨i, hi, rfl⟩ := (h parent down position).1 hdown
  have hnext : (l parent)[i + 1]? = some up := by
    rw [(h parent).getElem?_iff, hup]
    push_cast
    rfl
  have hsplit : l parent = (l parent).take i ++ down :: up :: (l parent).drop (i + 2) := by
    obtain ⟨hlt, hget⟩ := List.getElem?_eq_some_iff.1 hi
    obtain ⟨hlt', hget'⟩ := List.getElem?_eq_some_iff.1 hnext
    rw [← hget, ← hget', ← List.drop_eq_getElem_cons hlt', ← List.drop_eq_getElem_cons hlt,
      List.take_append_drop]
  have hlength : ((l parent).take i).length = i := by
    have hlt := (List.getElem?_eq_some_iff.1 hi).1
    rw [List.length_take]
    omega
  refine ⟨_, _, hsplit, update ?_ fun other hne => (h other).swap_of_ne hne hup hdown⟩
  have hswap := (h parent).swap_set hnext hi
  generalize (l parent).take i = front at *
  generalize (l parent).drop (i + 2) = back at *
  subst hlength
  rw [hsplit] at hswap
  simpa [List.set_append] using hswap

end Seats.Arranges

namespace Places.Fits

variable {s : Places} {l : Arrangement} {code parent : String} {position : Int}

/-- A page that is added comes last on the list of its parent. -/
theorem arranges_add {place : Placement} (hfits : s.Fits (.add place)) (h : s.seat.Arranges l)
    (hparent : place.parent = some parent) :
    (Change.apply s (.add place)).seat.Arranges
      (Function.update l parent (l parent ++ [place.code])) := by
  cases hfits with
  | @add code q listed hnew _ hlist =>
    obtain rfl : q = parent := Option.some.inj hparent
    obtain rfl := (h q).unique hlist
    rw [seat_add]
    exact h.place (seat_eq_none hnew)

/-- A page that is dropped is erased from the list of its parent. -/
theorem arranges_drop (hfits : s.Fits (.drop code parent position)) (h : s.seat.Arranges l) :
    code ∈ l parent ∧ (Change.apply s (.drop code parent position)).seat.Arranges
      (Function.update l parent ((l parent).erase code)) := by
  cases hfits with
  | drop hplace =>
    have hseat := seat_of_place hplace rfl
    rw [seat_drop]
    exact ⟨(h parent).mem_iff.2 ⟨_, hseat⟩, h.leave hseat⟩

/-- A page that moves is erased from the list of its parent and appended to another one. -/
theorem arranges_reparent {plan : ReparentPlan} (hfits : s.Fits (.reparent plan))
    (h : s.seat.Arranges l) :
    plan.oldParent ≠ plan.newParent ∧ plan.code ∈ l plan.oldParent ∧
      (Change.apply s (.reparent plan)).seat.Arranges
        (Function.update
          (Function.update l plan.oldParent ((l plan.oldParent).erase plan.code))
          plan.newParent (l plan.newParent ++ [plan.code])) := by
  cases hfits with
  | @reparent plan listed hplace _ hne hlist hposition _ =>
    have hseat := seat_of_place hplace rfl
    refine ⟨hne, (h _).mem_iff.2 ⟨_, hseat⟩, ?_⟩
    obtain rfl := (h plan.newParent).unique hlist
    rw [seat_reparent (by rw [hplace]; rfl) hne, hposition]
    have hleft := h.leave hseat
    have hgone : (s.seat.leave plan.code plan.oldParent plan.oldPosition) plan.code = none :=
      if_pos rfl
    -- the list that the page goes to is not the one that it leaves
    have hstays : Function.update l plan.oldParent ((l plan.oldParent).erase plan.code)
        plan.newParent = l plan.newParent := Function.update_of_ne hne.symm _ _
    rw [← hstays]
    exact hleft.place hgone

/-- Neighbours stand next to each other on one list, and trade places there. -/
theorem arranges_swap {plan : SwapPlan} (hfits : s.Fits (.swap plan)) (h : s.seat.Arranges l) :
    ∃ parent front back, l parent = front ++ plan.down :: plan.up :: back ∧
      (Change.apply s (.swap plan)).seat.Arranges
        (Function.update l parent (front ++ plan.up :: plan.down :: back)) := by
  cases hfits with
  | @swap plan parent position hup hdown =>
    rw [seat_swap]
    exact ⟨parent, h.swap (seat_of_place hup rfl) (seat_of_place hdown rfl)⟩

end Places.Fits

end Sitemap
