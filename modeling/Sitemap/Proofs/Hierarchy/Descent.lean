import Sitemap.Keyed.Lemmas
import Sitemap.Siblings
import Mathlib.Data.List.Nodup
import Mathlib.Data.List.Perm.Subperm

/-!
# Descent

Which pages lie above a page: those that following parents leads to. The walk to the
ancestors of a page stops at a code it has met before, and after as many steps as there are
pages; this module shows that neither stops it too early.

## Main definitions

- `LeadsTo` — following parents from one code leads to another one
- `Siblings.IsCounted` — a view has no more pages than it counts

## Main results

- `LeadsTo.redirect` — a page that gets a parent outside of its subtree cuts off nobody
- `Siblings.isDescendant_iff` — the walk to the ancestors finds all of them
-/

namespace Sitemap

/-- Following parents from a code leads to `top`, in finitely many steps. -/
inductive LeadsTo (parentOf : String → Option String) (top : String) : String → Prop where
  /-- It does so at once. -/
  | refl : LeadsTo parentOf top top
  /-- It does so from the parent. -/
  | step {code parent : String} (hparent : parentOf code = some parent)
    (h : LeadsTo parentOf top parent) : LeadsTo parentOf top code

namespace LeadsTo

variable {parentOf parentOf' : String → Option String} {top mid code : String}

theorem trans (h : LeadsTo parentOf mid code) (htop : LeadsTo parentOf top mid) :
    LeadsTo parentOf top code := by
  induction h with
  | refl => exact htop
  | step hparent _ ih => exact .step hparent ih

/-- Parents that stay the same lead to the same codes. -/
theorem mono (h : LeadsTo parentOf top code)
    (hparent : ∀ c q, parentOf c = some q → parentOf' c = some q) :
    LeadsTo parentOf' top code := by
  induction h with
  | refl => exact .refl
  | step hstep _ ih => exact .step (hparent _ _ hstep) ih

/-- A code that is led elsewhere has a parent. -/
theorem exists_parent (h : LeadsTo parentOf top code) (hne : code ≠ top) :
    ∃ parent, parentOf code = some parent ∧ LeadsTo parentOf top parent := by
  cases h with
  | refl => exact absurd rfl hne
  | step hparent h => exact ⟨_, hparent, h⟩

/-- When one page gets another parent, which does not lie in its subtree, every code leads
    where it led before. -/
theorem redirect {moved newParent : String} (h : LeadsTo parentOf top code)
    (hmoved : parentOf' moved = some newParent)
    (hother : ∀ c, c ≠ moved → parentOf' c = parentOf c)
    (hnew : LeadsTo parentOf top newParent) (hout : ¬ LeadsTo parentOf moved newParent) :
    LeadsTo parentOf' top code := by
  -- outside of the subtree nothing changes, so the new parent leads to the top
  have houtside : ∀ {c}, LeadsTo parentOf top c → ¬ LeadsTo parentOf moved c →
      LeadsTo parentOf' top c := by
    intro c hc hnot
    induction hc with
    | refl => exact .refl
    | @step c q hparent hq ih =>
      have hne : c ≠ moved := fun heq => hnot (heq ▸ .refl)
      refine .step ((hother c hne).trans hparent) (ih fun hmq => hnot (.step hparent hmq))
  induction h with
  | refl => exact .refl
  | @step c q hparent hq ih =>
    by_cases hc : c = moved
    · exact .step (hc ▸ hmoved) (houtside hnew hout)
    · exact .step ((hother c hc).trans hparent) ih

end LeadsTo

namespace Siblings

variable {s : Siblings} {code ancestor : String}

/-- A view counts at least the pages that it has. -/
def IsCounted (s : Siblings) : Prop :=
  ∀ codes : List String, codes.Nodup → (∀ c ∈ codes, (s.lookup c).isSome) →
    codes.length ≤ s.count

/-- A view of pages that are filed by code counts them all. -/
theorem isCounted_of_keyed {β : Type} {m : Keyed String β} {f : β → Placement}
    (hlookup : ∀ c, s.lookup c = (m.get? c).map f) (hcount : s.count = m.size) :
    s.IsCounted := by
  intro codes hnodup hstored
  have hsub : codes ⊆ m.keys := by
    intro c hc
    have hfound := hstored c hc
    rw [hlookup, Option.isSome_map] at hfound
    exact Keyed.mem_keys_iff.2 hfound
  have hlength := (List.subperm_of_subset hnodup hsub).length_le
  rw [Keyed.keys, List.length_map] at hlength
  rw [hcount]
  exact hlength

/-- A code that has a parent is a page. -/
theorem isSome_lookup_of_parentOf {parent : String} (h : s.parentOf code = some parent) :
    (s.lookup code).isSome := by
  obtain ⟨p, hp, -⟩ := Option.bind_eq_some_iff.1 h
  rw [hp]
  rfl

/-- A walk lists what following parents leads to. -/
theorem leadsTo_of_mem_climb {steps : Nat} {seen : List String} {next : Option String}
    (h : ancestor ∈ s.climb steps seen next) :
    ∃ c, next = some c ∧ LeadsTo s.parentOf ancestor c := by
  induction steps generalizing seen next with
  | zero => simp [climb] at h
  | succ steps ih =>
    cases next with
    | none => simp [climb] at h
    | some c =>
      refine ⟨c, rfl, ?_⟩
      unfold climb at h
      split at h
      · cases h
      · rcases List.mem_cons.1 h with rfl | h
        · exact .refl
        · obtain ⟨q, hq, hlead⟩ := ih h
          exact .step hq hlead

/-- A walk goes on until it meets a code again or comes to one without parent: what it
    lists, together with what was seen before, is closed under parents. The pages seen
    before are counted, so the walk has steps enough. -/
theorem climb_closed (hcount : s.IsCounted) (steps : Nat) (seen : List String)
    (next : Option String) (hnodup : seen.Nodup) (hseen : ∀ c ∈ seen, (s.lookup c).isSome)
    (hsteps : s.count + 1 ≤ steps + seen.length) :
    (∀ c, next = some c → c ∈ seen ∨ c ∈ s.climb steps seen next) ∧
      ∀ c ∈ s.climb steps seen next, ∀ q, s.parentOf c = some q →
        q ∈ seen ∨ q ∈ s.climb steps seen next := by
  induction steps generalizing seen next with
  | zero =>
    have := hcount seen hnodup hseen
    omega
  | succ steps ih =>
    cases next with
    | none => simp [climb]
    | some c =>
      by_cases hmem : c ∈ seen
      · simp [climb, hmem]
      · have hclimb : s.climb (steps + 1) seen (some c) =
            c :: s.climb steps (c :: seen) (s.parentOf c) := by simp [climb, hmem]
        rw [hclimb]
        cases hparent : s.parentOf c with
        | none =>
          have hnil : s.climb steps (c :: seen) none = [] := by cases steps <;> rfl
          rw [hnil]
          simp [hparent]
        | some q =>
          have hstored := isSome_lookup_of_parentOf hparent
          obtain ⟨hnext, hclosed⟩ := ih (c :: seen) (some q)
            (List.nodup_cons.2 ⟨hmem, hnodup⟩) (List.forall_mem_cons.2 ⟨hstored, hseen⟩)
            (by simp only [List.length_cons]; omega)
          refine ⟨fun c' hc' => .inr (by cases hc'; exact List.mem_cons_self), ?_⟩
          intro c' hc' q' hq'
          rcases List.mem_cons.1 hc' with rfl | hc'
          · obtain rfl : q = q' := by simpa [hparent] using hq'
            have := hnext q rfl
            simp only [List.mem_cons] at this ⊢
            tauto
          · have := hclosed c' hc' q' hq'
            simp only [List.mem_cons] at this ⊢
            tauto

/-- The walk to the ancestors finds exactly the pages that following parents leads to. -/
theorem isDescendant_iff (hcount : s.IsCounted) :
    s.isDescendant code ancestor = true ↔
      ∃ parent, s.parentOf code = some parent ∧ LeadsTo s.parentOf ancestor parent := by
  unfold isDescendant
  rw [List.contains_iff_mem]
  constructor
  · exact leadsTo_of_mem_climb
  · rintro ⟨parent, hparent, hlead⟩
    obtain ⟨hnext, hclosed⟩ := climb_closed hcount (s.count + 1) [] (s.parentOf code)
      List.nodup_nil (by simp) (by simp)
    simp only [List.not_mem_nil, false_or] at hnext hclosed
    have hmem : parent ∈ s.ancestors code := hnext parent hparent
    clear hparent
    induction hlead with
    | refl => exact hmem
    | step hstep _ ih => exact ih (hclosed _ hmem _ hstep)

end Siblings

end Sitemap
