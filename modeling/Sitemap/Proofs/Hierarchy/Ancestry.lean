import Mathlib.Data.List.Chain
import Mathlib.Logic.Relation
import Sitemap.Proofs.Hierarchy.Descent
import Sitemap.Rows.Basic
import Sitemap.Tree.Basic

/-!
# Ancestors

The walk to the ancestors of a page is made on any data: a parent may be missing, and parents
may run in a circle. It lists what following parents leads to, all of it, and each code once.

## Main definitions

- `Siblings.IsChildOf` — one code is the parent of another one
- `Siblings.FindsAncestors` — the walks of a view list the ancestors, nearest first

## Main results

- `Siblings.climb_eq` — a walk that has steps enough does not use more
- `Siblings.findsAncestors` — a view that counts its pages finds all ancestors
- `Siblings.ancestors_congr` — which ones these are depends on the places only
- `Siblings.ancestors_are_exact` — so do the stored rows and the site map in memory
-/

namespace Sitemap

namespace Siblings

/-- The page `code` has the parent `parent`, which need not be a page. -/
def IsChildOf (s : Siblings) (code parent : String) : Prop :=
  s.parentOf code = some parent

/-- The walks of a view list the ancestors of every code. -/
structure FindsAncestors (s : Siblings) : Prop where
  /-- The first ancestor is the parent of the code, and each one is the child of the next. -/
  chain : ∀ code, (code :: s.ancestors code).IsChain s.IsChildOf
  /-- No ancestor is listed twice. -/
  nodup : ∀ code, (s.ancestors code).Nodup
  /-- The ancestors are the codes that one or more steps to a parent lead to. On a circle these
      are all codes of the circle, the code itself among them. -/
  mem_iff : ∀ code a, a ∈ s.ancestors code ↔ Relation.TransGen s.IsChildOf code a
  /-- An ancestor that is no page is the last one. -/
  last : ∀ code a, a ∈ s.ancestors code → s.lookup a = none →
    (s.ancestors code).getLast? = some a
  /-- There are no more ancestors than pages, but for one that is no page. -/
  length_le : ∀ code, (s.ancestors code).length ≤ s.count + 1
  /-- It is not for want of steps that a walk stops. -/
  enough : ∀ code steps, s.count < steps →
    s.climb steps [] (s.parentOf code) = s.ancestors code
  /-- A page sits below its ancestors. -/
  isDescendant_iff : ∀ code a, s.isDescendant code a = true ↔ Relation.TransGen s.IsChildOf code a

variable {s : Siblings} {code : String} {seen : List String} {next : Option String} {steps : Nat}

-- ════════════════════════════════════════════════════════════════════════
-- One walk
-- ════════════════════════════════════════════════════════════════════════

@[simp]
theorem climb_none : s.climb steps seen none = [] := by
  cases steps <;> rfl

theorem climb_of_mem (h : code ∈ seen) : s.climb steps seen (some code) = [] := by
  cases steps with
  | zero => rfl
  | succ steps => simp [climb, h]

theorem climb_of_not_mem (h : code ∉ seen) : s.climb (steps + 1) seen (some code) =
    code :: s.climb steps (code :: seen) (s.parentOf code) := by
  simp [climb, h]

theorem length_climb_le : (s.climb steps seen next).length ≤ steps := by
  induction steps generalizing seen next with
  | zero => exact Nat.le_refl 0
  | succ steps ih =>
    cases next with
    | none => simp
    | some code =>
      by_cases hmem : code ∈ seen
      · simp [climb_of_mem hmem]
      · rw [climb_of_not_mem hmem]
        exact Nat.succ_le_succ ih

/-- A walk lists nothing that was seen before, and nothing twice. -/
theorem nodup_climb : (s.climb steps seen next).Nodup ∧
    ∀ c ∈ s.climb steps seen next, c ∉ seen := by
  induction steps generalizing seen next with
  | zero => exact ⟨List.nodup_nil, fun _ hc => absurd hc List.not_mem_nil⟩
  | succ steps ih =>
    cases next with
    | none => simp
    | some code =>
      by_cases hmem : code ∈ seen
      · simp [climb_of_mem hmem]
      · rw [climb_of_not_mem hmem]
        obtain ⟨hnodup, hfresh⟩ := @ih (code :: seen) (s.parentOf code)
        refine ⟨List.nodup_cons.2 ⟨fun hc => hfresh code hc List.mem_cons_self, hnodup⟩, ?_⟩
        rintro c (_ | ⟨_, hc⟩)
        · exact hmem
        · exact fun hseen => hfresh c hc (List.mem_cons_of_mem _ hseen)

/-- A walk goes from parent to parent. -/
theorem isChain_climb : (code :: s.climb steps seen (s.parentOf code)).IsChain s.IsChildOf := by
  induction steps generalizing seen code with
  | zero => exact .singleton code
  | succ steps ih =>
    cases hparent : s.parentOf code with
    | none =>
      rw [climb_none]
      exact .singleton code
    | some parent =>
      by_cases hmem : parent ∈ seen
      · rw [climb_of_mem hmem]
        exact .singleton code
      · rw [climb_of_not_mem hmem]
        exact .cons_cons hparent ih

/-- A walk that has a step for every page not seen before, and one more, does not use further
    steps: what it has seen are pages, and there are not more of them than are counted. -/
theorem climb_eq (hcounted : s.IsCounted) (hnodup : seen.Nodup)
    (hseen : ∀ c ∈ seen, (s.lookup c).isSome) (hsteps : s.count + 1 ≤ steps + seen.length)
    (more : Nat) : s.climb (steps + more) seen next = s.climb steps seen next := by
  induction steps generalizing seen next with
  | zero =>
    have := hcounted seen hnodup hseen
    omega
  | succ steps ih =>
    cases next with
    | none => simp
    | some code =>
      by_cases hmem : code ∈ seen
      · rw [climb_of_mem hmem, climb_of_mem hmem]
      · rw [Nat.add_right_comm, climb_of_not_mem hmem, climb_of_not_mem hmem]
        cases hparent : s.parentOf code with
        | none => simp
        | some parent =>
          have hstored := isSome_lookup_of_parentOf hparent
          rw [ih (List.nodup_cons.2 ⟨hmem, hnodup⟩) (List.forall_mem_cons.2 ⟨hstored, hseen⟩)
            (by simp only [List.length_cons]; omega)]

-- ════════════════════════════════════════════════════════════════════════
-- Ancestors
-- ════════════════════════════════════════════════════════════════════════

/-- Following parents is a walk along the links from child to parent. -/
theorem leadsTo_iff_reflTransGen {a : String} :
    LeadsTo s.parentOf a code ↔ Relation.ReflTransGen s.IsChildOf code a := by
  constructor
  · intro h
    induction h with
    | refl => exact .refl
    | step hparent _ ih => exact .head hparent ih
  · intro h
    induction h using Relation.ReflTransGen.head_induction_on with
    | refl => exact .refl
    | head hparent _ ih => exact .step hparent ih

/-- A view that counts its pages finds the ancestors of every code. -/
theorem findsAncestors (hcounted : s.IsCounted) : s.FindsAncestors := by
  have hdescendant : ∀ code a, s.isDescendant code a = true ↔
      Relation.TransGen s.IsChildOf code a := by
    intro code a
    rw [isDescendant_iff hcounted, Relation.TransGen.head'_iff]
    exact exists_congr fun parent => and_congr_right fun _ => leadsTo_iff_reflTransGen
  refine
    { chain := fun code => isChain_climb
      nodup := fun code => nodup_climb.1
      mem_iff := fun code a => ?_
      last := fun code a hmem hmissing => ?_
      length_le := fun code => length_climb_le
      enough := fun code steps hsteps => ?_
      isDescendant_iff := hdescendant }
  · rw [← hdescendant, isDescendant, List.contains_iff_mem]
  · obtain ⟨before, after, hsplit⟩ := List.append_of_mem hmem
    have hchain : (code :: s.ancestors code).IsChain s.IsChildOf := isChain_climb
    rw [hsplit] at hchain ⊢
    cases after with
    | nil => simp
    | cons c after =>
      -- an ancestor that is followed by another one has a parent, so it is a page
      rw [← List.cons_append, List.isChain_append_cons_cons] at hchain
      have hstored := isSome_lookup_of_parentOf hchain.2.1
      rw [hmissing] at hstored
      cases hstored
  · obtain ⟨more, rfl⟩ := Nat.exists_eq_add_of_le hsteps
    exact climb_eq hcounted List.nodup_nil (by simp) (by simp) more

/-- Parents that are the same are walked to in the same way. -/
theorem climb_congr {s' : Siblings} (h : s'.parentOf = s.parentOf) :
    s'.climb steps seen next = s.climb steps seen next := by
  induction steps generalizing seen next with
  | zero => rfl
  | succ steps ih =>
    cases next with
    | none => rfl
    | some code => rw [climb, climb, ih, h]

/-- Views that look up the same places find the same ancestors, even where one of them counts more
    pages than the other. -/
theorem ancestors_congr {s' : Siblings} (hlookup : s'.lookup = s.lookup)
    (hcounted : s.IsCounted) (hcounted' : s'.IsCounted) (code : String) :
    s'.ancestors code = s.ancestors code := by
  have hparent : s'.parentOf = s.parentOf := by
    funext c
    unfold parentOf
    rw [hlookup]
  have hsteps : s.count < s.count + s'.count + 1 := by omega
  have hsteps' : s'.count < s.count + s'.count + 1 := by omega
  rw [← (findsAncestors hcounted).enough code _ hsteps,
    ← (findsAncestors hcounted').enough code _ hsteps', climb_congr hparent, hparent]

end Siblings

/-- The rows count all stored pages. -/
theorem Tables.isCounted_siblings (t : Tables) : t.siblings.IsCounted :=
  Siblings.isCounted_of_keyed (fun _ => rfl) rfl

/-- The site map counts its pages. -/
theorem Tree.isCounted_siblings (t : Tree) : t.siblings.IsCounted :=
  Siblings.isCounted_of_keyed (fun _ => rfl) rfl

/-- The walk to the ancestors of a code lists them nearest first, each once and none left out,
    on any view that counts its pages. Stored rows and site maps in memory are such views, with
    whatever parents they hold. -/
theorem Siblings.ancestors_are_exact : (∀ s : Siblings, s.IsCounted → s.FindsAncestors) ∧
    (∀ t : Tables, t.siblings.FindsAncestors) ∧ ∀ t : Tree, t.siblings.FindsAncestors :=
  ⟨fun _ hcounted => findsAncestors hcounted, fun t => findsAncestors t.isCounted_siblings,
    fun t => findsAncestors t.isCounted_siblings⟩

/-- Stored pages `b` and `c` that are each other's parents, `a` below that circle, and `d` below a
    page that is not there. -/
theorem Siblings.ancestors_are_exact_sample :
    let t : Tables := { Tables.empty with
      pages := .ofList [("a", ⟨⟨"a", some "b", 1⟩, "free"⟩), ("b", ⟨⟨"b", some "c", 1⟩, "free"⟩),
        ("c", ⟨⟨"c", some "b", 1⟩, "free"⟩), ("d", ⟨⟨"d", some "lost", 1⟩, "free"⟩)] }
    t.siblings.ancestors "a" = ["b", "c"] ∧ t.siblings.ancestors "b" = ["c", "b"] ∧
      Relation.TransGen t.siblings.IsChildOf "b" "b" ∧
      ¬ Relation.TransGen t.siblings.IsChildOf "b" "a" ∧
      (t.siblings.ancestors "d").getLast? = some "lost" := by
  intro t
  have hfinds : t.siblings.FindsAncestors := ancestors_are_exact.1 _ t.isCounted_siblings
  refine ⟨by decide +kernel, by decide +kernel, ?_, ?_, hfinds.last _ _ ?_ ?_⟩
  · exact (hfinds.isDescendant_iff _ _).1 (by decide +kernel)
  · exact fun h => absurd ((hfinds.mem_iff _ _).2 h) (by decide +kernel)
  · decide +kernel
  · decide +kernel

end Sitemap
