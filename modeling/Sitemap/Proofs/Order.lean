import Sitemap.Rows.Basic
import Sitemap.Tree.Basic

/-!
# Orders

Stored pages are listed by parent, position and code, and children by position and code.
Both are linear orders, so a list that was put in order is determined by what it lists.

## Main results

- `pairwise_mergeSort_isLE` — sorting by a comparison puts a list in order
- `isLE_then_compare` — positions decide, then codes
- `find?_eq_some_iff_least` — a search through entries in order finds the least one
-/

namespace Sitemap

/-- Sorting by a comparison puts a list in order. -/
theorem pairwise_mergeSort_isLE {α : Type} {cmp : α → α → Ordering} [Std.TransCmp cmp]
    (l : List α) :
    (l.mergeSort fun a b => (cmp a b).isLE).Pairwise fun a b => (cmp a b).isLE := by
  refine List.pairwise_mergeSort (fun a b c => Std.TransCmp.isLE_trans) (fun a b => ?_) l
  cases hab : cmp a b with
  | gt => simp [Std.OrientedCmp.lt_of_gt hab]
  | lt | eq => rfl

/-- Codes compare as strings do. -/
theorem isLE_compare_code {a b : String} : (compare a b).isLE = true ↔ a ≤ b :=
  isLE_compareOfLessAndEq String.le_antisymm String.not_le String.le_total

/-- Positions decide, then codes. -/
theorem isLE_then_compare {i j : Int} {a b : String} :
    ((compare i j).then (compare a b)).isLE = true ↔ i < j ∨ i = j ∧ a ≤ b := by
  rcases Int.lt_trichotomy i j with hlt | heq | hgt
  · simp [Int.compare_eq_lt.2 hlt, hlt]
  · simp [heq, isLE_compare_code]
  · have hcompare := Int.compare_eq_gt.2 hgt
    simp only [hcompare, Ordering.then, Ordering.isLE]
    exact iff_of_false (by simp) (by omega)

/-- A search finds the entry of the least code, where the entries that it looks for are in order. -/
theorem find?_eq_some_iff_least {α : Type} {l : List α} {p : α → Bool} {code : α → String}
    {c : String} (hsorted : l.Pairwise fun a b => p a → p b → code a ≤ code b) :
    (l.find? p).map code = some c ↔
      (∃ a ∈ l, p a ∧ code a = c) ∧ ∀ a ∈ l, p a → c ≤ code a := by
  induction l with
  | nil => simp
  | cons a l ih =>
    obtain ⟨hhead, htail⟩ := List.pairwise_cons.1 hsorted
    by_cases ha : p a
    · rw [List.find?_cons_of_pos ha, Option.map_some, Option.some.injEq]
      constructor
      · rintro rfl
        refine ⟨⟨a, List.mem_cons_self, ha, rfl⟩, List.forall_mem_cons.2 ⟨fun _ => ?_, ?_⟩⟩
        · exact String.le_refl _
        · exact fun b hb hpb => hhead b hb ha hpb
      · rintro ⟨⟨b, hb, hpb, rfl⟩, hleast⟩
        rcases List.mem_cons.1 hb with rfl | hb
        · rfl
        · exact String.le_antisymm (hhead b hb ha hpb) (hleast a List.mem_cons_self ha)
    · rw [List.find?_cons_of_neg ha, ih htail]
      simp [ha]

/-- Stored pages are compared by parent, then by position, then by code. -/
instance : Std.TransCmp PageRow.order :=
  inferInstanceAs (Std.TransCmp (compareLex (compareOn fun row : PageRow => row.parent)
    (compareLex (compareOn fun row : PageRow => row.position)
      (compareOn fun row : PageRow => row.code))))

/-- Pages without parent are listed by position, then by code. -/
theorem PageRow.isLE_order_of_root {a b : PageRow} (h : (a.order b).isLE = true)
    (ha : a.parent = none) (hb : b.parent = none) :
    a.position < b.position ∨ a.position = b.position ∧ a.code ≤ b.code := by
  unfold PageRow.order at h
  rw [ha, hb] at h
  exact isLE_then_compare.1 h

namespace Tree

variable {t : Tree}

/-- The comparison of listed children. -/
def listing (t : Tree) : String → String → Ordering :=
  compareLex (compareOn t.rank) compare

instance : Std.TransCmp t.listing :=
  inferInstanceAs (Std.TransCmp (compareLex (compareOn t.rank) compare))

end Tree

end Sitemap
