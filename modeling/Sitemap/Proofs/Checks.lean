import Sitemap.Rows.Loading
import Sitemap.RowEdit

/-!
# Chains of checks

When a chain of checks and steps, each of which may fail, comes to a result.

## Main results

- `bind_eq_ok` — a chain has a result exactly when each of its links has one
- `guard_eq_ok` — a check that may refuse has not refused
-/

namespace Sitemap

variable {ε α β : Type}

/-- A chain has a result exactly when each of its links has one. -/
@[simp]
theorem bind_eq_ok {x : Except ε α} {f : α → Except ε β} {b : β} :
    (x >>= f) = .ok b ↔ ∃ a, x = .ok a ∧ f a = .ok b := by
  cases x with
  | error e => simp [bind, Except.bind]
  | ok a => simp [bind, Except.bind]

@[simp]
theorem throw_eq_ok {e : ε} {a : α} : (throw e : Except ε α) = .ok a ↔ False := by
  simp [throw, throwThe, MonadExceptOf.throw]

@[simp]
theorem pure_eq_ok {a b : α} : (pure a : Except ε α) = .ok b ↔ a = b := by
  simp [pure, Except.pure]

@[simp]
theorem map_eq_ok {x : Except ε α} {f : α → β} {b : β} :
    x.map f = .ok b ↔ ∃ a, x = .ok a ∧ f a = b := by
  cases x with
  | error e => simp [Except.map]
  | ok a => simp [Except.map]

theorem isOk_iff {x : Except ε α} : x.isOk = true ↔ ∃ a, x = .ok a := by
  cases x with
  | error e => simp [Except.isOk, Except.toBool]
  | ok a => simp [Except.isOk, Except.toBool]

/-- A check that would refuse has let the chain go on. -/
@[simp]
theorem guard_eq_ok {γ : Type} {p : Prop} [Decidable p] {e : ε} {f : γ → Except ε α}
    {y : Except ε α} {a : α} :
    (if p then throw e >>= f else y) = .ok a ↔ ¬ p ∧ y = .ok a := by
  by_cases hp : p
  · simp [hp]
  · simp [hp]

namespace RowEdit

@[simp]
theorem require_eq_ok {x : Except StoreError α} {a : α} : require x = .ok a ↔ x = .ok a := by
  cases x with
  | error e => simp [require]
  | ok b => simp [require]

end RowEdit

end Sitemap
