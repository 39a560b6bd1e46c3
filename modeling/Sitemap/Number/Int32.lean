/-!
# 32-bit integers

Positions are held in 32 bits with a sign. A sum of two of them need not fit. It depends on how a
program was built what it does then: it stops, or it goes on with the lowest 32 bits of the sum.

## Main definitions

- `IsInt32` — integers that fit in 32 bits with a sign
- `Arithmetic` — what a program does with an integer that does not fit
- `Arithmetic.int32` — the integer that the program goes on with

## Main results

- `Arithmetic.int32_of_isInt32`, `Arithmetic.isInt32_of_int32` — integers that fit are kept, and
  no other ones come out
- `Arithmetic.int32_add_back`, `Arithmetic.int32_step_ne` — a step leads to another integer and can
  be taken back, even round the end
-/

namespace Sitemap

/-- An integer that fits in 32 bits with a sign. -/
def IsInt32 (n : Int) : Prop :=
  -2147483648 ≤ n ∧ n < 2147483648

instance (n : Int) : Decidable (IsInt32 n) :=
  inferInstanceAs (Decidable (_ ∧ _))

/-- What a program does with an integer that does not fit in 32 bits. -/
inductive Arithmetic where
  /-- It stops. -/
  | checked
  /-- It goes on with the lowest 32 bits. -/
  | wrapping
  deriving DecidableEq

namespace Arithmetic

/-- The integer that a program goes on with, unless it stops. -/
def int32 : Arithmetic → Int → Option Int
  | checked, n => if IsInt32 n then some n else none
  | wrapping, n => some (n.bmod 4294967296)

variable {a : Arithmetic} {n m d e : Int}

theorem bmod_of_isInt32 (h : IsInt32 n) : n.bmod 4294967296 = n := by
  obtain ⟨hlow, hhigh⟩ := h
  exact Int.bmod_eq_of_le (by omega) (by omega)

/-- An integer that fits is kept. -/
theorem int32_of_isInt32 (a : Arithmetic) (h : IsInt32 n) : a.int32 n = some n := by
  cases a with
  | checked => exact if_pos h
  | wrapping => exact congrArg some (bmod_of_isInt32 h)

/-- Only integers that fit come out. -/
theorem isInt32_of_int32 (h : a.int32 n = some m) : IsInt32 m := by
  cases a with
  | checked =>
    obtain ⟨hfits, heq⟩ := Option.ite_none_right_eq_some.1 h
    exact Option.some.inj heq ▸ hfits
  | wrapping =>
    obtain rfl := Option.some.inj h
    have hlow := Int.le_bmod (x := n) (m := 4294967296) (by omega)
    have hhigh := Int.bmod_lt (x := n) (m := 4294967296) (by omega)
    exact ⟨by omega, by omega⟩

/-- A checked program goes on with an integer as it is. -/
theorem eq_of_checked (h : checked.int32 n = some m) : m = n := by
  obtain ⟨-, heq⟩ := Option.ite_none_right_eq_some.1 h
  exact (Option.some.inj heq).symm

/-- Adding and taking away again comes back to an integer that fits, even round the end. -/
theorem int32_add_back (hn : IsInt32 n) (hback : d + e = 0) (h : a.int32 (n + d) = some m) :
    a.int32 (m + e) = some n := by
  have heq : n + d + e = n := by omega
  cases a with
  | checked =>
    rw [eq_of_checked h, heq]
    exact int32_of_isInt32 _ hn
  | wrapping =>
    obtain rfl := Option.some.inj h
    show some ((Int.bmod (n + d) 4294967296 + e).bmod 4294967296) = some n
    rw [Int.bmod_add_bmod, heq, bmod_of_isInt32 hn]

/-- A step leads to another integer. -/
theorem int32_step_ne (a : Arithmetic) (n : Int) : a.int32 (n + -1) ≠ some n := by
  intro h
  cases a with
  | checked =>
    have := eq_of_checked h
    omega
  | wrapping =>
    have hmod := Int.bmod_emod (x := n + -1) (m := 4294967296)
    rw [Option.some.inj h] at hmod
    omega

end Arithmetic

end Sitemap
