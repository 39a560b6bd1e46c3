import Sitemap.Checksum

/-!
# Checksums of damaged data

Division by the polynomial loses nothing: since its highest bit is set, that bit of the
result tells whether the polynomial was taken away. So every step can be undone, and a single
octet that changes changes the checksum.

## Main results

- `Checksum.shift_injective` — one bit of the division can be undone
- `Checksum.eq_of_absorb` — so can one octet, when the remainder before or the octet is known
- `Checksum.eq_of_crc32` — data that differ in one octet have different checksums
-/

namespace Sitemap

namespace Checksum

variable {a b : UInt32} {x y : UInt8}

/-- The lowest bit of a number, as a bit of its vector. -/
theorem and_one_eq_one_iff : a &&& 1 = 1 ↔ a.toBitVec.getLsbD 0 = true := by
  have hone : (1 : UInt32).toBitVec = 1#32 := rfl
  rw [← UInt32.toBitVec_inj, UInt32.toBitVec_and, hone,
    BitVec.and_one_eq_setWidth_ofBool_getLsbD]
  cases a.toBitVec.getLsbD 0 with
  | false => decide
  | true => decide

/-- A bit after one step of the division: the next higher bit, and what the polynomial has if
    the lowest bit was set. -/
theorem getLsbD_shift (a : UInt32) (i : Nat) : (shift a).toBitVec.getLsbD i =
    (a.toBitVec.getLsbD (i + 1) ^^ (a.toBitVec.getLsbD 0 && polynomial.toBitVec.getLsbD i)) := by
  have hright : (a >>> 1).toBitVec.getLsbD i = a.toBitVec.getLsbD (i + 1) := by
    rw [UInt32.toBitVec_shiftRight]
    show (a.toBitVec >>> 1).getLsbD i = _
    rw [BitVec.getLsbD_ushiftRight, Nat.add_comm]
  unfold shift
  split
  · next hlow =>
    rw [UInt32.toBitVec_xor, BitVec.getLsbD_xor, hright, and_one_eq_one_iff.1 hlow,
      Bool.true_and]
  · next hlow =>
    have hclear : a.toBitVec.getLsbD 0 = false :=
      Bool.eq_false_iff.2 (mt and_one_eq_one_iff.2 hlow)
    rw [hright, hclear, Bool.false_and, Bool.xor_false]

theorem shift_injective (h : shift a = shift b) : a = b := by
  have hbit : ∀ i, (a.toBitVec.getLsbD (i + 1) ^^
      (a.toBitVec.getLsbD 0 && polynomial.toBitVec.getLsbD i)) = (b.toBitVec.getLsbD (i + 1) ^^
        (b.toBitVec.getLsbD 0 && polynomial.toBitVec.getLsbD i)) := by
    intro i
    rw [← getLsbD_shift, ← getLsbD_shift, h]
  -- The highest bit is that of the polynomial, which is set.
  have hlow : a.toBitVec.getLsbD 0 = b.toBitVec.getLsbD 0 := by
    have hhigh : polynomial.toBitVec.getLsbD 31 = true := by decide
    have hbeyond : ∀ c : UInt32, c.toBitVec.getLsbD (31 + 1) = false :=
      fun c => BitVec.getLsbD_of_ge _ _ (Nat.le_refl 32)
    have h31 := hbit 31
    rwa [hhigh, hbeyond, hbeyond, Bool.and_true, Bool.and_true, Bool.false_xor,
      Bool.false_xor] at h31
  refine UInt32.eq_of_toBitVec_eq (BitVec.eq_of_getLsbD_eq fun i _ => ?_)
  cases i with
  | zero => exact hlow
  | succ i =>
    have hi := hbit i
    rw [hlow] at hi
    exact Bool.xor_left_inj.1 hi

/-- The remainder before an octet can be found. -/
theorem eq_of_absorb (h : absorb a x = absorb b x) : a = b := by
  have hdivided : a ^^^ x.toUInt32 = b ^^^ x.toUInt32 := by
    iterate 8 replace h := shift_injective h
    exact h
  exact (UInt32.xor_left_inj _).1 hdivided

theorem eq_of_absorb_octet (h : absorb a x = absorb a y) : x = y := by
  have hdivided : a ^^^ x.toUInt32 = a ^^^ y.toUInt32 := by
    iterate 8 replace h := shift_injective h
    exact h
  exact UInt8.toUInt32_inj.1 ((UInt32.xor_right_inj _).1 hdivided)

/-- The remainder before a sequence of octets can be found. -/
theorem eq_of_foldl_absorb {octets : Octets} (h : octets.foldl absorb a = octets.foldl absorb b) :
    a = b := by
  induction octets generalizing a b with
  | nil => exact h
  | cons x rest ih => exact eq_of_absorb (ih h)

/-- Data that differ in one octet have different checksums. -/
theorem eq_of_crc32 {before after : Octets}
    (h : crc32 (before ++ x :: after) = crc32 (before ++ y :: after)) : x = y := by
  have hfold := (UInt32.xor_left_inj _).1 h
  rw [List.foldl_append, List.foldl_append, List.foldl_cons, List.foldl_cons] at hfold
  exact eq_of_absorb_octet (eq_of_foldl_absorb hfold)

end Checksum

end Sitemap
