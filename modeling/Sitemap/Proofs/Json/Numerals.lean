import Sitemap.Json.Numeral
import Mathlib.Data.List.Basic
import Mathlib.Data.List.TakeWhile

/-!
# Numerals, read back

What is written for a number is a numeral, and what is written for an integer has the value
of that integer.

## Main definitions

- `Numeral.IsPart` — the characters that numerals consist of

## Main results

- `Numeral.isPart_of_ofChars?` — a numeral consists of nothing else
- `Numeral.ofChars?_ofInt` — the numeral of an integer
- `Numeral.int?_ofInt` — its value is the integer, when that fits in 64 bits
- `Numeral.isSome_ofChars?_ofBinary` — a floating-point number is written as a numeral

## Design notes

Whether digits have a zero in front matters only where they are the whole part of a numeral.
Digits of a number have none, unless the number is zero, and the digits found for a
floating-point number are not zero unless the number is.
-/

namespace Sitemap

namespace Numeral

variable {cs whole rest digits : List Char} {n : Nat}

-- ════════════════════════════════════════════════════════════════════════
-- Digits
-- ════════════════════════════════════════════════════════════════════════

theorem natDigits_ne_nil (n : Nat) : natDigits n ≠ [] :=
  Nat.toDigits_ne_nil

theorem isDigit_of_mem_natDigits {c : Char} (h : c ∈ natDigits n) : c.isDigit = true :=
  Nat.isDigit_of_mem_toDigits (by decide) (by decide) h

theorem natOf_natDigits (n : Nat) : natOf (natDigits n) = n :=
  Nat.ofDigitChars_ten_toDigits

theorem eq_zero_of_head?_natDigits (h : (natDigits n).head? = some '0') : n = 0 := by
  induction n using Nat.strongRecOn with
  | ind n ih =>
    unfold natDigits at h
    by_cases hn : n < 10
    · rw [Nat.toDigits_of_lt_base hn] at h
      exact Nat.digitChar_eq_zero.1 (Option.some.inj h)
    · rw [Nat.toDigits_of_base_le (by decide) (by omega),
        List.head?_append_of_ne_nil _ Nat.toDigits_ne_nil] at h
      have hshort := ih (n / 10) (by omega) h
      omega

/-- Text that does not go on with a digit. -/
def EndsDigits (rest : List Char) : Prop :=
  ∀ c ∈ rest.head?, c.isDigit = false

/-- Digits end where something else begins. -/
theorem splitDigits_append (hdigits : ∀ c ∈ digits, c.isDigit = true) (hrest : EndsDigits rest) :
    splitDigits (digits ++ rest) = (digits, rest) := by
  unfold splitDigits
  rw [List.takeWhile_append_of_pos hdigits, List.dropWhile_append_of_pos hdigits]
  cases rest with
  | nil => simp
  | cons c rest =>
    have hc : c.isDigit = false := hrest c rfl
    simp [hc]

-- ════════════════════════════════════════════════════════════════════════
-- Characters of numerals
-- ════════════════════════════════════════════════════════════════════════

/-- The characters that numerals consist of. -/
def IsPart (c : Char) : Prop :=
  c.isDigit = true ∨ c ∈ ['-', '+', '.', 'e', 'E']

theorem isPart_of_exponentOf? {e : Option Int} (h : exponentOf? cs = some e) :
    ∀ c ∈ cs, IsPart c := by
  unfold exponentOf? at h
  split at h
  · exact fun c hc => absurd hc List.not_mem_nil
  · next mark rest =>
    split at h
    · next hmark =>
      have hfirst : IsPart mark := by
        rcases hmark with rfl | rfl <;> exact .inr (by decide)
      dsimp only at h
      split at h
      all_goals
        dsimp only at h
        split at h
        · next hall =>
          have hdigits := List.all_eq_true.1 hall.2
          intro c hc
          simp only [List.mem_cons] at hc
          rcases hc with rfl | hc
          · exact hfirst
          · first
            | exact .inl (hdigits c hc)
            | rcases hc with rfl | hc
              · exact .inr (by decide)
              · exact .inl (hdigits c hc)
        · cases h
    · cases h

theorem isPart_of_fractionOf? {parts : List Char × Option Int} (h : fractionOf? cs = some parts) :
    ∀ c ∈ cs, IsPart c := by
  unfold fractionOf? at h
  split at h
  · next rest =>
    dsimp only [splitDigits] at h
    split at h
    · cases h
    · obtain ⟨e, he, -⟩ := Option.map_eq_some_iff.1 h
      intro c hc
      rcases List.mem_cons.1 hc with rfl | hc
      · exact .inr (by decide)
      · rw [← List.takeWhile_append_dropWhile (p := Char.isDigit) (l := rest)] at hc
        rcases List.mem_append.1 hc with hc | hc
        · exact .inl (List.mem_takeWhile_imp hc)
        · exact isPart_of_exponentOf? he c hc
  · obtain ⟨e, he, -⟩ := Option.map_eq_some_iff.1 h
    exact isPart_of_exponentOf? he

/-- A numeral consists of digits, signs, points and exponent marks. -/
theorem isPart_of_ofChars? {m : Numeral} (h : ofChars? cs = some m) : ∀ c ∈ cs, IsPart c := by
  have hunsigned : ∀ rest parts, fractionOf? (splitDigits rest).2 = some parts →
      ∀ c ∈ rest, IsPart c := by
    intro rest parts hparts c hc
    rw [← List.takeWhile_append_dropWhile (p := Char.isDigit) (l := rest)] at hc
    rcases List.mem_append.1 hc with hc | hc
    · exact .inl (List.mem_takeWhile_imp hc)
    · exact isPart_of_fractionOf? hparts c hc
  unfold ofChars? at h
  dsimp only at h
  split at h
  all_goals
    dsimp only at h
    split at h
    · cases h
  all_goals obtain ⟨parts, hparts, -⟩ := Option.map_eq_some_iff.1 h
  · next rest _ =>
    intro c hc
    rcases List.mem_cons.1 hc with rfl | hc
    · exact .inr (by decide)
    · exact hunsigned rest parts hparts c hc
  · exact hunsigned cs parts hparts

-- ════════════════════════════════════════════════════════════════════════
-- Putting numerals together
-- ════════════════════════════════════════════════════════════════════════

/-- Digits that can stand before the point: at least one, and no zero in front of others. -/
structure IsWhole (whole : List Char) : Prop where
  /-- They are digits. -/
  digits : ∀ c ∈ whole, c.isDigit = true
  /-- There is at least one. -/
  ne_nil : whole ≠ []
  /-- A zero stands alone. -/
  alone : whole.head? = some '0' → whole.length = 1

theorem isWhole_natDigits (n : Nat) : IsWhole (natDigits n) where
  digits _ hc := isDigit_of_mem_natDigits hc
  ne_nil := natDigits_ne_nil n
  alone hzero := by
    rw [eq_zero_of_head?_natDigits hzero]
    rfl

theorem isWhole_zero : IsWhole ['0'] :=
  isWhole_natDigits 0

theorem endsDigits_nil : EndsDigits [] := fun _ hc => nomatch hc

theorem endsDigits_cons {c : Char} (h : c.isDigit = false) : EndsDigits (c :: rest) := by
  intro d hd
  obtain rfl : c = d := Option.some.inj hd
  exact h

/-- A sign, a whole part, and a fraction or an exponent make a numeral. -/
theorem ofChars?_signed (negative : Bool) {parts : List Char × Option Int} (hwhole : IsWhole whole)
    (hrest : EndsDigits rest) (hparts : fractionOf? rest = some parts) :
    ofChars? (if negative then '-' :: (whole ++ rest) else whole ++ rest) =
      some ⟨negative, whole, parts.1, parts.2⟩ := by
  have hzero : ¬ (whole = [] ∨ whole.head? = some '0' ∧ 1 < whole.length) := by
    rintro (hnil | ⟨hhead, hlong⟩)
    · exact hwhole.ne_nil hnil
    · rw [hwhole.alone hhead] at hlong
      exact absurd hlong (by decide)
  cases negative with
  | true =>
    simp only [if_true, ofChars?, splitDigits_append hwhole.digits hrest, if_neg hzero, hparts,
      Option.map_some]
  | false =>
    obtain ⟨c, tail, rfl⟩ := List.exists_cons_of_ne_nil hwhole.ne_nil
    have hminus : c ≠ '-' := by
      rintro rfl
      exact absurd (hwhole.digits '-' List.mem_cons_self) (by decide)
    unfold ofChars?
    simp only [Bool.false_eq_true, if_false, List.cons_append]
    split
    · next heq => exact absurd (List.cons.inj heq).1 hminus
    · rw [← List.cons_append, splitDigits_append hwhole.digits hrest]
      simp only [if_neg hzero, hparts, Option.map_some]

theorem exponentOf?_exponentText (e : Int) : exponentOf? (exponentText e) = some (some e) := by
  have hdigits : natDigits e.natAbs ≠ [] ∧ (natDigits e.natAbs).all Char.isDigit = true :=
    ⟨natDigits_ne_nil _, List.all_eq_true.2 fun _ hc => isDigit_of_mem_natDigits hc⟩
  unfold exponentText
  by_cases hnegative : e < 0
  · rw [if_pos hnegative]
    simp only [exponentOf?, true_or, if_true, hdigits, ne_eq, not_false_eq_true, and_self,
      natOf_natDigits]
    rw [show -(e.natAbs : Int) = e by omega]
  · rw [if_neg hnegative]
    simp only [exponentOf?, true_or, if_true, hdigits, ne_eq, not_false_eq_true, and_self,
      natOf_natDigits, Bool.false_eq_true, if_false]
    rw [show (e.natAbs : Int) = e by omega]

/-- A point with digits behind it, and perhaps an exponent. -/
theorem fractionOf?_point {e : Option Int} (hdigits : ∀ c ∈ digits, c.isDigit = true)
    (hne : digits ≠ []) (hrest : EndsDigits rest) (he : exponentOf? rest = some e) :
    fractionOf? ('.' :: (digits ++ rest)) = some (digits, e) := by
  simp only [fractionOf?, splitDigits_append hdigits hrest, if_neg hne, he, Option.map_some]

-- ════════════════════════════════════════════════════════════════════════
-- Integers
-- ════════════════════════════════════════════════════════════════════════

theorem ofChars?_ofInt (n : Int) :
    ofChars? (ofInt n) = some ⟨decide (n < 0), natDigits n.natAbs, [], none⟩ := by
  have hparts : fractionOf? [] = some ([], none) := rfl
  have h := ofChars?_signed (decide (n < 0)) (isWhole_natDigits n.natAbs) endsDigits_nil hparts
  simpa [ofInt] using h

theorem int?_ofInt {n : Int} (h : (Json.int n).IsCanonical) :
    (ofChars? (ofInt n)).bind int? = some n := by
  obtain ⟨hlow, hhigh⟩ : -9223372036854775808 ≤ n ∧ n < 18446744073709551616 := h
  rw [ofChars?_ofInt, Option.bind_some, int?, if_pos ⟨rfl, rfl⟩]
  simp only [natOf_natDigits, decide_eq_true_eq]
  split
  · rw [if_pos (by omega), show -(n.natAbs : Int) = n by omega]
  · rw [if_pos (by omega), show (n.natAbs : Int) = n by omega]

theorem value?_of_int? {m : Numeral} {n : Int} (h : m.int? = some n) :
    m.value?.map JsonValue.tree = some (.int n) := by
  unfold value?
  split
  · next i hi =>
    rw [h] at hi
    obtain rfl := Option.some.inj hi
    rfl
  · next hnone =>
    rw [h] at hnone
    cases hnone

-- ════════════════════════════════════════════════════════════════════════
-- Floating-point numbers
-- ════════════════════════════════════════════════════════════════════════

/-- However digits are laid out, they start with a whole part. -/
theorem exists_ofDigits {point : Int} (hdigits : IsWhole digits)
    (hpoint : digits.head? = some '0' → point ≤ 1) :
    ∃ whole rest parts, ofDigits digits point = whole ++ rest ∧ IsWhole whole ∧
      EndsDigits rest ∧ fractionOf? rest = some parts := by
  have hzeros : ∀ k, ∀ c ∈ List.replicate k '0', c.isDigit = true := by
    intro k c hc
    rw [(List.mem_replicate.1 hc).2]
    rfl
  have hlength : 0 < digits.length := List.length_pos_iff.2 hdigits.ne_nil
  unfold ofDigits
  dsimp only
  split
  · -- all digits stand before the point
    have hpart : fractionOf? ['.', '0'] = some (['0'], none) := by decide
    refine ⟨digits ++ List.replicate (point - digits.length).toNat '0', ['.', '0'], _, rfl,
      ⟨fun c hc => ?_, by simp [hdigits.ne_nil], fun hzero => ?_⟩, endsDigits_cons rfl, hpart⟩
    · rcases List.mem_append.1 hc with hc | hc
      · exact hdigits.digits c hc
      · exact hzeros _ c hc
    · rw [List.head?_append_of_ne_nil _ hdigits.ne_nil] at hzero
      have hone := hdigits.alone hzero
      have hfew := hpoint hzero
      simp only [List.length_append, List.length_replicate, hone]
      omega
  · split
    · -- the point stands among the digits
      next hfar hnear =>
      have hinside : point.toNat < digits.length := by omega
      refine ⟨digits.take point.toNat, '.' :: (digits.drop point.toNat ++ []), _,
        by rw [List.append_nil],
        ⟨fun c hc => hdigits.digits c (List.mem_of_mem_take hc), fun hnil => ?_,
          fun hzero => ?_⟩,
        endsDigits_cons rfl,
        fractionOf?_point (fun c hc => hdigits.digits c (List.mem_of_mem_drop hc)) (fun hnil => ?_)
          endsDigits_nil rfl⟩
      · have hshort := congrArg List.length hnil
        simp only [List.length_take, List.length_nil] at hshort
        omega
      · rw [List.head?_take, if_neg (by omega)] at hzero
        have hone := hdigits.alone hzero
        omega
      · have hshort := congrArg List.length hnil
        simp only [List.length_drop, List.length_nil] at hshort
        omega
    · split
      · -- all digits stand behind the point
        refine ⟨['0'], '.' :: ((List.replicate (-point).toNat '0' ++ digits) ++ []), _,
          by rw [List.append_nil]; rfl, isWhole_zero,
          endsDigits_cons rfl, fractionOf?_point (fun c hc => ?_) (by simp [hdigits.ne_nil])
            endsDigits_nil rfl⟩
        rcases List.mem_append.1 hc with hc | hc
        · exact hzeros _ c hc
        · exact hdigits.digits c hc
      · -- an exponent says where the point stands
        obtain ⟨d, tail, rfl⟩ := List.exists_cons_of_ne_nil hdigits.ne_nil
        have hd : IsWhole [d] :=
          ⟨fun c hc => hdigits.digits c (List.mem_cons.2 (.inl (List.mem_singleton.1 hc))),
            by simp, fun _ => rfl⟩
        have hexponent := exponentOf?_exponentText (point - 1)
        cases tail with
        | nil =>
          exact ⟨[d], exponentText (point - 1), ([], some (point - 1)), rfl, hd,
            endsDigits_cons rfl, by
              unfold fractionOf?
              split
              · next heq => cases heq
              · rw [hexponent]
                rfl⟩
        | cons d' tail =>
          refine ⟨[d], '.' :: ((d' :: tail) ++ exponentText (point - 1)), _, by simp, hd,
            endsDigits_cons rfl, fractionOf?_point (fun c hc => ?_) (by simp)
              (endsDigits_cons rfl) hexponent⟩
          exact hdigits.digits c (List.mem_cons_of_mem _ hc)

end Numeral

namespace Binary64

variable {magnitude : Nat}

theorem binaryRatio_pos {n : Nat} (hn : 0 < n) (e : Int) : 0 < (binaryRatio n e).1 := by
  unfold binaryRatio
  split
  · exact Nat.mul_pos hn (Nat.pow_pos (by decide))
  · exact hn

theorem significand_pos (h : magnitude ≠ 0) : 0 < significand magnitude := by
  unfold significand fullSignificand
  split
  · omega
  · omega

theorem roundingBounds_pos (h : magnitude ≠ 0) : 0 < (roundingBounds magnitude).1.1 := by
  have hsignificand := significand_pos h
  unfold roundingBounds
  dsimp only
  refine Nat.mul_pos ?_ (binaryRatio_pos (by decide) _)
  split
  · omega
  · omega

/-- Digits that round to a number other than zero are not all zero. -/
theorem digits_ne_zero_of_decimalOfLength {bounds : (Nat × Nat × Nat) × Nat} {even : Bool}
    {p : Int} {count : Nat} {d : Decimal} (hlow : 0 < bounds.1.1)
    (h : decimalOfLength bounds even p count = some d) : d.digits ≠ 0 := by
  obtain ⟨⟨low, value, high⟩, denominator⟩ := bounds
  unfold decimalOfLength at h
  simp only [Option.map_eq_some_iff] at h
  obtain ⟨m, hm, rfl⟩ := h
  split
  · exact Nat.one_ne_zero
  · rintro rfl
    -- one unit of the last digit, as a ratio
    generalize hunit : (if 0 ≤ p - (count : Int) then (Nat.pow 10 (p - count).toNat, 1)
      else (1, Nat.pow 10 (-(p - count)).toNat)) = unit at hm
    have hunit_pos : 0 < unit.2 := by
      rw [← hunit]
      split
      · exact Nat.one_pos
      · exact Nat.pow_pos (by decide)
    have hout : 0 < low * unit.2 := Nat.mul_pos hlow hunit_pos
    have hzero : ∀ x y : Nat, ¬ (if even = true then
          decide (low * unit.2 ≤ 0 * unit.1 * denominator ∧ 0 * unit.1 * denominator ≤ x)
        else decide (low * unit.2 < 0 * unit.1 * denominator ∧ 0 * unit.1 * denominator < y)) =
          true := by
      intro x y
      rw [Nat.zero_mul, Nat.zero_mul]
      split
      all_goals
        simp only [decide_eq_true_eq]
        omega
    generalize value * unit.2 / (unit.1 * denominator) = k at hm
    split at hm
    · next hinside _ =>
      obtain rfl : k = 0 := by
        split at hm
        · cases hm
        · exact Option.some.inj hm
      exact hzero _ _ hinside
    · next hinside _ =>
      obtain rfl : k = 0 := Option.some.inj hm
      exact hzero _ _ hinside
    · cases hm
    · cases hm

/-- The digits found for a number other than zero are not all zero, unless none are found. -/
theorem scale_shortest (h : magnitude ≠ 0) (hdigits : (shortest magnitude).digits = 0) :
    (shortest magnitude).scale = 0 := by
  unfold shortest at hdigits ⊢
  dsimp only at hdigits ⊢
  generalize hfound : List.findSome? _ _ = found at hdigits ⊢
  cases found with
  | none => rfl
  | some d =>
    obtain ⟨i, -, hi⟩ := List.exists_of_findSome?_eq_some hfound
    exact absurd hdigits (digits_ne_zero_of_decimalOfLength (roundingBounds_pos h) hi)

end Binary64

/-- A floating-point number is written as a numeral. -/
theorem Numeral.isSome_ofChars?_ofBinary (x : Binary64) : (ofChars? (ofBinary x)).isSome := by
  have hbody : ∃ whole rest parts,
      (if x.isZero then ['0', '.', '0']
        else
          ofDigits (natDigits (Binary64.shortest x.magnitudeBits).digits)
            ((natDigits (Binary64.shortest x.magnitudeBits).digits).length +
              (Binary64.shortest x.magnitudeBits).scale)) = whole ++ rest ∧
        IsWhole whole ∧ EndsDigits rest ∧ fractionOf? rest = some parts := by
    split
    · exact ⟨['0'], ['.', '0'], (['0'], none), rfl, isWhole_zero,
        endsDigits_cons rfl, rfl⟩
    · next hzero =>
      have hmagnitude : x.magnitudeBits ≠ 0 := by simpa [Binary64.isZero] using hzero
      refine exists_ofDigits (isWhole_natDigits _) fun hhead => ?_
      have hdigits := eq_zero_of_head?_natDigits hhead
      rw [Binary64.scale_shortest hmagnitude hdigits, hdigits]
      decide
  obtain ⟨whole, rest, parts, hbody, hwhole, hrest, hparts⟩ := hbody
  unfold ofBinary
  dsimp only
  rw [hbody, ofChars?_signed x.isNegative hwhole hrest hparts]
  rfl

end Sitemap
