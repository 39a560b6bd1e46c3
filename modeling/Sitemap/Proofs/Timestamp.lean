import Sitemap.Timestamp.Text
import Sitemap.Proofs.Json.Numerals
import Mathlib.Tactic.SplitIfs

/-!
# Written timestamps, read back

Reading the written form of a timestamp gives the timestamp, unless its year is out of the
range that is read. The proof goes through the text field by field, in the order of the
text.

## Main results

- `Timestamp.number?_padded` — a field of fixed width, read back
- `Timestamp.ofText?_text_iff` — the timestamps that can be read back
-/

namespace Sitemap

namespace Timestamp

open Numeral (EndsDigits endsDigits_cons)

variable {width n : Nat} {digits rest : List Char} {t : Timestamp}

-- ════════════════════════════════════════════════════════════════════════
-- Padded numbers
-- ════════════════════════════════════════════════════════════════════════

theorem isDigit_of_mem_padded {c : Char} (h : c ∈ padded width n) : c.isDigit = true := by
  rcases List.mem_append.1 h with h | h
  · obtain rfl := (List.mem_replicate.1 h).2
    rfl
  · exact Numeral.isDigit_of_mem_natDigits h

theorem padded_ne_nil (width n : Nat) : padded width n ≠ [] :=
  List.append_ne_nil_of_right_ne_nil _ (Numeral.natDigits_ne_nil n)

/-- A number that fits its field is as wide as the field. -/
theorem length_padded (hwidth : 0 < width) (h : n < Nat.pow 10 width) :
    (padded width n).length = width := by
  have hdigits := (Nat.length_toDigits_le_iff (by decide : 1 < 10) hwidth).2 h
  show (List.replicate _ '0' ++ Nat.toDigits 10 n).length = width
  rw [List.length_append, List.length_replicate]
  omega

theorem ofDigitChars_padded (width n : Nat) : Nat.ofDigitChars 10 (padded width n) 0 = n := by
  show Nat.ofDigitChars 10 (List.replicate _ '0' ++ Nat.toDigits 10 n) 0 = n
  rw [Nat.ofDigitChars_append, Nat.ofDigitChars_replicate_zero, Nat.mul_zero,
    Nat.ofDigitChars_ten_toDigits]

-- ════════════════════════════════════════════════════════════════════════
-- Digits at the start of a text
-- ════════════════════════════════════════════════════════════════════════

theorem isBlank_of_isDigit {c : Char} (h : c.isDigit = true) : isBlank c = false := by
  have hrange : 48 ≤ c.toNat ∧ c.toNat < 58 := by
    simp only [Char.isDigit, Bool.and_eq_true, decide_eq_true_eq] at h
    exact ⟨UInt32.le_iff_toNat_le.1 h.1, Nat.lt_succ_of_le (UInt32.le_iff_toNat_le.1 h.2)⟩
  have hall : ∀ n, n < 58 → 48 ≤ n → isBlank (Char.ofNat n) = false := by decide
  have hc := hall c.toNat hrange.2 hrange.1
  rwa [Char.ofNat_toNat] at hc

/-- Digits are not passed over. -/
theorem skipBlanks_append (hdigits : ∀ c ∈ digits, c.isDigit = true) (hne : digits ≠ [])
    (rest : List Char) : skipBlanks (digits ++ rest) = digits ++ rest := by
  obtain ⟨c, cs, rfl⟩ := List.exists_cons_of_ne_nil hne
  exact List.dropWhile_cons_of_neg
    (by simp [isBlank_of_isDigit (hdigits c List.mem_cons_self)])

/-- Digits that fill the width, or that something else follows, are found. -/
theorem takeWhile_take_append (hdigits : ∀ c ∈ digits, c.isDigit = true)
    (hlength : digits.length ≤ width) (hrest : digits.length = width ∨ EndsDigits rest) :
    ((digits ++ rest).take width).takeWhile Char.isDigit = digits := by
  rw [List.take_append, List.take_of_length_le hlength, List.takeWhile_append_of_pos hdigits]
  rcases hrest with hfull | hends
  · simp [hfull]
  · cases rest with
    | nil => simp
    | cons c rest =>
      have hc : c.isDigit = false := hends c rfl
      cases width - digits.length with
      | zero => simp
      | succ k => simp [hc]

theorem number?_padded {field : Nat} (hlength : (padded field n).length ≤ width)
    (hrest : (padded field n).length = width ∨ EndsDigits rest) :
    number? width (padded field n ++ rest) = some (n, rest) := by
  have hdigits : ∀ c ∈ padded field n, c.isDigit = true := fun c hc => isDigit_of_mem_padded hc
  simp only [number?, takeWhile_take_append hdigits hlength hrest, if_neg (padded_ne_nil field n),
    ofDigitChars_padded, List.drop_left]

theorem field?_padded (h : n < 100) (rest : List Char) :
    field? (padded 2 n ++ rest) = some (n, rest) := by
  have hlength : (padded 2 n).length = 2 := length_padded (by decide) h
  rw [field?, skipBlanks_append (fun c hc => isDigit_of_mem_padded hc) (padded_ne_nil 2 n),
    number?_padded (Nat.le_of_eq hlength) (.inl hlength)]

theorem padded_append_ne {c : Char} (hc : c.isDigit = false) (tail : List Char) :
    padded width n ++ rest ≠ c :: tail := by
  intro heq
  obtain ⟨d, ds, hcons⟩ := List.exists_cons_of_ne_nil (padded_ne_nil width n)
  have hd : d.isDigit = true := isDigit_of_mem_padded (hcons ▸ List.mem_cons_self)
  rw [hcons] at heq
  rw [(List.cons.inj heq).1, hc] at hd
  cases hd

theorem year?_yearChars (year : Int) (hrest : EndsDigits rest) :
    year? (yearChars year ++ rest) = some (year, rest) := by
  unfold yearChars
  split
  · next hplain =>
    have hfour : year.toNat < 10000 := by omega
    have hlength : (padded 4 year.toNat).length = 4 := length_padded (by decide) hfour
    have hnumber : number? 4 (padded 4 year.toNat ++ rest) = some (year.toNat, rest) :=
      number?_padded (Nat.le_of_eq hlength) (.inl hlength)
    have hskip := skipBlanks_append (fun c hc => isDigit_of_mem_padded hc)
      (padded_ne_nil 4 year.toNat) rest
    unfold year?
    rw [hskip]
    split
    · next hminus => exact absurd hminus (padded_append_ne rfl _)
    · next hplus => exact absurd hplus (padded_append_ne rfl _)
    · rw [hnumber, Option.map_some]
      exact congrArg (fun y => some (y, rest)) (Int.toNat_of_nonneg hplain.1)
  · next hsigned =>
    have hnumber : number? (padded 4 year.natAbs ++ rest).length (padded 4 year.natAbs ++ rest) =
        some (year.natAbs, rest) :=
      number?_padded (by simp) (.inr hrest)
    by_cases hnegative : year < 0
    · have hyear : -((year.natAbs : Nat) : Int) = year := by omega
      rw [if_pos hnegative]
      show (number? _ (padded 4 year.natAbs ++ rest)).map _ = _
      change number? ((padded 4 year.natAbs).append rest).length _ = _ at hnumber
      rw [hnumber, Option.map_some]
      exact congrArg (fun y => some (y, rest)) hyear
    · have hyear : ((year.natAbs : Nat) : Int) = year := by omega
      rw [if_neg hnegative]
      show (number? _ (padded 4 year.natAbs ++ rest)).map _ = _
      change number? ((padded 4 year.natAbs).append rest).length _ = _ at hnumber
      rw [hnumber, Option.map_some]
      exact congrArg (fun y => some (y, rest)) hyear

-- ════════════════════════════════════════════════════════════════════════
-- Fractions
-- ════════════════════════════════════════════════════════════════════════

/-- Digits after a point count as parts of a second. -/
theorem fraction?_point {field : Nat} (hfield : 0 < field) (hwidth : field ≤ 9)
    (h : n < Nat.pow 10 field) (hrest : EndsDigits rest) :
    fraction? ('.' :: (padded field n ++ rest)) = some (n * Nat.pow 10 (9 - field), rest) := by
  have hlength : (padded field n).length = field := length_padded hfield h
  have hdigits : ∀ c ∈ padded field n, c.isDigit = true := fun c hc => isDigit_of_mem_padded hc
  have hdrop : (padded field n ++ rest).dropWhile Char.isDigit = rest :=
    congrArg Prod.snd (Numeral.splitDigits_append hdigits hrest)
  simp only [fraction?,
    takeWhile_take_append hdigits (hlength.symm ▸ hwidth) (.inr hrest),
    if_neg (padded_ne_nil field n), ofDigitChars_padded, hlength, hdrop]

theorem fraction?_fractionChars (h : n < 1000000000) :
    fraction? (fractionChars n ++ ['Z']) = some (n, ['Z']) := by
  have hends : EndsDigits ['Z'] := endsDigits_cons rfl
  unfold fractionChars
  split
  · next hzero =>
    subst hzero
    rfl
  · split
    · next hmillis =>
      have hvalue : n / 1000000 * 1000000 = n := by omega
      have hfield : n / 1000000 < 1000 := by omega
      show fraction? ('.' :: (padded 3 (n / 1000000) ++ ['Z'])) = _
      rw [fraction?_point (by decide) (by decide) hfield hends]
      exact congrArg (fun k => some (k, ['Z'])) hvalue
    · split
      · next hmicros =>
        have hvalue : n / 1000 * 1000 = n := by omega
        have hfield : n / 1000 < 1000000 := by omega
        show fraction? ('.' :: (padded 6 (n / 1000) ++ ['Z'])) = _
        rw [fraction?_point (by decide) (by decide) hfield hends]
        exact congrArg (fun k => some (k, ['Z'])) hvalue
      · show fraction? ('.' :: (padded 9 n ++ ['Z'])) = _
        rw [fraction?_point (by decide) (by decide) h hends]
        exact congrArg (fun k => some (k, ['Z'])) (Nat.mul_one n)

-- ════════════════════════════════════════════════════════════════════════
-- Whole timestamps
-- ════════════════════════════════════════════════════════════════════════

/-- The parts of a day of the calendar make it up. -/
theorem ofParts?_date (d : CalendarDate) :
    CalendarDate.ofParts? d.year d.month d.day = some d := by
  rw [CalendarDate.ofParts?, dif_pos d.month_valid, dif_pos d.day_valid]

/-- A clock in universal time shows the time itself. -/
theorem ofLocal_zero {hour minute second nanosecond : Nat} (hhour : hour < 24)
    (hminute : minute < 60) (hsecond : second ≤ 60) (hnanosecond : nanosecond < 1000000000)
    (htime : t.second = (hour * 60 + minute) * 60 + (if second = 60 then 59 else second))
    (hpart : t.nanosecond = if second = 60 then nanosecond + 1000000000 else nanosecond) :
    ofLocal t.date hour minute second nanosecond 0 = some t := by
  obtain ⟨date, seconds, nanos, hs, hn⟩ := t
  dsimp only at htime hpart ⊢
  have hearly : ¬ ((hour * 60 + minute : Nat) : Int) - 0 < 0 := by omega
  have hlate : ¬ 1440 ≤ ((hour * 60 + minute : Nat) : Int) - 0 := by omega
  have hclock : (((hour * 60 + minute : Nat) : Int) - 0).toNat = hour * 60 + minute := by omega
  have hoffset : Int.natAbs 0 < 1440 := by decide
  subst htime hpart
  simp only [ofLocal, hhour, hminute, hsecond, hnanosecond, hoffset, and_self, if_true, hearly,
    hlate, if_false, hclock, hs, hn, dite_true]

/-- The time of day is read back. -/
theorem ofLocal_self (t : Timestamp) :
    ofLocal t.date (t.second / 3600) (t.second / 60 % 60)
      (t.second % 60 + (if 1000000000 ≤ t.nanosecond then 1 else 0))
      (if 1000000000 ≤ t.nanosecond then t.nanosecond - 1000000000 else t.nanosecond) 0 =
        some t := by
  have hs := t.second_valid
  have hn := t.nanosecond_valid
  by_cases hleap : 1000000000 ≤ t.nanosecond
  · -- A leap second lengthens the second 59, and is written as 60.
    have hlast : t.second % 60 + 1 = 60 := by omega
    simp only [hleap, if_true]
    refine ofLocal_zero (by omega) (by omega) (by omega) (by omega) ?_ ?_
    · rw [if_pos hlast]
      omega
    · rw [if_pos hlast]
      omega
  · have hordinary : t.second % 60 + 0 ≠ 60 := by omega
    simp only [hleap, if_false]
    refine ofLocal_zero (by omega) (by omega) (by omega) (by omega) ?_ ?_
    · rw [if_neg hordinary]
      omega
    · rw [if_neg hordinary]

theorem isReadableYear_of_ofChars? {cs : List Char} (h : ofChars? cs = some t) :
    isReadableYear t.date.year := by
  unfold ofChars? at h
  -- the year, the month and the day
  obtain ⟨⟨_, _⟩, -, h⟩ := Option.bind_eq_some_iff.1 h
  obtain ⟨_, -, h⟩ := Option.bind_eq_some_iff.1 h
  obtain ⟨⟨_, _⟩, -, h⟩ := Option.bind_eq_some_iff.1 h
  obtain ⟨_, -, h⟩ := Option.bind_eq_some_iff.1 h
  obtain ⟨⟨_, _⟩, -, h⟩ := Option.bind_eq_some_iff.1 h
  -- past the separator of date and time there is one way on
  dsimp only at h
  split at h
  · split at h
    · obtain ⟨_, -, h⟩ := Option.bind_eq_some_iff.1 h
      obtain ⟨⟨_, _⟩, -, h⟩ := Option.bind_eq_some_iff.1 h
      obtain ⟨_, -, h⟩ := Option.bind_eq_some_iff.1 h
      obtain ⟨⟨_, _⟩, -, h⟩ := Option.bind_eq_some_iff.1 h
      obtain ⟨_, -, h⟩ := Option.bind_eq_some_iff.1 h
      obtain ⟨⟨_, _⟩, -, h⟩ := Option.bind_eq_some_iff.1 h
      obtain ⟨⟨_, _⟩, -, h⟩ := Option.bind_eq_some_iff.1 h
      obtain ⟨⟨_, _⟩, -, h⟩ := Option.bind_eq_some_iff.1 h
      obtain ⟨_, -, h⟩ := Option.bind_eq_some_iff.1 h
      obtain ⟨time, -, h⟩ := Option.bind_eq_some_iff.1 h
      split at h
      · next hchecks =>
        cases h
        exact hchecks.2.2
      · cases h
    · cases h
  · cases h

/-- The timestamps that can be read back are those of a readable year. -/
theorem ofText?_text_iff : ofText? t.text = some t ↔ isReadableYear t.date.year := by
  refine ⟨isReadableYear_of_ofChars?, fun hyear => ?_⟩
  have hmonth : t.date.month < 100 := by
    have := t.date.month_valid
    omega
  have hday : t.date.day < 100 := by
    have hlast : daysInMonth t.date.year t.date.month ≤ 31 := by
      unfold daysInMonth
      split_ifs <;> omega
    have := t.date.day_valid
    omega
  have hhour : t.second / 3600 < 100 := by
    have := t.second_valid
    omega
  have hminute : t.second / 60 % 60 < 100 := by omega
  have hsecond : t.second % 60 + (if 1000000000 ≤ t.nanosecond then 1 else 0) < 100 := by
    split <;> omega
  have hnanosecond :
      (if 1000000000 ≤ t.nanosecond then t.nanosecond - 1000000000 else t.nanosecond)
        < 1000000000 := by
    have := t.nanosecond_valid
    split <;> omega
  rw [ofText?, text, String.toList_ofList]
  have hfirst : ∀ rest, year? (yearChars t.date.year ++ '-' :: rest) =
      some (t.date.year, '-' :: rest) := fun _ => year?_yearChars _ (endsDigits_cons rfl)
  have hdash : ∀ rest, separator? '-' ('-' :: rest) = some rest := fun _ => rfl
  have hcolon : ∀ rest, separator? ':' (':' :: rest) = some rest := fun _ => rfl
  have hoffset : offset? (skipBlanks ['Z']) = some (0, []) := rfl
  have hend : skipBlanks [] = [] := rfl
  simp only [chars, List.append_assoc, List.cons_append]
  unfold ofChars?
  -- the year, the month and the day
  refine Option.bind_eq_some_iff.2 ⟨_, hfirst _, ?_⟩
  refine Option.bind_eq_some_iff.2 ⟨_, hdash _, ?_⟩
  refine Option.bind_eq_some_iff.2 ⟨_, field?_padded hmonth _, ?_⟩
  refine Option.bind_eq_some_iff.2 ⟨_, hdash _, ?_⟩
  refine Option.bind_eq_some_iff.2 ⟨_, field?_padded hday _, ?_⟩
  dsimp only
  rw [if_pos (Or.inl rfl)]
  -- the time of day, and no offset
  refine Option.bind_eq_some_iff.2 ⟨_, rfl, ?_⟩
  refine Option.bind_eq_some_iff.2 ⟨_, field?_padded hhour _, ?_⟩
  refine Option.bind_eq_some_iff.2 ⟨_, hcolon _, ?_⟩
  refine Option.bind_eq_some_iff.2 ⟨_, field?_padded hminute _, ?_⟩
  refine Option.bind_eq_some_iff.2 ⟨_, hcolon _, ?_⟩
  refine Option.bind_eq_some_iff.2 ⟨_, field?_padded hsecond _, ?_⟩
  refine Option.bind_eq_some_iff.2 ⟨_, fraction?_fractionChars hnanosecond, ?_⟩
  refine Option.bind_eq_some_iff.2 ⟨_, hoffset, ?_⟩
  refine Option.bind_eq_some_iff.2 ⟨_, ofParts?_date _, ?_⟩
  refine Option.bind_eq_some_iff.2 ⟨_, ofLocal_self t, ?_⟩
  exact if_pos ⟨hend, hyear, hyear⟩

end Timestamp

end Sitemap
