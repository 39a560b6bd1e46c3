import Sitemap.Json.Basic

/-!
# Numerals

The written form of a JSON number and the value it has. A numeral without
fraction and exponent is an integer when it fits in 64 bits, signed or unsigned;
every other numeral is a binary floating-point number.

## Main definitions

- `Numeral` — the parts of a written number
- `Numeral.ofChars?` — the grammar: no leading zero, no sign but a minus, at least
  one digit after a point and in an exponent
- `Numeral.value?` — the value, unless it is too large
- `Numeral.ofInt`, `Numeral.ofBinary` — the written forms of values

## Design notes

A written integer can carry a minus and still be zero. That numeral denotes the
negative zero of the floating-point format, since no integer is a negative zero.

Of a floating-point numeral only as many digits count as fit in 64 bits. Digits of
the whole part after those scale the number, digits of the fraction are ignored.
-/

namespace Sitemap

/-- The parts of a written number. -/
structure Numeral where
  /-- Whether a minus stands in front. -/
  negative : Bool
  /-- The digits before the point. -/
  whole : List Char
  /-- The digits after the point; empty without a point. -/
  fraction : List Char
  /-- The exponent, if one is written. -/
  exponent : Option Int

namespace Numeral

/-- The natural number that decimal digits denote. -/
def natOf (digits : List Char) : Nat :=
  Nat.ofDigitChars 10 digits 0

/-- The digits at the start of a text, and what follows them. -/
def splitDigits (cs : List Char) : List Char × List Char :=
  (cs.takeWhile Char.isDigit, cs.dropWhile Char.isDigit)

/-- The part of a numeral from its exponent mark on: nothing, or a mark, perhaps a
    sign, and at least one digit. -/
def exponentOf? : List Char → Option (Option Int)
  | [] => some none
  | mark :: rest =>
    if mark = 'e' ∨ mark = 'E' then
      let (negative, digits) :=
        match rest with
        | '-' :: digits => (true, digits)
        | '+' :: digits => (false, digits)
        | digits => (false, digits)
      if digits ≠ [] ∧ digits.all Char.isDigit then
        some (some (if negative then -(natOf digits : Int) else natOf digits))
      else none
    else none

/-- The part of a numeral from its point on: perhaps a point with at least one digit,
    then the exponent. -/
def fractionOf? : List Char → Option (List Char × Option Int)
  | '.' :: rest =>
    let (digits, rest) := splitDigits rest
    if digits = [] then none else (exponentOf? rest).map (digits, ·)
  | rest => (exponentOf? rest).map ([], ·)

/-- The parts of a written number, if the text is one. -/
def ofChars? (cs : List Char) : Option Numeral :=
  let (negative, rest) :=
    match cs with
    | '-' :: rest => (true, rest)
    | rest => (false, rest)
  let (whole, rest) := splitDigits rest
  if whole = [] ∨ (whole.head? = some '0' ∧ 1 < whole.length) then none
  else (fractionOf? rest).map fun (fraction, exponent) => ⟨negative, whole, fraction, exponent⟩

-- ════════════════════════════════════════════════════════════════════════
-- Values
-- ════════════════════════════════════════════════════════════════════════

/-- The largest number that digits are gathered in. -/
def maxSignificand : Nat := 18446744073709551615

/-- Gather digits onto a number while it fits in 64 bits. The second part counts the
    digits that were left over. -/
def gather (sofar : Nat) : List Char → Nat × Nat
  | [] => (sofar, 0)
  | c :: rest =>
    let next := 10 * sofar + (c.toNat - 48)
    if maxSignificand < next then (sofar, rest.length + 1) else gather next rest

/-- The floating-point number of a numeral; `none` when it is too large. -/
def binary? (n : Numeral) : Option Binary64 :=
  let (whole, dropped) := gather 0 n.whole
  let (digits, ignored) := gather whole n.fraction
  let places := n.fraction.length - ignored
  Binary64.ofScaled n.negative digits ((dropped : Int) - places + n.exponent.getD 0)

/-- The integer of a numeral, if it denotes one that fits in 64 bits. -/
def int? (n : Numeral) : Option Int :=
  if n.fraction = [] ∧ n.exponent = none then
    let m := natOf n.whole
    if n.negative then
      if m ≠ 0 ∧ m ≤ 9223372036854775808 then some (-(m : Int)) else none
    else
      if m < 18446744073709551616 then some m else none
  else none

/-- An integer read from a numeral fits in 64 bits. -/
theorem isCanonical_int {n : Numeral} {i : Int} (h : n.int? = some i) :
    (Json.int i).IsCanonical := by
  unfold int? at h
  unfold Json.IsCanonical
  split at h
  · simp only at h
    split at h
    · split at h
      · cases h
        omega
      · cases h
    · split at h
      · cases h
        omega
      · cases h
  · cases h

/-- The value of a numeral; `none` when it is too large for every kind of number. -/
def value? (n : Numeral) : Option JsonValue :=
  match h : n.int? with
  | some i => some ⟨.int i, isCanonical_int h⟩
  | none => n.binary?.map fun x => ⟨.fraction x, trivial⟩

-- ════════════════════════════════════════════════════════════════════════
-- Written forms
-- ════════════════════════════════════════════════════════════════════════

/-- The decimal digits of a natural number. -/
def natDigits (n : Nat) : List Char :=
  Nat.toDigits 10 n

/-- An integer as it is written: a minus if it is negative, then its digits. -/
def ofInt (n : Int) : List Char :=
  if n < 0 then '-' :: natDigits n.natAbs else natDigits n.natAbs

/-- An exponent as it is written: the mark, a sign even if it is a plus, then its digits. -/
def exponentText (e : Int) : List Char :=
  'e' :: (if e < 0 then '-' else '+') :: natDigits e.natAbs

/-- The text of decimal digits with `point` places before the decimal point. Numbers of
    moderate size are written in full and show a fraction; all others have an exponent. -/
def ofDigits (digits : List Char) (point : Int) : List Char :=
  let count : Int := digits.length
  if count ≤ point ∧ point ≤ 16 then
    digits ++ List.replicate (point - count).toNat '0' ++ ['.', '0']
  else if 0 < point ∧ point ≤ 16 then
    digits.take point.toNat ++ '.' :: digits.drop point.toNat
  else if -5 < point ∧ point ≤ 0 then
    '0' :: '.' :: List.replicate (-point).toNat '0' ++ digits
  else
    let mantissa :=
      match digits with
      | [] => []
      | [d] => [d]
      | d :: rest => d :: '.' :: rest
    mantissa ++ exponentText (point - 1)

/-- A floating-point number as it is written: the fewest digits that read back. -/
def ofBinary (x : Binary64) : List Char :=
  let body :=
    if x.isZero then ['0', '.', '0']
    else
      let d := Binary64.shortest x.magnitudeBits
      let digits := natDigits d.digits
      ofDigits digits (digits.length + d.scale)
  if x.isNegative then '-' :: body else body

end Numeral

end Sitemap
