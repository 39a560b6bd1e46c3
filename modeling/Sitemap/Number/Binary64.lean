/-!
# Binary floating-point numbers

Numbers written with a fraction or an exponent are held in the 64-bit binary
format. Everything here is exact arithmetic on natural numbers: a number is
decoded to `significand · 2 ^ exponent`, and every operation rounds its exact
result to the nearest number of the format, a tie going to the even significand.

## Main definitions

- `Binary64` — a number of the format, held as its 64 bits
- `Binary64.roundRatio` — the number nearest to a ratio of natural numbers
- `Binary64.ofScaled` — the number for decimal digits and a power of ten
- `Binary64.shortest` — the fewest decimal digits that round back to a number

## Design notes

`ofScaled` rounds twice, once for the digits and once for the scaling by a
power of ten, so it may miss the nearest number by one unit in the last place.
That is the contract of the file format, not an accident of this module.
-/

namespace Sitemap

/-- A finite number of the 64-bit binary format. -/
structure Binary64 where
  /-- Sign, biased exponent and trailing significand, from the highest bit down. -/
  bits : UInt64
  deriving DecidableEq, Repr

namespace Binary64

/-- The weight of the sign bit, 2 to the power 63. -/
def signWeight : Nat := 9223372036854775808

/-- The least significand of full length, 2 to the power 52. It is also the weight of the
    lowest bit of the exponent. -/
def fullSignificand : Nat := 4503599627370496

/-- Whether the sign bit is set. -/
def isNegative (x : Binary64) : Bool :=
  x.bits.toNat / signWeight = 1

/-- The bits below the sign. -/
def magnitudeBits (x : Binary64) : Nat :=
  x.bits.toNat % signWeight

/-- Whether the number is zero, of either sign. -/
def isZero (x : Binary64) : Bool :=
  x.magnitudeBits = 0

/-- Zero without a sign. -/
def zero : Binary64 := ⟨0⟩

/-- The number with the given sign and bits below it. -/
def ofMagnitude (negative : Bool) (magnitude : Nat) : Binary64 :=
  ⟨UInt64.ofNat ((if negative then signWeight else 0) + magnitude)⟩

/-- The significand of a magnitude: `significand · 2 ^ exponent` is its value. -/
def significand (magnitude : Nat) : Nat :=
  if magnitude / fullSignificand = 0 then magnitude
  else magnitude % fullSignificand + fullSignificand

/-- The binary exponent of a magnitude: `significand · 2 ^ exponent` is its value. -/
def exponent (magnitude : Nat) : Int :=
  if magnitude / fullSignificand = 0 then -1074 else (magnitude / fullSignificand : Nat) - 1075

/-- `n · 2 ^ e` as a ratio of natural numbers. -/
def binaryRatio (n : Nat) (e : Int) : Nat × Nat :=
  if 0 ≤ e then (n * Nat.pow 2 e.toNat, 1) else (n, Nat.pow 2 (-e).toNat)

/-- `n / d` rounded to a natural number, a tie going to the even one. -/
def roundQuotient (n d : Nat) : Nat :=
  let q := n / d
  let r := n % d
  if 2 * r < d then q
  else if d < 2 * r then q + 1
  else if q % 2 = 0 then q else q + 1

/-- The exponent at which `n / d` has a significand of 53 bits, or the least one. -/
def scaleOf (n d : Nat) : Int :=
  let guess : Int := (Nat.log2 n : Int) - (Nat.log2 d : Int) - 52
  let (a, b) :=
    if 0 ≤ guess then (n, d * Nat.pow 2 guess.toNat) else (n * Nat.pow 2 (-guess).toNat, d)
  let exact := if a / b < fullSignificand then guess - 1 else guess
  max exact (-1074)

/-- The magnitude nearest to `n / d`; `none` when it lies beyond the largest number. -/
def roundRatio (n d : Nat) : Option Nat :=
  if n = 0 then some 0
  else
    let e := scaleOf n d
    let (a, b) := if 0 ≤ e then (n, d * Nat.pow 2 e.toNat) else (n * Nat.pow 2 (-e).toNat, d)
    let magnitude := (e + 1074).toNat * fullSignificand + roundQuotient a b
    if magnitude < 2047 * fullSignificand then some magnitude else none

/-- The magnitude nearest to the product of two magnitudes. -/
def mulMagnitude (x y : Nat) : Option Nat :=
  let (n, d) := binaryRatio (significand x * significand y) (exponent x + exponent y)
  roundRatio n d

/-- The magnitude nearest to the quotient of two magnitudes. -/
def divMagnitude (x y : Nat) : Option Nat :=
  let (n, d) := binaryRatio (significand x) (exponent x - exponent y)
  roundRatio n (d * significand y)

/-- The magnitude nearest to `10 ^ k`. -/
def powerOfTen (k : Nat) : Nat :=
  (roundRatio (Nat.pow 10 k) 1).getD 0

/-- A magnitude scaled by `10 ^ e`, in steps of at most `10 ^ 308`. -/
def scaleMagnitude (x : Nat) (e : Int) : Nat → Option Nat
  | 0 => some x
  | fuel + 1 =>
    if e.natAbs ≤ 308 then
      if 0 ≤ e then mulMagnitude x (powerOfTen e.toNat)
      else divMagnitude x (powerOfTen (-e).toNat)
    else if x = 0 then some 0
    else if 0 ≤ e then none
    else do scaleMagnitude (← divMagnitude x (powerOfTen 308)) (e + 308) fuel

/-- The number for `digits · 10 ^ e`: the digits are rounded, then scaled. -/
def ofScaled (negative : Bool) (digits : Nat) (e : Int) : Option Binary64 := do
  let x ← roundRatio digits 1
  let y ← scaleMagnitude x e (e.natAbs / 308 + 1)
  return ofMagnitude negative y

-- ════════════════════════════════════════════════════════════════════════
-- Shortest decimal digits
-- ════════════════════════════════════════════════════════════════════════

/-- The ends of the reals that round to a magnitude, as numerators over four times
    the denominator of its value, with the value itself between them. -/
def roundingBounds (magnitude : Nat) : (Nat × Nat × Nat) × Nat :=
  let s := significand magnitude
  let (scale, d) := binaryRatio 1 (exponent magnitude)
  let below := if s = fullSignificand ∧ 2 * fullSignificand ≤ magnitude then 1 else 2
  (((4 * s - below) * scale, 4 * s * scale, (4 * s + 2) * scale), 4 * d)

/-- The number of decimal places before the point of `n / d`, counted from the first
    digit that is not zero: `10 ^ (p - 1) ≤ n / d < 10 ^ p`. -/
def decimalPoint (n d : Nat) : Int :=
  let rec raise : Nat → Nat → Int → Int
    | 0, _, p => p
    | fuel + 1, bound, p => if n < bound then p else raise fuel (bound * 10) (p + 1)
  let rec lower : Nat → Nat → Int → Int
    | 0, _, p => p
    | fuel + 1, m, p => if d ≤ m * 10 then p else lower fuel (m * 10) (p - 1)
  if d ≤ n then raise 400 (d * 10) 1 else lower 400 n 0

/-- Decimal digits as a number, and the power of ten that scales them. -/
structure Decimal where
  /-- The digits, as one natural number. -/
  digits : Nat
  /-- The power of ten that the digits are multiplied by. -/
  scale : Int

/-- The number of `count` digits inside the rounding bounds that lies nearest to the
    value, if there is one. -/
def decimalOfLength (bounds : (Nat × Nat × Nat) × Nat) (even : Bool) (p : Int) (count : Nat) :
    Option Decimal :=
  let ((low, value, high), d) := bounds
  let scale := p - count
  -- `u / v` is one unit of the last digit.
  let (u, v) := if 0 ≤ scale then (Nat.pow 10 scale.toNat, 1) else (1, Nat.pow 10 (-scale).toNat)
  let inside (k : Nat) : Bool :=
    let x := k * u * d
    if even then decide (low * v ≤ x ∧ x ≤ high * v) else decide (low * v < x ∧ x < high * v)
  let k := value * v / (u * d)
  let rest := 2 * (value * v % (u * d))
  let upper := decide (u * d < rest) || (decide (u * d = rest) && k % 2 = 1)
  let chosen :=
    match inside k, inside (k + 1) with
    | true, true => some (if upper then k + 1 else k)
    | true, false => some k
    | false, true => some (k + 1)
    | false, false => none
  -- Rounding up may carry into one digit more; that digit is a one before zeros.
  chosen.map fun m => if m = Nat.pow 10 count then ⟨1, p⟩ else ⟨m, scale⟩

/-- The fewest decimal digits that round back to a magnitude, the nearest of those. -/
def shortest (magnitude : Nat) : Decimal :=
  let bounds := roundingBounds magnitude
  let p := decimalPoint bounds.1.2.1 bounds.2
  let even := significand magnitude % 2 = 0
  ((List.range 17).findSome? fun i => decimalOfLength bounds even p (i + 1)).getD ⟨0, 0⟩

end Binary64

end Sitemap
