import Sitemap.Text.Blank
import Sitemap.Timestamp.Basic

/-!
# Written timestamps

A timestamp is written as date and time in universal time, with as many digits of a
second as it needs in groups of three, and read in any offset.

## Main definitions

- `Timestamp.text` — the written form, such as `2024-02-29T12:00:00.250Z`
- `Timestamp.ofText?` — the timestamp that a text denotes

## Design notes

Reading is lenient about form: fields may have fewer digits, blanks may stand around
the separators, and a space or a small letter may take the place of the `T`. It is
strict about content: every field must name a date and time that exist, and an offset
is required. Years outside 0 to 9999 carry a sign.
-/

namespace Sitemap

namespace Timestamp

-- ════════════════════════════════════════════════════════════════════════
-- Writing
-- ════════════════════════════════════════════════════════════════════════

/-- A number with zeros in front, at least `width` digits long. -/
def padded (width n : Nat) : List Char :=
  let digits := Nat.toDigits 10 n
  List.replicate (width - digits.length) '0' ++ digits

/-- A year: four digits, or a sign and at least four digits outside 0 to 9999. -/
def yearChars (year : Int) : List Char :=
  if 0 ≤ year ∧ year ≤ 9999 then padded 4 year.toNat
  else (if year < 0 then '-' else '+') :: padded 4 year.natAbs

/-- The fraction of a second: nothing, or a point and three, six or nine digits. -/
def fractionChars (nanosecond : Nat) : List Char :=
  if nanosecond = 0 then []
  else if nanosecond % 1000000 = 0 then '.' :: padded 3 (nanosecond / 1000000)
  else if nanosecond % 1000 = 0 then '.' :: padded 6 (nanosecond / 1000)
  else '.' :: padded 9 nanosecond

/-- The written form of a timestamp, as characters. -/
def chars (t : Timestamp) : List Char :=
  let leap := 1000000000 ≤ t.nanosecond
  let second := t.second % 60 + (if leap then 1 else 0)
  let nanosecond := if leap then t.nanosecond - 1000000000 else t.nanosecond
  yearChars t.date.year ++ '-' :: padded 2 t.date.month ++ '-' :: padded 2 t.date.day
    ++ 'T' :: padded 2 (t.second / 3600) ++ ':' :: padded 2 (t.second / 60 % 60)
    ++ ':' :: padded 2 second ++ fractionChars nanosecond ++ ['Z']

/-- The written form of a timestamp. -/
def text (t : Timestamp) : String :=
  String.ofList t.chars

-- ════════════════════════════════════════════════════════════════════════
-- Reading
-- ════════════════════════════════════════════════════════════════════════

/-- The number written by the digits at the start of a text, of which at most `width`
    count, and what follows them. -/
def number? (width : Nat) (cs : List Char) : Option (Nat × List Char) :=
  let digits := (cs.take width).takeWhile Char.isDigit
  if digits = [] then none else some (Nat.ofDigitChars 10 digits 0, cs.drop digits.length)

/-- A field of at most two digits after blanks. -/
def field? (cs : List Char) : Option (Nat × List Char) :=
  number? 2 (skipBlanks cs)

/-- A year after blanks: four digits at most, or a sign and any number of digits. -/
def year? (cs : List Char) : Option (Int × List Char) :=
  match skipBlanks cs with
  | '-' :: rest => (number? rest.length rest).map fun (n, rest) => (-(n : Int), rest)
  | '+' :: rest => (number? rest.length rest).map fun (n, rest) => ((n : Int), rest)
  | rest => (number? 4 rest).map fun (n, rest) => ((n : Int), rest)

/-- A separator after blanks. -/
def separator? (c : Char) (cs : List Char) : Option (List Char) :=
  match skipBlanks cs with
  | d :: rest => if d = c then some rest else none
  | [] => none

/-- The fraction of a second, in nanoseconds; digits after the ninth are ignored. -/
def fraction? : List Char → Option (Nat × List Char)
  | '.' :: rest =>
    let digits := (rest.take 9).takeWhile Char.isDigit
    if digits = [] then none
    else
      some (Nat.ofDigitChars 10 digits 0 * Nat.pow 10 (9 - digits.length),
        rest.dropWhile Char.isDigit)
  | rest => some (0, rest)

/-- The hours and minutes of an offset, in minutes: two digits, perhaps a colon or
    blanks, two digits. -/
def offsetMinutes? : List Char → Option (Nat × List Char)
  | h₁ :: h₂ :: rest =>
    match rest.dropWhile fun c => c = ':' || isBlank c with
    | m₁ :: m₂ :: rest =>
      if h₁.isDigit ∧ h₂.isDigit ∧ m₁.isDigit ∧ m₂.isDigit then
        let minutes := Nat.ofDigitChars 10 [m₁, m₂] 0
        if minutes < 60 then some (Nat.ofDigitChars 10 [h₁, h₂] 0 * 60 + minutes, rest) else none
      else none
    | _ => none
  | _ => none

/-- An offset in minutes: `Z`, `UTC`, or a sign with hours and minutes. The sign may be
    a hyphen or a minus sign. -/
def offset? (cs : List Char) : Option (Int × List Char) :=
  if (cs.take 3).map Char.toUpper = ['U', 'T', 'C'] then some (0, cs.drop 3)
  else
    match cs with
    | [] => none
    | c :: rest =>
      if c = 'Z' ∨ c = 'z' then some (0, rest)
      else if c = '+' then (offsetMinutes? rest).map fun (n, rest) => ((n : Int), rest)
      else if c = '-' ∨ c = '\u2212' then
        (offsetMinutes? rest).map fun (n, rest) => (-(n : Int), rest)
      else none

/-- The years that a timestamp can be read in. -/
def isReadableYear (year : Int) : Bool :=
  -262143 ≤ year && year ≤ 262142

/-- The timestamp that characters denote. -/
def ofChars? (cs : List Char) : Option Timestamp := do
  let (year, cs) ← year? cs
  let (month, cs) ← field? (← separator? '-' cs)
  let (day, cs) ← field? (← separator? '-' cs)
  let cs ←
    match cs with
    | c :: rest => if c = 'T' ∨ c = 't' ∨ c = ' ' then some rest else none
    | [] => none
  let (hour, cs) ← field? cs
  let (minute, cs) ← field? (← separator? ':' cs)
  let (second, cs) ← field? (← separator? ':' cs)
  let (nanosecond, cs) ← fraction? cs
  let (offset, cs) ← offset? (skipBlanks cs)
  let date ← CalendarDate.ofParts? year month day
  let time ← ofLocal date hour minute second nanosecond offset
  if skipBlanks cs = [] ∧ isReadableYear year ∧ isReadableYear time.date.year then some time
  else none

/-- The timestamp that a text denotes. -/
def ofText? (s : String) : Option Timestamp :=
  ofChars? s.toList

end Timestamp

end Sitemap
