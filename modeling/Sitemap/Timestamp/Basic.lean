/-!
# Timestamps

Points in universal time, to the nanosecond, as a date and a time of day. Dates
follow the Gregorian calendar in both directions without a gap.

## Main definitions

- `CalendarDate` — a day of the calendar
- `CalendarDate.next`, `CalendarDate.previous` — the neighbouring days
- `Timestamp` — a day and a time of day
- `Timestamp.epoch` — where computers start to count
- `Timestamp.ofLocal` — the time that a clock with an offset shows

## Design notes

A leap second lengthens a minute: it has the same hour, minute and second as the
second before it, and a nanosecond count of a billion or more. A timestamp keeps the
date and time it is written with, so writing needs no arithmetic on calendars.
-/

namespace Sitemap

/-- Whether February of a year has 29 days. -/
def isLeapYear (year : Int) : Bool :=
  year % 4 = 0 && (year % 100 ≠ 0 || year % 400 = 0)

/-- The number of days of a month, counted from 1 for January. -/
def daysInMonth (year : Int) (month : Nat) : Nat :=
  if month = 2 then (if isLeapYear year then 29 else 28)
  else if month = 4 ∨ month = 6 ∨ month = 9 ∨ month = 11 then 30
  else 31

theorem daysInMonth_pos (year : Int) (month : Nat) : 1 ≤ daysInMonth year month := by
  unfold daysInMonth
  split
  · split <;> omega
  · split <;> omega

/-- A day of the calendar. -/
structure CalendarDate where
  /-- The year; zero and negative years precede the year 1. -/
  year : Int
  /-- The month, from 1 to 12. -/
  month : Nat
  /-- The day of the month, from 1. -/
  day : Nat
  /-- The month exists. -/
  month_valid : 1 ≤ month ∧ month ≤ 12
  /-- The month has this day. -/
  day_valid : 1 ≤ day ∧ day ≤ daysInMonth year month
  deriving DecidableEq

namespace CalendarDate

/-- The day with the given parts, if the calendar has it. -/
def ofParts? (year : Int) (month day : Nat) : Option CalendarDate :=
  if hm : 1 ≤ month ∧ month ≤ 12 then
    if hd : 1 ≤ day ∧ day ≤ daysInMonth year month then some ⟨year, month, day, hm, hd⟩
    else none
  else none

/-- The day after a day. -/
def next (d : CalendarDate) : CalendarDate :=
  if h : d.day < daysInMonth d.year d.month then
    { d with day := d.day + 1, day_valid := ⟨by omega, h⟩ }
  else if hm : d.month < 12 then
    ⟨d.year, d.month + 1, 1, by omega, by simp, daysInMonth_pos _ _⟩
  else ⟨d.year + 1, 1, 1, by omega, by simp, daysInMonth_pos _ _⟩

/-- The day before a day. -/
def previous (d : CalendarDate) : CalendarDate :=
  if h : 1 < d.day then
    { d with day := d.day - 1, day_valid := ⟨by omega, by have := d.day_valid; omega⟩ }
  else if hm : 1 < d.month then
    ⟨d.year, d.month - 1, daysInMonth d.year (d.month - 1), by have := d.month_valid; omega,
      daysInMonth_pos _ _, Nat.le_refl _⟩
  else
    ⟨d.year - 1, 12, daysInMonth (d.year - 1) 12, by omega, daysInMonth_pos _ _, Nat.le_refl _⟩

end CalendarDate

/-- A point in universal time. -/
structure Timestamp where
  /-- The day. -/
  date : CalendarDate
  /-- The second of the day; a leap second counts as the second before it. -/
  second : Nat
  /-- The nanosecond of the second; a billion or more in a leap second. -/
  nanosecond : Nat
  /-- A day has 86400 seconds. -/
  second_valid : second < 86400
  /-- Only the last second of a minute can be lengthened, and only by one second. -/
  nanosecond_valid : nanosecond < 1000000000 ∨ (nanosecond < 2000000000 ∧ second % 60 = 59)
  deriving DecidableEq

namespace Timestamp

/-- The midnight that begins the year 1970. -/
def epoch : Timestamp :=
  ⟨⟨1970, 1, 1, by decide, by decide⟩, 0, 0, by decide, by decide⟩

instance : Inhabited Timestamp := ⟨epoch⟩

/-- The time shown as `hour:minute:second` and nanoseconds by a clock that is
    `offset` minutes ahead of universal time. The second 60 is a leap second, the time of
    day must exist, and the clock is less than a day ahead or behind. -/
def ofLocal (date : CalendarDate) (hour minute second nanosecond : Nat) (offset : Int) :
    Option Timestamp :=
  if hour < 24 ∧ minute < 60 ∧ second ≤ 60 ∧ nanosecond < 1000000000 ∧ offset.natAbs < 1440 then
    let leap := second = 60
    let nanos := if leap then nanosecond + 1000000000 else nanosecond
    let clock : Int := (hour * 60 + minute : Nat) - offset
    let (day, minutes) : CalendarDate × Nat :=
      if clock < 0 then (date.previous, (clock + 1440).toNat)
      else if 1440 ≤ clock then (date.next, (clock - 1440).toNat)
      else (date, clock.toNat)
    let seconds := minutes * 60 + (if leap then 59 else second)
    if hs : seconds < 86400 then
      if hn : nanos < 1000000000 ∨ (nanos < 2000000000 ∧ seconds % 60 = 59) then
        some ⟨day, seconds, nanos, hs, hn⟩
      else none
    else none
  else none

end Timestamp

end Sitemap
