/-!
# The calendar and the clock

Dates of the proleptic Gregorian calendar from the year 0 on, the days since 0000-01-01, and points
in time to the millisecond. A leap second is kept apart: it has the milliseconds of the second
before it and a mark.

Results:

* `daysBeforeYear_yearOf_le`, `lt_daysBeforeYear_yearOf`: the year of a day is the one that begins
  on or before it and ends after it.
* `total_take_monthAndDay`: splitting a day of the year into month and day loses no days.
* `fixedDigits_length`: a field of a written time has its fixed width.
-/

namespace Logbook.Time

/-- Whether a year has a 29th of February. -/
def isLeap (year : Nat) : Bool :=
  year % 4 == 0 && (year % 100 != 0 || year % 400 == 0)

/-- The number of days before the first of January of a year. -/
def daysBeforeYear (year : Nat) : Nat :=
  365 * year + (year + 3) / 4 + (year + 399) / 400 - (year + 99) / 100

theorem le_daysBeforeYear (year : Nat) : 365 * year ≤ daysBeforeYear year := by
  unfold daysBeforeYear
  omega

/-- The last year, from the given one down, that begins on or before a day. -/
def lastYear : (year : Nat) → (day : Nat) → Nat
  | 0, _ => 0
  | year + 1, day => if daysBeforeYear (year + 1) ≤ day then year + 1 else lastYear year day

/-- The year that a day lies in. A year has at least 365 days, so the search begins at the
    quotient. -/
def yearOf (day : Nat) : Nat :=
  lastYear (day / 365) day

theorem daysBeforeYear_lastYear_le (year day : Nat) :
    daysBeforeYear (lastYear year day) ≤ day := by
  induction year with
  | zero => simp [lastYear, daysBeforeYear]
  | succ y ih => by_cases h : daysBeforeYear (y + 1) ≤ day <;> simp [lastYear, h, ih]

theorem lt_daysBeforeYear_lastYear {year day : Nat} (h : day < daysBeforeYear (year + 1)) :
    day < daysBeforeYear (lastYear year day + 1) := by
  induction year with
  | zero => exact h
  | succ y ih =>
    by_cases hy : daysBeforeYear (y + 1) ≤ day
    · simpa [lastYear, hy] using h
    · simpa [lastYear, hy] using ih (by omega)

theorem daysBeforeYear_yearOf_le (day : Nat) : daysBeforeYear (yearOf day) ≤ day :=
  daysBeforeYear_lastYear_le _ _

theorem lt_daysBeforeYear_yearOf (day : Nat) : day < daysBeforeYear (yearOf day + 1) :=
  lt_daysBeforeYear_lastYear (Nat.lt_of_lt_of_le (by omega) (le_daysBeforeYear _))

/-- The lengths of the months in order. -/
def monthLengths (leap : Bool) : List Nat :=
  [31, if leap then 29 else 28, 31, 30, 31, 30, 31, 31, 30, 31, 30, 31]

/-- The month, counted from 0, and the day in it, counted from 0, of a day counted from the first
    of these months. -/
def monthAndDay : List Nat → Nat → Nat × Nat
  | [], day => (0, day)
  | m :: rest, day =>
    if day < m then (0, day)
    else
      let found := monthAndDay rest (day - m)
      (found.1 + 1, found.2)

/-- The days of some months together. -/
def total : List Nat → Nat
  | [] => 0
  | m :: rest => m + total rest

theorem total_take_monthAndDay (ms : List Nat) (day : Nat) :
    total (ms.take (monthAndDay ms day).1) + (monthAndDay ms day).2 = day := by
  induction ms generalizing day with
  | nil => simp [monthAndDay, total]
  | cons m rest ih =>
    by_cases h : day < m
    · simp [monthAndDay, total, h]
    · have := ih (day - m)
      simp only [monthAndDay, if_neg h, List.take_succ_cons, total]
      omega

/-- A date; months and days count from 1. -/
structure Date where
  year : Nat
  month : Nat
  day : Nat
  deriving DecidableEq

namespace Date

/-- Whether the calendar has the date. -/
def isValid (d : Date) : Bool :=
  1 ≤ d.month && d.month ≤ 12 && 1 ≤ d.day &&
    d.day ≤ (monthLengths (isLeap d.year)).getD (d.month - 1) 0

/-- The number of days from 0000-01-01 to the date. -/
def toDays (d : Date) : Nat :=
  daysBeforeYear d.year + total ((monthLengths (isLeap d.year)).take (d.month - 1)) + (d.day - 1)

/-- The date a number of days after 0000-01-01. -/
def ofDays (days : Nat) : Date :=
  let year := yearOf days
  let found := monthAndDay (monthLengths (isLeap year)) (days - daysBeforeYear year)
  ⟨year, found.1 + 1, found.2 + 1⟩

theorem toDays_ofDays (days : Nat) : (ofDays days).toDays = days := by
  have h := daysBeforeYear_yearOf_le days
  have hs := total_take_monthAndDay (monthLengths (isLeap (yearOf days)))
    (days - daysBeforeYear (yearOf days))
  simp only [ofDays, toDays, Nat.add_sub_cancel]
  omega

end Date

/-! ## Instants -/

/-- The day 1970-01-01, counted from 0000-01-01. -/
def epochDay : Nat := 719528

/-- The milliseconds of a day. -/
def dayMillis : Nat := 86400000

/-- A point in time. -/
structure Instant where
  /-- Milliseconds since 1970-01-01; those of the second before it for a leap second. -/
  millis : Int
  leap : Bool
  deriving DecidableEq

namespace Instant

/-- The instant a number of milliseconds after 1970-01-01. -/
def ofMillis (ms : Int) : Instant := ⟨ms, false⟩

/-- Milliseconds since 1970-01-01; a leap second falls on the second after it. -/
def epochMillis (t : Instant) : Int :=
  if t.leap then t.millis + 1000 else t.millis

/-- Milliseconds since 0000-01-01, if the instant lies in the years 0 to 9999. -/
def sinceYearZero? (t : Instant) : Option Nat :=
  let ms := t.millis + epochDay * dayMillis
  if 0 ≤ ms ∧ ms < daysBeforeYear 10000 * dayMillis then some ms.toNat else none

end Instant

/-- The last `width` decimal digits of a number, with leading zeros. -/
def fixedDigits : (width : Nat) → Nat → List Char
  | 0, _ => []
  | width + 1, n => fixedDigits width (n / 10) ++ [Char.ofNat (0x30 + n % 10)]

theorem fixedDigits_length (width n : Nat) : (fixedDigits width n).length = width := by
  induction width generalizing n with
  | zero => rfl
  | succ w ih => simp [fixedDigits, ih]

/-- The canonical text of the millisecond `ms` after 0000-01-01, `YYYY-MM-DDTHH:MM:SS.mmmZ`, or of
    the leap second after it. -/
def canonicalText (ms : Nat) (leap : Bool) : List Char :=
  let date := Date.ofDays (ms / dayMillis)
  let inDay := ms % dayMillis
  let second := inDay / 1000 % 60 + if leap then 1 else 0
  fixedDigits 4 date.year ++ '-' :: fixedDigits 2 date.month ++ '-' :: fixedDigits 2 date.day ++
    'T' :: fixedDigits 2 (inDay / 3600000) ++ ':' :: fixedDigits 2 (inDay / 60000 % 60) ++
    ':' :: fixedDigits 2 second ++ '.' :: fixedDigits 3 (inDay % 1000) ++ ['Z']

end Logbook.Time
