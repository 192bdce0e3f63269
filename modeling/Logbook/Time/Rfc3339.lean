import Logbook.Time.Calendar
import Logbook.Number.Numeral

/-!
# RFC 3339 times

A date and a time of day with an offset from UTC. The date and the time may be joined by `T`, `t`
or a space, the offset is `Z`, `z` or a signed `hh:mm`, and the minus sign may be U+2212. A
fraction of a second may have any number of digits and is cut to milliseconds. The sixtieth second
of any minute is a leap second.

Results:

* `millisOf_lt`: a fraction is less than a second.
-/

namespace Logbook.Time.Rfc3339

open Logbook.Number (isDigit digitValue natOfDigits spanDigits)

/-- Exactly `width` digits at the front as a number, and what follows them. -/
def digits? (width : Nat) (cs : List Char) : Option (Nat × List Char) :=
  let ds := cs.take width
  if ds.length = width ∧ ds.all isDigit then some (natOfDigits ds, cs.drop width) else none

/-- What follows the character `c` at the front. -/
def expect? (c : Char) : List Char → Option (List Char)
  | [] => none
  | d :: rest => if d = c then some rest else none

/-- What follows the mark between date and time. -/
def joint? : List Char → Option (List Char)
  | [] => none
  | c :: rest => if c = 'T' ∨ c = 't' ∨ c = ' ' then some rest else none

/-- The milliseconds of a fraction of a second, by its digits. -/
def millisOf (ds : List Char) : Nat :=
  natOfDigits ((ds ++ ['0', '0', '0']).take 3)

/-- The milliseconds of a fraction at the front, if a point is there, and what follows it; `none`
    if the point has no digits. -/
def fraction? : List Char → Option (Nat × List Char)
  | '.' :: r =>
    match spanDigits r with
    | ([], _) => none
    | (ds, rest) => some (millisOf ds, rest)
  | cs => some (0, cs)

/-- The sign of an offset, minus as `true`, and what follows it. -/
def offsetSign? : List Char → Option (Bool × List Char)
  | [] => none
  | c :: rest =>
    if c = '+' then some (false, rest)
    else if c = '-' ∨ c = '\u2212' then some (true, rest)
    else none

/-- The offset at the front in minutes east of UTC, and what follows it. -/
def offset? (cs : List Char) : Option (Int × List Char) :=
  match cs with
  | 'Z' :: rest => some (0, rest)
  | 'z' :: rest => some (0, rest)
  | _ => do
    let (negative, r) ← offsetSign? cs
    let (hours, r) ← digits? 2 r
    let r ← expect? ':' r
    let (minutes, r) ← digits? 2 r
    if hours < 24 ∧ minutes < 60 then
      let total : Int := hours * 60 + minutes
      some (if negative then -total else total, r)
    else none

/-- The date at the front, and what follows it. -/
def date? (cs : List Char) : Option (Date × List Char) := do
  let (year, r) ← digits? 4 cs
  let r ← expect? '-' r
  let (month, r) ← digits? 2 r
  let r ← expect? '-' r
  let (day, r) ← digits? 2 r
  if (⟨year, month, day⟩ : Date).isValid then some (⟨year, month, day⟩, r) else none

/-- A time of day. -/
structure Clock where
  hour : Nat
  minute : Nat
  second : Nat
  millis : Nat

namespace Clock

/-- Milliseconds since midnight; those of the second before it for a leap second. -/
def sinceMidnight (c : Clock) : Nat :=
  ((c.hour * 60 + c.minute) * 60 + min c.second 59) * 1000 + c.millis

end Clock

/-- The time of day at the front, and what follows it. -/
def clock? (cs : List Char) : Option (Clock × List Char) := do
  let (hour, r) ← digits? 2 cs
  let r ← expect? ':' r
  let (minute, r) ← digits? 2 r
  let r ← expect? ':' r
  let (second, r) ← digits? 2 r
  let (millis, r) ← fraction? r
  if hour < 24 ∧ minute < 60 ∧ second ≤ 60 then some (⟨hour, minute, second, millis⟩, r) else none

/-- The instant that a text spells. -/
def read? (cs : List Char) : Option Instant := do
  let (date, r) ← date? cs
  let r ← joint? r
  let (clock, r) ← clock? r
  let (offset, r) ← offset? r
  if r.isEmpty then
    some {
      millis := ((date.toDays : Int) - epochDay) * dayMillis + clock.sinceMidnight - offset * 60000
      leap := clock.second == 60 }
  else none

theorem extendBy_lt {n k : Nat} {ds : List Char} (hd : ∀ c ∈ ds, isDigit c = true) (hn : n < k) :
    Number.extendBy n ds < k * Number.tenPow ds.length := by
  induction ds generalizing n k with
  | nil => simpa [Number.extendBy, Number.tenPow] using hn
  | cons c rest ih =>
    have hc := hd c (by simp)
    simp only [isDigit, Bool.and_eq_true, decide_eq_true_eq] at hc
    have hlt : n * 10 + digitValue c < k * 10 := by
      simp only [digitValue]
      omega
    have := ih (fun d hm => hd d (by simp [hm])) hlt
    rw [Nat.mul_assoc] at this
    simpa [Number.extendBy, Number.tenPow_succ, Nat.mul_comm, Nat.mul_left_comm] using this

theorem millisOf_lt {ds : List Char} (h : ∀ c ∈ ds, isDigit c = true) : millisOf ds < 1000 := by
  have hd : ∀ c ∈ (ds ++ ['0', '0', '0']).take 3, isDigit c = true := by
    intro c hc
    have hm := List.mem_of_mem_take hc
    rw [List.mem_append] at hm
    rcases hm with hm | hm
    · exact h c hm
    · simp only [List.mem_cons, List.not_mem_nil, or_false, or_self] at hm
      subst hm
      decide
  have hl : ((ds ++ ['0', '0', '0']).take 3).length = 3 := by simp
  have := extendBy_lt (n := 0) (k := 1) hd (by decide)
  rw [hl] at this
  exact this

end Logbook.Time.Rfc3339
