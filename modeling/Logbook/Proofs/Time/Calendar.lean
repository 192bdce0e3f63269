import Logbook.Time.Calendar
import Mathlib.Algebra.Group.Nat.Defs
import Mathlib.Tactic.ByContra

/-!
# Days and dates in order

Days are counted from the first day of the year 0, dates are numbered by year, month and day. Both
orders are the same: a later day has the later date, and a date that comes before another one has
the lesser day.

Results:

* `Date.ofDays_before`: a later day has the later date.
* `Date.toDays_lt`: a later date has the later day.
* `Date.isValid_ofDays`: every day has a date of the calendar.
-/

namespace Logbook.Time

/-! ## Years -/

/-- A year has a leap day for being a multiple of 4, none for one of 100, one for one of 400. -/
theorem leapDay_eq (year : Nat) :
    (if isLeap year then 1 else 0) + (if year % 100 = 0 then 1 else 0) =
      (if year % 4 = 0 then 1 else 0) + (if year % 400 = 0 then 1 else 0) := by
  have hfour : year % 100 = 0 → year % 4 = 0 := by omega
  have hhundred : year % 400 = 0 → year % 100 = 0 := by omega
  by_cases h100 : year % 100 = 0
  · by_cases h400 : year % 400 = 0 <;> simp [isLeap, h100, h400, hfour h100]
  · have h400 : ¬ year % 400 = 0 := fun h => h100 (hhundred h)
    by_cases h4 : year % 4 = 0 <;> simp [isLeap, h4, h100, h400]

theorem daysBeforeYear_succ (year : Nat) :
    daysBeforeYear (year + 1) = daysBeforeYear year + total (monthLengths (isLeap year)) := by
  have hfour : (year + 1 + 3) / 4 = (year + 3) / 4 + (if year % 4 = 0 then 1 else 0) := by
    split <;> omega
  have hhundred : (year + 1 + 99) / 100 =
      (year + 99) / 100 + (if year % 100 = 0 then 1 else 0) := by
    split <;> omega
  have hfourHundred : (year + 1 + 399) / 400 =
      (year + 399) / 400 + (if year % 400 = 0 then 1 else 0) := by
    split <;> omega
  have hmonths : total (monthLengths (isLeap year)) = 365 + (if isLeap year then 1 else 0) := by
    cases isLeap year <;> rfl
  have hsubtracted : (year + 99) / 100 ≤ 365 * year := by omega
  have hleap := leapDay_eq year
  rw [hmonths, daysBeforeYear, daysBeforeYear, hfour, hhundred, hfourHundred]
  -- From here on the quotients and the leap days are numbers of their own.
  generalize (year + 3) / 4 = fours, (year + 99) / 100 = hundreds,
    (year + 399) / 400 = fourHundreds at hsubtracted ⊢
  clear hfour hhundred hfourHundred
  omega

theorem daysBeforeYear_mono {a b : Nat} (h : a ≤ b) : daysBeforeYear a ≤ daysBeforeYear b := by
  induction h with
  | refl => exact Nat.le_refl _
  | step _ ih =>
    rw [daysBeforeYear_succ]
    omega

/-- A later day lies in no earlier year. -/
theorem yearOf_mono {a b : Nat} (h : a ≤ b) : yearOf a ≤ yearOf b := by
  by_contra hyears
  have hstart := daysBeforeYear_yearOf_le a
  have hend := lt_daysBeforeYear_yearOf b
  have := daysBeforeYear_mono (show yearOf b + 1 ≤ yearOf a by omega)
  omega

theorem yearOf_lt {day year : Nat} (h : day < daysBeforeYear year) : yearOf day < year := by
  by_contra hyear
  have hstart := daysBeforeYear_yearOf_le day
  have := daysBeforeYear_mono (show year ≤ yearOf day by omega)
  omega

/-! ## Months -/

/-- A later day of a year lies in no earlier month, and later in the same one. -/
theorem monthAndDay_lt (months : List Nat) {a b : Nat} (h : a < b) :
    (monthAndDay months a).1 < (monthAndDay months b).1 ∨
      (monthAndDay months a).1 = (monthAndDay months b).1 ∧
        (monthAndDay months a).2 < (monthAndDay months b).2 := by
  induction months generalizing a b with
  | nil => exact Or.inr ⟨rfl, h⟩
  | cons m rest ih =>
    by_cases ha : a < m
    · by_cases hb : b < m
      · rw [monthAndDay, monthAndDay, if_pos ha, if_pos hb]
        exact Or.inr ⟨rfl, h⟩
      · rw [monthAndDay, monthAndDay, if_pos ha, if_neg hb]
        exact Or.inl (Nat.succ_pos _)
    · have hb : ¬ b < m := by omega
      have hrest := ih (show a - m < b - m by omega)
      simp only [monthAndDay, if_neg ha, if_neg hb]
      omega

theorem monthAndDay_lt_getD {months : List Nat} {day : Nat} (h : day < total months) :
    (monthAndDay months day).2 < months.getD (monthAndDay months day).1 0 := by
  induction months generalizing day with
  | nil => exact absurd h (Nat.not_lt_zero day)
  | cons m rest ih =>
    rw [total] at h
    by_cases hday : day < m
    · simp only [monthAndDay, if_pos hday]
      exact hday
    · simp only [monthAndDay, if_neg hday]
      exact ih (by omega)

/-- The days before a month and those in it are days before every later month. -/
theorem total_take_add_getD_le (months : List Nat) {m n : Nat} (h : m < n) :
    total (months.take m) + months.getD m 0 ≤ total (months.take n) := by
  induction months generalizing m n with
  | nil => simp [total]
  | cons month rest ih =>
    obtain ⟨n, rfl⟩ : ∃ k, n = k + 1 := ⟨n - 1, by omega⟩
    rw [List.take_succ_cons, total]
    cases m with
    | zero =>
      show 0 + month ≤ month + total (rest.take n)
      omega
    | succ m =>
      have := ih (show m < n by omega)
      rw [List.take_succ_cons, total, List.getD_cons_succ]
      omega

/-! ## Dates -/

namespace Date

/-- The first date comes before the second one. -/
def Before (d e : Date) : Prop :=
  d.year < e.year ∨ d.year = e.year ∧ (d.month < e.month ∨ d.month = e.month ∧ d.day < e.day)

/-- **A later day has the later date.** -/
theorem ofDays_before {a b : Nat} (h : a < b) : Before (ofDays a) (ofDays b) := by
  have hyears := yearOf_mono (Nat.le_of_lt h)
  have hstart := daysBeforeYear_yearOf_le a
  by_cases hyear : yearOf a = yearOf b
  · right
    refine ⟨hyear, ?_⟩
    have hdays : a - daysBeforeYear (yearOf a) < b - daysBeforeYear (yearOf a) := by omega
    have := monthAndDay_lt (monthLengths (isLeap (yearOf a))) hdays
    simp only [ofDays, ← hyear]
    omega
  · left
    show yearOf a < yearOf b
    omega

theorem isValid_iff {d : Date} : d.isValid = true ↔
    (1 ≤ d.month ∧ d.month ≤ 12) ∧ 1 ≤ d.day ∧
      d.day ≤ (monthLengths (isLeap d.year)).getD (d.month - 1) 0 := by
  simp only [isValid, Bool.and_eq_true, decide_eq_true_eq, and_assoc]

theorem lt_of_isValid {d : Date} (h : d.isValid = true) : d.month < 100 ∧ d.day < 100 := by
  have hlongest : ∀ leap, ∀ n < 12, (monthLengths leap).getD n 0 ≤ 31 := by decide
  obtain ⟨hmonth, hday⟩ := isValid_iff.1 h
  have := hlongest (isLeap d.year) (d.month - 1) (by omega)
  omega

/-- **Every day has a date of the calendar.** -/
theorem isValid_ofDays (days : Nat) : (ofDays days).isValid = true := by
  have hinside : days - daysBeforeYear (yearOf days) <
      total (monthLengths (isLeap (yearOf days))) := by
    have hstart := daysBeforeYear_yearOf_le days
    have hend := lt_daysBeforeYear_yearOf days
    rw [daysBeforeYear_succ] at hend
    omega
  have hday := monthAndDay_lt_getD hinside
  have hmonth : (monthAndDay (monthLengths (isLeap (yearOf days)))
      (days - daysBeforeYear (yearOf days))).1 < 12 := by
    by_contra hmonth
    rw [List.getD_eq_getElem?_getD,
      List.getElem?_eq_none (by simpa [monthLengths] using hmonth)] at hday
    exact absurd hday (Nat.not_lt_zero _)
  rw [isValid_iff]
  simp only [ofDays, Nat.add_sub_cancel]
  omega

theorem ofDays_lt (days : Nat) : (ofDays days).month < 100 ∧ (ofDays days).day < 100 :=
  lt_of_isValid (isValid_ofDays days)

/-- A date lies before the end of its month. -/
theorem toDays_lt_of_month_lt {d : Date} (h : d.isValid = true) {month : Nat}
    (hmonth : d.month < month) :
    d.toDays < daysBeforeYear d.year +
      total ((monthLengths (isLeap d.year)).take (month - 1)) := by
  obtain ⟨hmonths, hday⟩ := isValid_iff.1 h
  have := total_take_add_getD_le (monthLengths (isLeap d.year))
    (show d.month - 1 < month - 1 by omega)
  rw [toDays]
  omega

/-- **A later date has the later day.** -/
theorem toDays_lt {d e : Date} (hd : d.isValid = true) (h : d.Before e) : d.toDays < e.toDays := by
  rcases h with hyear | ⟨hyear, hmonth | ⟨hmonth, hday⟩⟩
  · have hmonths := (isValid_iff.1 hd).1
    have hend := toDays_lt_of_month_lt hd (show d.month < 13 by omega)
    have hall : total ((monthLengths (isLeap d.year)).take (13 - 1)) =
        total (monthLengths (isLeap d.year)) := rfl
    rw [hall, ← daysBeforeYear_succ] at hend
    have := daysBeforeYear_mono (show d.year + 1 ≤ e.year by omega)
    rw [toDays, toDays] at *
    omega
  · have := toDays_lt_of_month_lt hd hmonth
    rw [hyear] at this
    rw [toDays, toDays] at *
    omega
  · have hone := (isValid_iff.1 hd).2.1
    rw [toDays, toDays, hyear, hmonth]
    omega

theorem before_or_eq_or_before (d e : Date) : d.Before e ∨ d = e ∨ e.Before d := by
  obtain ⟨year, month, day⟩ := d
  obtain ⟨year', month', day'⟩ := e
  simp only [Before, Date.mk.injEq]
  omega

theorem not_before_of_before {d e : Date} (h : d.Before e) : ¬e.Before d := by
  unfold Before at *
  omega

theorem not_before_self (d : Date) : ¬d.Before d :=
  fun h => not_before_of_before h h

end Date

end Logbook.Time
