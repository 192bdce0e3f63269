import Logbook.Proofs.Time.Written

/-!
# Canonical timestamps

The dates of the calendar can be counted out, one after another, from the first day of the year 0.
The canonical timestamp of a millisecond of the years 0 to 9999 has the date that is reached so, and
the time of that day. It is read back as the same millisecond, and timestamps are ordered as their
milliseconds are. Any other millisecond has the mark, which comes after them all.

Results:

* `Date.ofDays_toDays`: a date of the calendar is the date of its own day.
* `Date.ofDays_eq_iterate`: the date of a day is found by counting.
* `Timestamp.instant?_ofMillis`: a canonical timestamp is read back.
* `Timestamp.ofMillis_canonical`: canonical timestamps are the milliseconds, in their order.
-/

namespace Logbook.Time

/-! ## Counting days -/

theorem total_take_succ (months : List Nat) (n : Nat) :
    total (months.take (n + 1)) = total (months.take n) + months.getD n 0 := by
  induction months generalizing n with
  | nil => simp [total]
  | cons month rest ih =>
    cases n with
    | zero => simp [total]
    | succ n =>
      rw [List.take_succ_cons, List.take_succ_cons, total, total, ih, List.getD_cons_succ,
        Nat.add_assoc]

theorem monthLength_pos (leap : Bool) {n : Nat} (h : n < 12) :
    1 ≤ (monthLengths leap).getD n 0 := by
  have hall : ∀ leap, ∀ n < 12, 1 ≤ (monthLengths leap).getD n 0 := by decide
  exact hall leap n h

namespace Date

theorem toDays_injective {d e : Date} (hd : d.isValid = true) (he : e.isValid = true)
    (h : d.toDays = e.toDays) : d = e := by
  rcases before_or_eq_or_before d e with hbefore | heq | hafter
  · exact absurd h (Nat.ne_of_lt (toDays_lt hd hbefore))
  · exact heq
  · exact absurd h.symm (Nat.ne_of_lt (toDays_lt he hafter))

/-- **A date of the calendar is the date of its own day.** -/
theorem ofDays_toDays {d : Date} (h : d.isValid = true) : ofDays d.toDays = d :=
  toDays_injective (isValid_ofDays _) h (toDays_ofDays _)

/-- The first day of the year 0. -/
def first : Date := ⟨0, 1, 1⟩

/-- The date of the next day: in the same month, or the first of the next month, or the first of the
    next year. -/
def next (d : Date) : Date :=
  if d.day < (monthLengths (isLeap d.year)).getD (d.month - 1) 0 then ⟨d.year, d.month, d.day + 1⟩
  else if d.month < 12 then ⟨d.year, d.month + 1, 1⟩
  else ⟨d.year + 1, 1, 1⟩

/-- The next date is the date of the next day. -/
theorem next_spec {d : Date} (h : d.isValid = true) :
    d.next.isValid = true ∧ d.next.toDays = d.toDays + 1 := by
  obtain ⟨⟨hmonth, htwelve⟩, hday, hlast⟩ := isValid_iff.1 h
  have hmonths := total_take_succ (monthLengths (isLeap d.year)) (d.month - 1)
  rw [Nat.sub_add_cancel hmonth] at hmonths
  unfold next
  split
  · rename_i hinside
    refine ⟨isValid_iff.2 ⟨⟨hmonth, htwelve⟩, Nat.succ_pos _, hinside⟩, ?_⟩
    simp only [toDays]
    omega
  · split
    · rename_i hyear
      refine ⟨isValid_iff.2 ⟨⟨Nat.succ_pos _, hyear⟩, Nat.le_refl 1, monthLength_pos _ hyear⟩, ?_⟩
      simp only [toDays, Nat.add_sub_cancel, hmonths]
      omega
    -- All months of the year are over, so the next year begins.
    · have hall : total ((monthLengths (isLeap d.year)).take d.month) =
          total (monthLengths (isLeap d.year)) := by
        have hdecember : d.month = 12 := by omega
        rw [hdecember]
        rfl
      have hnone : total ((monthLengths (isLeap (d.year + 1))).take (1 - 1)) = 0 := rfl
      have htwelve' : 1 ≤ 12 := by decide
      refine ⟨isValid_iff.2 ⟨⟨Nat.le_refl 1, htwelve'⟩, Nat.le_refl 1,
        monthLength_pos _ (Nat.succ_pos 11)⟩, ?_⟩
      simp only [toDays, daysBeforeYear_succ, hnone]
      omega

theorem ofDays_succ (days : Nat) : ofDays (days + 1) = (ofDays days).next := by
  obtain ⟨hvalid, hdays⟩ := next_spec (isValid_ofDays days)
  rw [toDays_ofDays] at hdays
  rw [← hdays, ofDays_toDays hvalid]

/-- **The date of a day is found by counting** from the first day of the year 0. -/
theorem ofDays_eq_iterate (days : Nat) : ofDays days = next^[days] first := by
  induction days with
  | zero => decide
  | succ days ih => rw [ofDays_succ, ih, Function.iterate_succ_apply']

end Date

/-! ## Canonical texts -/

open Rfc3339 (Written)
open Instant (InYears firstMilli)

/-- The canonical form `YYYY-MM-DDTHH:MM:SS.mmmZ` of a time of day, so many days after the first of
    the year 0. -/
def canonicalForm (days hour minute second milli : Nat) : Written :=
  ⟨Date.next^[days] Date.first, 'T', hour, minute, second, some (fixedDigits 3 milli), .utc 'Z'⟩

theorem canonicalText_length (ms : Nat) : (canonicalText ms false).length = 24 := by
  simp [canonicalText, fixedDigits_length]

/-- The canonical text of a millisecond is the canonical form of the day and the time of day that it
    falls on. -/
theorem ofMillis_eq_canonicalForm {m : Int} (h : InYears m) :
    ∃ days hour minute second milli : Nat, milli < 1000 ∧
      m = firstMilli + ((((days * 24 + hour) * 60 + minute) * 60 + second) * 1000 + milli : Nat) ∧
      Written.ofMillis m = canonicalForm days hour minute second milli := by
  have hday : dayMillis = 86400000 := rfl
  have hsum : m = firstMilli + ((m - firstMilli).toNat : Nat) := by
    rw [InYears] at h
    omega
  generalize hms : (m - firstMilli).toNat = ms at hsum
  refine ⟨ms / dayMillis, ms % dayMillis / 3600000, ms % dayMillis / 60000 % 60,
    ms % dayMillis / 1000 % 60, ms % dayMillis % 1000, Nat.mod_lt _ (by decide), ?_, ?_⟩
  · rw [hsum, hday]
    omega
  · rw [Written.ofMillis, canonicalForm, hms, Date.ofDays_eq_iterate]

end Logbook.Time

namespace Logbook.Timestamp

open Time (canonicalForm)
open Time.Instant (InYears firstMilli)
open Time.Rfc3339 (Written)

theorem valid_ofMillis {m : Int} (h : InYears m) : (Written.ofMillis m).Valid := by
  obtain ⟨year, date, joint, hour, minute, -, fraction, offset⟩ := Written.admitted_ofMillis h
  exact ⟨year, date, joint, hour, minute, Nat.mod_lt _ (by decide), fraction, offset⟩

/-- **A canonical timestamp is read back** as its millisecond. -/
theorem instant?_ofMillis {m : Int} (h : InYears m) :
    (ofMillis m).instant? = some (.ofMillis m) := by
  rw [Written.timestamp_ofMillis h, instant?, String.toList_ofList,
    Time.Rfc3339.read?_chars (valid_ofMillis h), Written.floor_instant_ofMillis h]

theorem length_ofMillis {m : Int} (h : InYears m) : (ofMillis m).text.length = 24 := by
  rw [ofMillis_of_inYears h, String.length_ofList, Time.canonicalText_length]

/-- **Canonical timestamps are the milliseconds of the years 0 to 9999, in their order.** Each such
millisecond has a timestamp of 24 characters, the canonical form of its day, counted from the first
of the year 0, and of its time of day; it is read back as the same millisecond; it comes before the
timestamp of every later one, and before the mark. Every other millisecond has the mark. -/
theorem ofMillis_canonical (m : Int) :
    (InYears m →
      (∃ days hour minute second milli : Nat, milli < 1000 ∧
        (canonicalForm days hour minute second milli).Valid ∧
        m = firstMilli +
          ((((days * 24 + hour) * 60 + minute) * 60 + second) * 1000 + milli : Nat) ∧
        (ofMillis m).text =
          String.ofList (canonicalForm days hour minute second milli).chars) ∧
      (ofMillis m).text.length = 24 ∧
      (ofMillis m).instant? = some (.ofMillis m) ∧
      (∀ n, InYears n → (ofMillis m < ofMillis n ↔ m < n)) ∧
      ofMillis m < invalid) ∧
    (¬InYears m → ofMillis m = invalid) := by
  refine ⟨fun h => ⟨?_, length_ofMillis h, instant?_ofMillis h, fun n hn => ofMillis_lt_iff h hn,
    ofMillis_lt_invalid h⟩, ofMillis_of_not_inYears⟩
  obtain ⟨days, hour, minute, second, milli, hmilli, hm, hform⟩ :=
    Time.ofMillis_eq_canonicalForm h
  refine ⟨days, hour, minute, second, milli, hmilli, hform ▸ valid_ofMillis h, hm, ?_⟩
  rw [← hform, Written.timestamp_ofMillis h]

/-- The last millisecond before 1970 comes before a leap day, and the first one after the year 9999
    has the mark. -/
theorem ofMillis_canonical_before_epoch :
    (InYears (-1) ∧ InYears 951782400000) ∧
      (ofMillis (-1)).text = "1969-12-31T23:59:59.999Z" ∧
      (ofMillis 951782400000).text = "2000-02-29T00:00:00.000Z" ∧
      (ofMillis (-1)).text.length = 24 ∧
      (ofMillis (-1)).instant? = some (.ofMillis (-1)) ∧
      ofMillis (-1) < ofMillis 951782400000 ∧ ofMillis 951782400000 < invalid ∧
      ¬InYears 253402300800000 ∧ ofMillis 253402300800000 = invalid := by
  have hfirst : InYears (-1) := by decide
  have hleap : InYears 951782400000 := by decide
  have hafter : ¬InYears 253402300800000 := by decide
  obtain ⟨-, hlength, hread, horder, -⟩ := (ofMillis_canonical (-1)).1 hfirst
  obtain ⟨-, -, -, -, hmark⟩ := (ofMillis_canonical 951782400000).1 hleap
  exact ⟨⟨hfirst, hleap⟩, by decide, by decide, hlength, hread, (horder _ hleap).2 (by decide),
    hmark, hafter, (ofMillis_canonical _).2 hafter⟩

end Logbook.Timestamp
