import Logbook.Proofs.Time.Calendar
import Logbook.Time.Timestamp
import Mathlib.Data.List.Lex

/-!
# Timestamps in the order of time

The canonical text of an instant writes its year, month, day, hour, minute, second and millisecond
in this order, each in its fixed width. So the texts of two instants compare as their numbers do,
from the year down, and that is the order of the instants themselves. An instant before the year 0
or after the year 9999 has no such text: its timestamp is the mark, which comes after every text.

Results:

* `fixedDigits_append_lt`: fixed-width numbers compare before what follows them.
* `canonicalText_lt`: a later instant has the greater text.
* `Timestamp.ofMillis_lt_iff`, `ofMillis_le_iff`: timestamps of the four-digit years are ordered as
  their instants.
* `Timestamp.ofMillis_lt_invalid`: the mark comes after them all.
-/

namespace Logbook.Time

/-! ## Numbers in fixed width -/

theorem append_lt_append {a b : List Char} (h : a < b) (hlen : a.length = b.length)
    (x y : List Char) : a ++ x < b ++ y := by
  induction a generalizing b with
  | nil =>
    rw [List.eq_nil_of_length_eq_zero hlen.symm] at h
    exact absurd h (List.not_lt_nil _)
  | cons c a ih =>
    cases b with
    | nil => exact absurd h (List.not_lt_nil _)
    | cons d b =>
      rw [List.cons_append, List.cons_append, List.cons_lt_cons_iff]
      rcases List.cons_lt_cons_iff.1 h with hc | ⟨hc, hrest⟩
      · exact Or.inl hc
      · exact Or.inr ⟨hc, ih hrest (by simpa using hlen)⟩

theorem digit_lt : ∀ n < 10, ∀ m < 10, n < m →
    Char.ofNat (0x30 + n) < Char.ofNat (0x30 + m) := by
  decide

/-- A greater number of the same width has the greater digits. -/
theorem fixedDigits_lt {width n m : Nat} (h : n < m) (hm : m < 10 ^ width) :
    fixedDigits width n < fixedDigits width m := by
  induction width generalizing n m with
  | zero =>
    rw [Nat.pow_zero] at hm
    omega
  | succ width ih =>
    rw [Nat.pow_succ] at hm
    rw [fixedDigits, fixedDigits]
    by_cases htens : n / 10 = m / 10
    · rw [htens]
      apply List.append_left_lt
      rw [List.cons_lt_cons_iff]
      exact Or.inl (digit_lt _ (by omega) _ (by omega) (by omega))
    · apply append_lt_append
      · exact ih (by omega) (by omega)
      · rw [fixedDigits_length, fixedDigits_length]

/-- Texts that begin with numbers of one width and the same mark compare by the numbers, and by what
    follows if these are equal. -/
theorem fixedDigits_append_lt {width n m : Nat} {mark : Char} {x y : List Char}
    (hm : m < 10 ^ width) (h : n < m ∨ n = m ∧ x < y) :
    fixedDigits width n ++ mark :: x < fixedDigits width m ++ mark :: y := by
  rcases h with h | ⟨rfl, h⟩
  · apply append_lt_append (fixedDigits_lt h hm)
    rw [fixedDigits_length, fixedDigits_length]
  · apply List.append_left_lt
    exact List.Lex.cons h

/-! ## Canonical texts -/

/-- The date in a canonical text. -/
def dateText (d : Date) : List Char :=
  fixedDigits 4 d.year ++ '-' :: (fixedDigits 2 d.month ++ '-' :: fixedDigits 2 d.day)

/-- The time of day in a canonical text, by the milliseconds since midnight. -/
def clockText (inDay : Nat) : List Char :=
  fixedDigits 2 (inDay / 3600000) ++ ':' :: (fixedDigits 2 (inDay / 60000 % 60) ++
    ':' :: (fixedDigits 2 (inDay / 1000 % 60) ++ '.' :: (fixedDigits 3 (inDay % 1000) ++ ['Z'])))

theorem canonicalText_eq (ms : Nat) : canonicalText ms false =
    dateText (Date.ofDays (ms / dayMillis)) ++ 'T' :: clockText (ms % dayMillis) := by
  simp [canonicalText, dateText, clockText]

theorem dateText_length (d : Date) : (dateText d).length = 10 := by
  simp [dateText, fixedDigits_length]

theorem dateText_lt {d e : Date} (h : d.Before e) (hyear : e.year < 10000) (hmonth : e.month < 100)
    (hday : e.day < 100) : dateText d < dateText e := by
  apply fixedDigits_append_lt (by omega)
  refine h.imp_right (And.imp_right fun h => ?_)
  apply fixedDigits_append_lt (by omega)
  refine h.imp_right (And.imp_right fun h => ?_)
  exact fixedDigits_lt h (by omega)

theorem clockText_lt {i j : Nat} (h : i < j) (hj : j < dayMillis) : clockText i < clockText j := by
  have hhours : j / 3600000 < 10 ^ 2 := by
    have hday : dayMillis = 86400000 := rfl
    omega
  have hfields : i / 3600000 < j / 3600000 ∨ i / 3600000 = j / 3600000 ∧
      (i / 60000 % 60 < j / 60000 % 60 ∨ i / 60000 % 60 = j / 60000 % 60 ∧
        (i / 1000 % 60 < j / 1000 % 60 ∨ i / 1000 % 60 = j / 1000 % 60 ∧
          i % 1000 < j % 1000)) := by
    omega
  have hsixty : ∀ n, n % 60 < 10 ^ 2 := by
    intro n
    omega
  apply fixedDigits_append_lt hhours
  refine hfields.imp_right (And.imp_right fun h => ?_)
  apply fixedDigits_append_lt (hsixty _)
  refine h.imp_right (And.imp_right fun h => ?_)
  apply fixedDigits_append_lt (hsixty _)
  refine h.imp_right (And.imp_right fun h => ?_)
  exact fixedDigits_append_lt (Nat.mod_lt _ (by decide)) (Or.inl h)

/-- **A later instant has the greater canonical text.** -/
theorem canonicalText_lt {a b : Nat} (h : a < b) (hb : b < daysBeforeYear 10000 * dayMillis) :
    canonicalText a false < canonicalText b false := by
  have hdays := Nat.div_le_div_right (c := dayMillis) (Nat.le_of_lt h)
  rw [canonicalText_eq, canonicalText_eq]
  by_cases hsame : a / dayMillis = b / dayMillis
  · have ha := Nat.div_add_mod a dayMillis
    have hb := Nat.div_add_mod b dayMillis
    rw [hsame] at ha ⊢
    apply List.append_left_lt
    apply List.Lex.cons
    exact clockText_lt (by omega) (Nat.mod_lt b (by decide))
  · have hyear : (Date.ofDays (b / dayMillis)).year < 10000 := by
      apply yearOf_lt
      exact Nat.div_lt_of_lt_mul (by rwa [Nat.mul_comm])
    obtain ⟨hmonth, hday⟩ := Date.ofDays_lt (b / dayMillis)
    apply append_lt_append
    · exact dateText_lt (Date.ofDays_before (by omega)) hyear hmonth hday
    · rw [dateText_length, dateText_length]

/-- A canonical text begins with a digit, which comes before any letter. -/
theorem dateText_append_lt (d : Date) (x y : List Char) : dateText d ++ x < 'I' :: y := by
  have hdigit : ∀ n < 10, Char.ofNat (0x30 + n) < 'I' := by decide
  simp only [dateText, fixedDigits, List.nil_append, List.cons_append]
  apply List.Lex.rel
  exact hdigit _ (Nat.mod_lt _ (by decide))

namespace Instant

/-- The first millisecond of the year 0. -/
def firstMilli : Int := -62167219200000

/-- The last millisecond of the year 9999. -/
def lastMilli : Int := 253402300799999

/-- Whether a millisecond lies in the years 0 to 9999. -/
def InYears (ms : Int) : Prop := firstMilli ≤ ms ∧ ms ≤ lastMilli

instance (ms : Int) : Decidable (InYears ms) :=
  inferInstanceAs (Decidable (_ ∧ _))

theorem sinceYearZero?_ofMillis (ms : Int) : (ofMillis ms).sinceYearZero? =
    if InYears ms then some (ms - firstMilli).toNat else none := by
  have hsum : (ofMillis ms).millis + epochDay * dayMillis = ms - firstMilli := by
    have hepoch : (epochDay : Int) * dayMillis = 62167219200000 := rfl
    rw [hepoch, firstMilli]
    show ms + 62167219200000 = ms - -62167219200000
    omega
  have hrange : (0 ≤ ms - firstMilli ∧ ms - firstMilli < daysBeforeYear 10000 * dayMillis) ↔
      InYears ms := by
    have hyears : (daysBeforeYear 10000 : Int) * dayMillis = 315569520000000 := rfl
    rw [hyears, InYears, firstMilli, lastMilli]
    omega
  simp only [sinceYearZero?, hsum, hrange]

end Instant

end Logbook.Time

namespace Logbook.Timestamp

open Time (canonicalText canonicalText_lt)
open Time.Instant (InYears firstMilli lastMilli sinceYearZero?_ofMillis)

variable {a b : Int}

theorem ofMillis_of_inYears (h : InYears a) :
    ofMillis a = ⟨String.ofList (canonicalText (a - firstMilli).toNat false)⟩ := by
  rw [ofMillis, ofInstant, sinceYearZero?_ofMillis, if_pos h]
  rfl

theorem ofMillis_of_not_inYears (h : ¬ InYears a) : ofMillis a = invalid := by
  rw [ofMillis, ofInstant, sinceYearZero?_ofMillis, if_neg h]

theorem ofMillis_lt (h : a < b) (ha : InYears a) (hb : InYears b) : ofMillis a < ofMillis b := by
  have hlast : Time.daysBeforeYear 10000 * Time.dayMillis = 315569520000000 := rfl
  rw [ofMillis_of_inYears ha, ofMillis_of_inYears hb, lt_iff]
  show (String.ofList _).toList < (String.ofList _).toList
  rw [String.toList_ofList, String.toList_ofList]
  rw [InYears, firstMilli, lastMilli] at ha hb
  apply canonicalText_lt
  · simp only [firstMilli]
    omega
  · rw [hlast, firstMilli]
    omega

/-- **Timestamps of the years 0 to 9999 are ordered as their instants.** -/
theorem ofMillis_lt_iff (ha : InYears a) (hb : InYears b) : ofMillis a < ofMillis b ↔ a < b := by
  constructor
  · intro h
    rcases Int.lt_trichotomy a b with hlt | heq | hgt
    · exact hlt
    · rw [heq] at h
      exact absurd h (String.lt_irrefl _)
    · exact absurd (ofMillis_lt hgt hb ha) (String.lt_asymm h)
  · intro h
    exact ofMillis_lt h ha hb

theorem ofMillis_le_iff (ha : InYears a) (hb : InYears b) : ofMillis a ≤ ofMillis b ↔ a ≤ b := by
  rw [← Int.not_lt, ← ofMillis_lt_iff hb ha, ← not_le, Classical.not_not]

/-- **The mark comes after every timestamp of the years 0 to 9999.** -/
theorem ofMillis_lt_invalid (h : InYears a) : ofMillis a < invalid := by
  rw [ofMillis_of_inYears h, lt_iff]
  show (String.ofList _).toList < "Invalid Date".toList
  rw [String.toList_ofList, Time.canonicalText_eq]
  exact Time.dateText_append_lt _ _ _

end Logbook.Timestamp
