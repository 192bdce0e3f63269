import Logbook.Payload
import Logbook.Proofs.Number.Whole
import Logbook.Proofs.Time.Canonical

/-!
# Milliseconds as a number and as a text

A payload may give its time as a number of milliseconds, or as a text that begins with one. A whole
number is taken as it is, unless it needs all 64 bits; a text is read as a double. Up to `2^53` a
double is exact. From there on both ways are far beyond the year 9999 and give the mark, so nobody
sees how a larger number is rounded.

Results:

* `timestampOfReal_ofNat?`: the double nearest to a whole number has the timestamp of that number.
* `leadingNumber?_digits`: the number at the front of a text is found behind blanks, and ends where
  its characters do.
* `timestamp_of_digits`: a text that begins with a number has the timestamp of the number.
-/

namespace Logbook.Payload

open Number (Binary64 natText twoPow)
open Time.Instant (InYears lastMilli)

/-! ## Numbers -/

/-- Half of a number of milliseconds above `2^53` is beyond the year 9999. -/
theorem not_inYears_of_half {n : Nat} {m : Int} (h : twoPow 53 < n)
    (hm : ((n / 2 : Nat) : Int) ≤ m) : ¬InYears m := by
  have hpow : twoPow 53 = 9007199254740992 := rfl
  rw [InYears, lastMilli]
  omega

/-- **The double nearest to a whole number has the timestamp of that number.** -/
theorem timestampOfReal_ofNat? (n : Nat) :
    timestampOfReal (Binary64.ofNat? n) = .ofMillis n := by
  by_cases hle : n ≤ twoPow 53
  · obtain ⟨x, hx, hsign, hunits⟩ := Binary64.ofNat?_of_le hle
    have hbelow : x.magnitudeBelow Number.integerLimit = true := by
      rw [Binary64.magnitudeBelow, hunits, decide_eq_true_iff]
      exact Nat.mul_lt_mul_of_pos_right (Nat.lt_of_le_of_lt hle (by decide)) Number.one_pos
    rw [hx, timestampOfReal, if_pos hbelow, Binary64.truncate_of_units hsign hunits]
  · have hlarge : twoPow 53 < n := Nat.lt_of_not_le hle
    have hmark : Timestamp.ofMillis n = .invalid :=
      Timestamp.ofMillis_of_not_inYears (not_inYears_of_half hlarge (by omega))
    rw [hmark]
    cases hx : Binary64.ofNat? n with
    | none => rfl
    | some x =>
      have htruncated : Timestamp.ofMillis x.truncate = .invalid :=
        Timestamp.ofMillis_of_not_inYears
          (not_inYears_of_half hlarge (Binary64.half_le_truncate hx))
      rw [timestampOfReal, htruncated, ite_self]

theorem timestamp_integer (now : Int) {n : Nat} (fits : FitsWord n) :
    timestamp now (some (.number (.integer n fits))) = .ofMillis n := by
  rw [timestamp]
  split
  · rfl
  · rw [Int.toNat_natCast, timestampOfReal_ofNat?]

/-! ## Texts -/

/-- If a whole text is a numeral, it is the longest one at its front. -/
theorem longestNumeral?_of_liberal? {cs : List Char} {numeral : Number.Numeral} (hne : cs ≠ [])
    (h : Number.liberal? cs = some numeral) : longestNumeral? cs cs.length = some numeral := by
  obtain ⟨k, hk⟩ := Nat.exists_eq_succ_of_ne_zero (mt List.length_eq_zero_iff.1 hne)
  rw [hk, longestNumeral?, ← Nat.succ_eq_add_one, ← hk, List.take_length, h]

theorem not_blank_of_digit {c : Char} (h : Number.isDigit c = true) : Text.isBlank c = false := by
  rw [Number.isDigit, Bool.and_eq_true, decide_eq_true_iff, decide_eq_true_iff] at h
  rw [Text.isBlank, Bool.eq_false_iff]
  intro hblank
  simp only [Bool.or_eq_true, Bool.and_eq_true, decide_eq_true_iff, beq_iff_eq] at hblank
  omega

/-- Behind blanks the characters of a numeral are the digits that stand there, if what follows them
    does not go on like a numeral. -/
theorem takeWhile_trimStart {blanks digits rest : List Char}
    (hblanks : ∀ c ∈ blanks, Text.isBlank c = true)
    (hdigits : ∀ c ∈ digits, Number.isDigit c = true) (hne : digits ≠ [])
    (hrest : ∀ c, rest.head? = some c → isNumeralChar c = false) :
    (Text.trimStart (blanks ++ (digits ++ rest))).takeWhile isNumeralChar = digits := by
  have hnumeral : ∀ c ∈ digits, isNumeralChar c = true := by
    intro c hc
    simp [isNumeralChar, hdigits c hc]
  have htrim : Text.trimStart (blanks ++ (digits ++ rest)) = digits ++ rest := by
    refine Text.dropWhile_append hblanks fun c hc => ?_
    obtain ⟨d, tail, rfl⟩ := List.exists_cons_of_ne_nil hne
    obtain rfl := Option.some.inj hc
    exact not_blank_of_digit (hdigits d List.mem_cons_self)
  rw [htrim, Text.takeWhile_append hnumeral hrest]

/-- What may follow a number: a text that has no minus sign and does not begin like the rest of a
    numeral. -/
structure EndsNumber (x : String) : Prop where
  minus : '-' ∉ x.toList
  head (c : Char) : x.toList.head? = some c →
    Number.isDigit c = false ∧ c ∉ ['.', '+', 'e', 'E']

variable {n : Nat} {w x : String}

theorem EndsNumber.not_numeralChar (h : EndsNumber x) {c : Char}
    (hc : x.toList.head? = some c) : isNumeralChar c = false := by
  obtain ⟨hdigit, hmarks⟩ := h.head c hc
  have hminus : c ≠ '-' := by
    rintro rfl
    exact h.minus (List.mem_of_mem_head? hc)
  simp_all [isNumeralChar]

theorem toList_digits (n : Nat) (w x : String) :
    (w ++ String.ofList (natText n) ++ x).toList = w.toList ++ (natText n ++ x.toList) := by
  simp

/-- **The number at the front of a text** is the double nearest to it. -/
theorem leadingNumber?_digits (hn : n ≤ Number.maxWord)
    (hw : ∀ c ∈ w.toList, Text.isBlank c = true) (hx : EndsNumber x) :
    leadingNumber? (w ++ String.ofList (natText n) ++ x) = Binary64.ofNat? n := by
  have hfront := takeWhile_trimStart hw (fun c hc => Number.isDigit_of_mem_natText hc)
    (Number.natText_ne_nil n) fun c hc => hx.not_numeralChar hc
  rw [leadingNumber?, toList_digits, hfront,
    longestNumeral?_of_liberal? (Number.natText_ne_nil n) (Number.liberal?_natText n)]
  exact Number.Numeral.toBinary64?_ofNat hn

theorem timestamp_string (now : Int) {s : String} (hminus : '-' ∉ s.toList) (hne : s.toList ≠ []) :
    timestamp now (some (.string s)) = timestampOfReal (leadingNumber? s) := by
  have hempty : s ≠ "" := by
    rintro rfl
    exact hne rfl
  rw [timestamp, if_neg (by rwa [List.contains_iff_mem]), if_neg hempty]

/-- **A text that begins with a number has the timestamp of the number.** Blanks may stand before
the digits, and after them anything without a minus sign that does not go on like a numeral. The
number is any one of 64 bits without a sign. Its timestamp is canonical, and is read back as the
number, if the number lies within the years 0 to 9999; otherwise it is the mark. -/
theorem timestamp_of_digits (fits : FitsWord n) (hw : ∀ c ∈ w.toList, Text.isBlank c = true)
    (hx : EndsNumber x) (now now' : Int) :
    timestamp now (some (.string (w ++ String.ofList (natText n) ++ x))) =
        timestamp now' (some (.number (.integer n fits))) ∧
      timestamp now' (some (.number (.integer n fits))) = .ofMillis n ∧
      (InYears n → (Timestamp.ofMillis n).instant? = some (.ofMillis n)) ∧
      (¬InYears n → Timestamp.ofMillis n = .invalid) := by
  have hminus : '-' ∉ (w ++ String.ofList (natText n) ++ x).toList := by
    rw [toList_digits, List.mem_append, List.mem_append]
    rintro (hmem | hmem | hmem)
    · exact absurd (hw '-' hmem) (by decide)
    · exact absurd (Number.isDigit_of_mem_natText hmem) (by decide)
    · exact hx.minus hmem
  have hne : (w ++ String.ofList (natText n) ++ x).toList ≠ [] := by
    rw [toList_digits]
    exact List.append_ne_nil_of_right_ne_nil _
      (List.append_ne_nil_of_left_ne_nil (Number.natText_ne_nil n) _)
  refine ⟨?_, timestamp_integer now' fits, Timestamp.instant?_ofMillis,
    Timestamp.ofMillis_of_not_inYears⟩
  rw [timestamp_integer, timestamp_string now hminus hne,
    leadingNumber?_digits (Int.ofNat_le.1 fits.2) hw hx, timestampOfReal_ofNat?]

/-- Behind a wide space and a tab a number with a unit is read. One that no double stands for has
    the mark in either form. -/
theorem timestamp_of_digits_unit :
    timestamp 0 (some (.string "\u3000\t1705312800123ms")) = ⟨"2024-01-15T10:00:00.123Z"⟩ ∧
    timestamp 0 (some (.string "9007199254740993")) = .invalid ∧
    timestamp 0 (some (.number (.integer 9007199254740993 (by decide)))) = .invalid := by
  have hrange : FitsWord (1705312800123 : Nat) := by decide
  have hlarge : FitsWord (9007199254740993 : Nat) := by decide
  have hblanks : ∀ c ∈ "\u3000\t".toList, Text.isBlank c = true :=
    List.all_eq_true.1 (by decide)
  have hnoBlanks : ∀ c ∈ "".toList, Text.isBlank c = true := List.all_eq_true.1 (by decide)
  have hunit : EndsNumber "ms" := by
    refine ⟨by decide, ?_⟩
    rintro c ⟨⟩
    decide
  have hend : EndsNumber "" := by
    refine ⟨by decide, ?_⟩
    rintro c ⟨⟩
  obtain ⟨hsame, hmillis, -⟩ := timestamp_of_digits hrange hblanks hunit 0 0
  obtain ⟨hsame', hmillis', -, hmark⟩ := timestamp_of_digits hlarge hnoBlanks hend 0 0
  refine ⟨?_, ?_, ?_⟩
  · exact (hsame.trans hmillis).trans (by decide)
  · exact (hsame'.trans hmillis').trans (hmark (by decide))
  · exact hmillis'.trans (hmark (by decide))

end Logbook.Payload
