import Logbook.Command.Arguments
import Logbook.Proofs.Time.Order
import Logbook.Proofs.Time.Rfc3339

/-!
# Time bounds select by instant

A user gives a bound as a time with an offset and a fraction; a row has the canonical text of its
instant. The two are compared as texts, after the bound was made canonical. For bounds from the year
0 on that is the comparison of the instants, the bound rounded down to a millisecond: a bound after
the year 9999 becomes the mark, which comes after every row, as its instant does.

**Deviation.** A bound whose offset takes it before the year 0 becomes the mark as well and then
comes after every row, though its instant lies before all of them. Such a first time admits no row,
such a last time admits every row, and a removal of what is older removes everything.

Results:

* `Timestamp.bound_written`: the canonical form of a written bound.
* `Timestamp.ofMillis_le_ofMillis_iff`, `ofMillis_ge_ofMillis_iff`, `ofMillis_lt_ofMillis_iff`: a
  row of the four-digit years against any instant.
* `Command.bounds_select`: what the three bounds of the commands select.
* `Command.bound_before_year_zero`: where that is not what the instants say.
-/

namespace Logbook

open Time.Instant (InYears firstMilli lastMilli)
open Time.Rfc3339 (Written)

namespace Timestamp

/-- A written time as a bound is the timestamp of its instant, rounded down. -/
theorem bound_written {w : Written} (h : w.Valid) :
    bound (String.ofList w.chars) = ofMillis ⌊w.instant⌋ := by
  rw [bound, instant?, String.toList_ofList, Time.Rfc3339.read?_chars h]
  rfl

/-! ## Rows of the four-digit years -/

variable {t i : Int}

/-- A timestamp outside the years 0 to 9999 comes after every one within. -/
theorem ofMillis_lt_of_not_inYears (ht : InYears t) (hi : ¬ InYears i) :
    ofMillis t < ofMillis i := by
  rw [ofMillis_of_not_inYears hi]
  exact ofMillis_lt_invalid ht

theorem ofMillis_lt_ofMillis_iff (ht : InYears t) :
    ofMillis t < ofMillis i ↔ i < firstMilli ∨ t < i := by
  by_cases hi : InYears i
  · rw [ofMillis_lt_iff ht hi]
    have := hi.1
    omega
  · have hafter := ofMillis_lt_of_not_inYears ht hi
    have hlast := ht.2
    rw [InYears] at hi
    constructor
    · intro _
      omega
    · intro _
      exact hafter

theorem ofMillis_ge_ofMillis_iff (ht : InYears t) :
    ofMillis i ≤ ofMillis t ↔ firstMilli ≤ i ∧ i ≤ t := by
  have hlt := ofMillis_lt_ofMillis_iff (i := i) ht
  rw [← not_le] at hlt
  constructor
  · intro h
    by_contra hno
    exact hlt.2 (by omega) h
  · intro h
    by_contra hno
    have := hlt.1 hno
    omega

theorem ofMillis_le_ofMillis_iff (ht : InYears t) :
    ofMillis t ≤ ofMillis i ↔ i < firstMilli ∨ t ≤ i := by
  by_cases hi : InYears i
  · rw [ofMillis_le_iff ht hi]
    have := hi.1
    omega
  · have hafter := ofMillis_lt_of_not_inYears ht hi
    have hlast := ht.2
    rw [InYears] at hi
    constructor
    · intro _
      omega
    · intro _
      rcases le_total (ofMillis t) (ofMillis i) with hle | hle
      · exact hle
      · exact absurd hle (not_le.2 hafter)

theorem ofMillis_text_ne_empty (ms : Int) : (ofMillis ms).text ≠ "" := by
  intro h
  have hchars : (ofMillis ms).text.toList = [] := by
    rw [h, String.toList_empty]
  by_cases hyears : InYears ms
  · rw [ofMillis_of_inYears hyears, String.toList_ofList, Time.canonicalText_eq] at hchars
    simp at hchars
  · rw [ofMillis_of_not_inYears hyears] at hchars
    exact absurd hchars (by decide)

theorem bound_written_ne_empty {w : Written} (h : w.Valid) :
    (bound (String.ofList w.chars)).text ≠ "" := by
  rw [bound_written h]
  exact ofMillis_text_ne_empty _

end Timestamp

namespace Command

/-! ## The bounds of a command -/

theorem nonEmpty_bound {b : String} (h : (Timestamp.bound b).text ≠ "") :
    (nonEmpty (some (bound b))).map Timestamp.mk = some (.bound b) := by
  rw [bound, nonEmpty_eq_some_iff.2 ⟨rfl, h⟩]
  rfl

theorem admits_start {b : String} (h : (Timestamp.bound b).text ≠ "") (row : Row) :
    { Given.nothing with start := some b }.criteria.restriction.admits row = true ↔
      .bound b ≤ row.timestamp := by
  have hcriteria : { Given.nothing with start := some b }.criteria.restriction =
      { Restriction.none with start := some (.bound b) } := by
    rw [← nonEmpty_bound h]
    rfl
  rw [hcriteria]
  simp [Restriction.admits, Restriction.none]

theorem admits_stop {b : String} (h : (Timestamp.bound b).text ≠ "") (row : Row) :
    { Given.nothing with stop := some b }.criteria.restriction.admits row = true ↔
      row.timestamp ≤ .bound b := by
  have hcriteria : { Given.nothing with stop := some b }.criteria.restriction =
      { Restriction.none with stop := some (.bound b) } := by
    rw [← nonEmpty_bound h]
    rfl
  rw [hcriteria]
  simp [Restriction.admits, Restriction.none]

theorem hits_before {b : String} (h : (Timestamp.bound b).text ≠ "") (row : Row) :
    Deletion.hits (Cleanup.deletion ⟨none, some (bound b)⟩) row = true ↔
      row.timestamp < .bound b := by
  rw [Cleanup.deletion, nonEmpty_bound h]
  simp [Deletion.hits, nonEmpty]

/-- **What time bounds select.** Take any time that RFC 3339 admits and that is no leap second, as a
bound of a command, and a row with the timestamp of a millisecond of the years 0 to 9999. Let the
instant of the bound be rounded down to a millisecond. As a first time it admits the row exactly if
its instant is not after that of the row; as a last time, if it is not before it; and a removal of
what is older removes the row if its instant is after that of the row. But a bound before the year 0
admits no row as a first time, every row as a last time, and removes every row. -/
theorem bounds_select {w : Written} (h : w.Valid) {t : Int} (ht : InYears t) {row : Row}
    (hrow : row.timestamp = .ofMillis t) :
    (({ Given.nothing with start := some (String.ofList w.chars) }.criteria.restriction.admits row =
        true ↔ firstMilli ≤ ⌊w.instant⌋ ∧ ⌊w.instant⌋ ≤ t) ∧
      ({ Given.nothing with stop := some (String.ofList w.chars) }.criteria.restriction.admits row =
        true ↔ ⌊w.instant⌋ < firstMilli ∨ t ≤ ⌊w.instant⌋)) ∧
      ∃ cleanup, { Given.nothing with before := some (String.ofList w.chars) }.command .delete =
          .delete cleanup ∧
        (cleanup.deletion.hits row = true ↔ ⌊w.instant⌋ < firstMilli ∨ t < ⌊w.instant⌋) := by
  have hbound := Timestamp.bound_written h
  have hpresent := Timestamp.bound_written_ne_empty h
  refine ⟨⟨?_, ?_⟩, ⟨none, some (bound (String.ofList w.chars))⟩, rfl, ?_⟩
  · rw [admits_start hpresent, hbound, hrow]
    exact Timestamp.ofMillis_ge_ofMillis_iff ht
  · rw [admits_stop hpresent, hbound, hrow]
    exact Timestamp.ofMillis_le_ofMillis_iff ht
  · rw [hits_before hpresent, hbound, hrow]
    exact Timestamp.ofMillis_lt_ofMillis_iff ht

/-- A tenth of a millisecond before 1970, written in a zone west of Greenwich. -/
def beforeMidnight : Written :=
  ⟨⟨1969, 12, 31⟩, ' ', 23, 29, 59, some (List.replicate 4 '9'), .signed '-' 0 30⟩

/-- A row of an instant. -/
def rowAt (t : Int) : Row :=
  ⟨⟨"r1", .ofMillis t, "up", "info", "api"⟩, "\x7b\x7d"⟩

/-- The row of the last millisecond before 1970 passes both bounds and stays, if a tenth of a
    millisecond less is given. -/
theorem bounds_select_rounded_down :
    String.ofList beforeMidnight.chars = "1969-12-31 23:29:59.9999-00:30" ∧
      beforeMidnight.Valid ∧ InYears (-1) ∧
      ({ Given.nothing with start := some (String.ofList beforeMidnight.chars)
          }.criteria.restriction.admits (rowAt (-1)) = true ∧
        { Given.nothing with stop := some (String.ofList beforeMidnight.chars)
          }.criteria.restriction.admits (rowAt (-1)) = true) ∧
      ∃ cleanup, { Given.nothing with before := some (String.ofList beforeMidnight.chars)
          }.command .delete = .delete cleanup ∧
        cleanup.deletion.hits (rowAt (-1)) ≠ true := by
  have hdigits : ∀ ds, beforeMidnight.fraction = some ds →
      ds ≠ [] ∧ ∀ c ∈ ds, Number.isDigit c = true := by
    rintro ds ⟨⟩
    refine ⟨List.cons_ne_nil _ _, ?_⟩
    intro c hc
    rw [List.eq_of_mem_replicate (n := 4) hc]
    rfl
  have hvalid : beforeMidnight.Valid :=
    ⟨by decide, by decide, by decide, by decide, by decide, by decide, hdigits, by decide⟩
  have hyears : InYears (-1) := by decide
  have hrow : (rowAt (-1)).timestamp = .ofMillis (-1) := rfl
  have hfloor : ⌊beforeMidnight.instant⌋ = -1 := by
    rw [Time.Rfc3339.floor_instant hvalid]
    decide
  obtain ⟨⟨hstart, hstop⟩, cleanup, hcommand, hhits⟩ := bounds_select hvalid hyears hrow
  rw [hfloor] at hstart hstop hhits
  have hkept : cleanup.deletion.hits (rowAt (-1)) ≠ true := by
    intro h
    exact absurd (hhits.1 h) (by decide)
  exact ⟨by decide, hvalid, hyears, ⟨hstart.2 (by decide), hstop.2 (by decide)⟩,
    cleanup, hcommand, hkept⟩

/-- The first minute of the year 0, written in a zone a minute east of Greenwich. -/
def beforeYearZero : Written :=
  ⟨⟨0, 1, 1⟩, 'T', 0, 0, 0, none, .signed '+' 0 1⟩

/-- A removal of what is older than a minute before the year 0 removes a row of 1970. -/
theorem bound_before_year_zero :
    String.ofList beforeYearZero.chars = "0000-01-01T00:00:00+00:01" ∧
      beforeYearZero.Valid ∧ InYears 0 ∧
      ∃ cleanup, { Given.nothing with before := some (String.ofList beforeYearZero.chars)
          }.command .delete = .delete cleanup ∧
        cleanup.deletion.hits (rowAt 0) = true ∧ ¬ 0 < ⌊beforeYearZero.instant⌋ := by
  have hvalid : beforeYearZero.Valid :=
    ⟨by decide, by decide, by decide, by decide, by decide, by decide, nofun, by decide⟩
  have hfloor : ⌊beforeYearZero.instant⌋ = -62167219260000 := by
    rw [Time.Rfc3339.floor_instant hvalid]
    decide
  have hbound := Timestamp.bound_written hvalid
  have hhits := hits_before (Timestamp.bound_written_ne_empty hvalid) (rowAt 0)
  refine ⟨by decide, hvalid, by decide, _, rfl, hhits.2 ?_, ?_⟩
  · rw [hbound, hfloor]
    apply Timestamp.ofMillis_lt_of_not_inYears <;> decide
  · rw [hfloor]
    decide

end Command

end Logbook
