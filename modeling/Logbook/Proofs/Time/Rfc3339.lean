import Logbook.Proofs.Json.Numeral
import Logbook.Proofs.Time.Calendar
import Logbook.Time.Rfc3339
import Mathlib.Algebra.Order.Floor.Ring
import Mathlib.Data.List.Induction
import Mathlib.Data.Rat.Floor
import Mathlib.Tactic.Ring

/-!
# Written times read back

A time is written as a date, a time of day with any number of fraction digits, and an offset from
UTC. It stands for an exact instant, a fraction of a millisecond included. What is read off the text
is the last whole millisecond that is not after that instant: digits beyond the third are cut off,
which rounds down also before 1970, because an offset is a whole number of minutes.

Results:

* `digits?_fixedDigits`: a number in fixed width is read back.
* `millisOf_eq`: cutting a fraction after three digits rounds it down.
* `offset?_chars`, `clock?_chars`, `date?_chars`: the parts of a written time.
* `read?_chars`: a written time is read as its instant, rounded down.
* `read?_chars_of_admitted`: so is a leap second, which is marked as one.
-/

namespace Logbook.Time.Rfc3339

open Logbook.Number (isDigit digitValue extendBy natOfDigits natOfDigits_append extendBy_eq
  natOfDigits_append_zeros tenPow spanDigits_append)

/-! ## Numbers -/

theorem isDigit_digit : ∀ n < 10, isDigit (Char.ofNat (0x30 + n)) = true := by
  decide

theorem digitValue_digit : ∀ n < 10, digitValue (Char.ofNat (0x30 + n)) = n := by
  decide

theorem isDigit_of_mem_fixedDigits {width n : Nat} {c : Char} (h : c ∈ fixedDigits width n) :
    isDigit c = true := by
  induction width generalizing n with
  | zero => exact absurd h List.not_mem_nil
  | succ width ih =>
    rw [fixedDigits, List.mem_append, List.mem_singleton] at h
    rcases h with h | rfl
    · exact ih h
    · exact isDigit_digit _ (Nat.mod_lt _ (by decide))

theorem natOfDigits_fixedDigits {width n : Nat} (h : n < 10 ^ width) :
    natOfDigits (fixedDigits width n) = n := by
  induction width generalizing n with
  | zero =>
    rw [Nat.pow_zero] at h
    show 0 = n
    omega
  | succ width ih =>
    rw [Nat.pow_succ] at h
    rw [fixedDigits, natOfDigits_append, ih (by omega)]
    show n / 10 * 10 + digitValue _ = n
    rw [digitValue_digit _ (Nat.mod_lt _ (by decide))]
    omega

/-- **A number in fixed width is read back.** -/
theorem digits?_fixedDigits {width n : Nat} (h : n < 10 ^ width) (rest : List Char) :
    digits? width (fixedDigits width n ++ rest) = some (n, rest) := by
  have hlen := fixedDigits_length width n
  have htake : (fixedDigits width n ++ rest).take width = fixedDigits width n :=
    List.take_left' hlen
  have hdrop : (fixedDigits width n ++ rest).drop width = rest := List.drop_left' hlen
  have hall : (fixedDigits width n).all isDigit = true :=
    List.all_eq_true.2 fun c hc => isDigit_of_mem_fixedDigits hc
  simp only [digits?, htake, hdrop]
  rw [if_pos ⟨hlen, hall⟩, natOfDigits_fixedDigits h]

theorem natOfDigits_lt {ds : List Char} (h : ∀ c ∈ ds, isDigit c = true) :
    natOfDigits ds < 10 ^ ds.length := by
  have := extendBy_lt (n := 0) (k := 1) h (by decide)
  rw [Nat.one_mul] at this
  exact this

theorem natOfDigits_append_eq (a b : List Char) :
    natOfDigits (a ++ b) = natOfDigits a * 10 ^ b.length + natOfDigits b := by
  induction b using List.reverseRecOn with
  | nil => simp [natOfDigits, extendBy]
  | append_singleton b c ih =>
    have hlast : ∀ ds, natOfDigits (ds ++ [c]) = natOfDigits ds * 10 + digitValue c := by
      intro ds
      rw [natOfDigits_append]
      rfl
    rw [← List.append_assoc, hlast, hlast, ih, List.length_append, List.length_singleton,
      Nat.pow_succ]
    ring

/-- **Cutting a fraction after three digits rounds it down** to whole thousandths. -/
theorem millisOf_eq {ds : List Char} (h : ∀ c ∈ ds, isDigit c = true) :
    millisOf ds = natOfDigits ds * 1000 / 10 ^ ds.length := by
  have hzeros : natOfDigits (ds ++ ['0', '0', '0']) = natOfDigits ds * 1000 :=
    natOfDigits_append_zeros ds 3
  have hsplit := natOfDigits_append_eq ((ds ++ ['0', '0', '0']).take 3)
    ((ds ++ ['0', '0', '0']).drop 3)
  have hlen : ((ds ++ ['0', '0', '0']).drop 3).length = ds.length := by simp
  have hdigits : ∀ c ∈ (ds ++ ['0', '0', '0']).drop 3, isDigit c = true := by
    intro c hc
    rcases List.mem_append.1 (List.mem_of_mem_drop hc) with hc | hc
    · exact h c hc
    · simp only [List.mem_cons, List.not_mem_nil, or_false, or_self] at hc
      rw [hc]
      decide
  have hrest := natOfDigits_lt hdigits
  rw [List.take_append_drop, hzeros, hlen] at hsplit
  rw [hlen] at hrest
  rw [millisOf, hsplit, Nat.mul_comm _ (10 ^ ds.length),
    Nat.mul_add_div (Nat.pow_pos (by decide)), Nat.div_eq_of_lt hrest, Nat.add_zero]

/-! ## Written times -/

/-- A written offset from UTC. -/
inductive Offset where
  /-- None, by its mark. -/
  | utc (mark : Char)
  | signed (sign : Char) (hours minutes : Nat)

namespace Offset

/-- An offset as it is written. -/
def chars : Offset → List Char
  | utc mark => [mark]
  | signed sign hours minutes => sign :: (fixedDigits 2 hours ++ ':' :: fixedDigits 2 minutes)

/-- Minutes east of UTC. -/
def east : Offset → Int
  | utc _ => 0
  | signed sign hours minutes =>
    if sign = '+' then hours * 60 + minutes else -(hours * 60 + minutes)

/-- An offset that a time may have. Either minus sign is one. -/
def Valid : Offset → Prop
  | utc mark => mark = 'Z' ∨ mark = 'z'
  | signed sign hours minutes =>
    (sign = '+' ∨ sign = '-' ∨ sign = '\u2212') ∧ hours < 24 ∧ minutes < 60

instance : (o : Offset) → Decidable o.Valid
  | utc _ => inferInstanceAs (Decidable (_ ∨ _))
  | signed _ _ _ => inferInstanceAs (Decidable (_ ∧ _))

end Offset

/-- A written time. -/
structure Written where
  date : Date
  /-- What stands between the date and the time of day. -/
  joint : Char
  hour : Nat
  minute : Nat
  second : Nat
  /-- The digits after the point, if there is one. -/
  fraction : Option (List Char)
  offset : Offset

namespace Written

/-- The digits of a fraction behind their point. -/
def fractionChars : Option (List Char) → List Char
  | none => []
  | some ds => '.' :: ds

/-- A time as it is written. -/
def chars (w : Written) : List Char :=
  fixedDigits 4 w.date.year ++ '-' :: (fixedDigits 2 w.date.month ++ '-' ::
    (fixedDigits 2 w.date.day ++ w.joint :: (fixedDigits 2 w.hour ++ ':' ::
      (fixedDigits 2 w.minute ++ ':' :: (fixedDigits 2 w.second ++
        (fractionChars w.fraction ++ w.offset.chars))))))

/-- A time that RFC 3339 admits and that is no leap second. -/
structure Valid (w : Written) : Prop where
  year : w.date.year < 10000
  date : w.date.isValid = true
  joint : w.joint = 'T' ∨ w.joint = 't' ∨ w.joint = ' '
  hour : w.hour < 24
  minute : w.minute < 60
  second : w.second < 60
  fraction : ∀ ds, w.fraction = some ds → ds ≠ [] ∧ ∀ c ∈ ds, isDigit c = true
  offset : w.offset.Valid

/-- A time that RFC 3339 admits. The sixtieth second of a minute is a leap second. -/
structure Admitted (w : Written) : Prop where
  year : w.date.year < 10000
  date : w.date.isValid = true
  joint : w.joint = 'T' ∨ w.joint = 't' ∨ w.joint = ' '
  hour : w.hour < 24
  minute : w.minute < 60
  second : w.second ≤ 60
  fraction : ∀ ds, w.fraction = some ds → ds ≠ [] ∧ ∀ c ∈ ds, isDigit c = true
  offset : w.offset.Valid

theorem Valid.admitted {w : Written} (h : w.Valid) : w.Admitted :=
  ⟨h.year, h.date, h.joint, h.hour, h.minute, Nat.le_of_lt h.second, h.fraction, h.offset⟩

/-- The part of a second that a fraction stands for. -/
def fractionValue : Option (List Char) → ℚ
  | none => 0
  | some ds => natOfDigits ds / 10 ^ ds.length

/-- The instant that a time stands for, in milliseconds since 1970-01-01. -/
def instant (w : Written) : ℚ :=
  (((w.date.toDays : ℚ) - epochDay) * 24 * 3600 + w.hour * 3600 + w.minute * 60 + w.second +
    fractionValue w.fraction - w.offset.east * 60) * 1000

end Written

/-! ## Reading -/

theorem expect?_cons (c : Char) (rest : List Char) : expect? c (c :: rest) = some rest := by
  simp [expect?]

theorem date?_chars {d : Date} (hyear : d.year < 10000) (hvalid : d.isValid = true)
    (rest : List Char) :
    date? (fixedDigits 4 d.year ++ '-' :: (fixedDigits 2 d.month ++ '-' ::
      (fixedDigits 2 d.day ++ rest))) = some (d, rest) := by
  obtain ⟨hmonth, hday⟩ := Date.lt_of_isValid hvalid
  simp only [date?, digits?_fixedDigits (show d.year < 10 ^ 4 by omega),
    digits?_fixedDigits (show d.month < 10 ^ 2 by omega),
    digits?_fixedDigits (show d.day < 10 ^ 2 by omega), expect?_cons, bind, Option.bind]
  rw [if_pos hvalid]

theorem head?_offset {o : Offset} (h : o.Valid) {c : Char} (hc : o.chars.head? = some c) :
    isDigit c = false ∧ c ≠ '.' := by
  cases o with
  | utc mark =>
    obtain rfl := Option.some.inj hc
    rcases h with rfl | rfl <;> decide
  | signed sign hours minutes =>
    obtain rfl := Option.some.inj hc
    rcases h.1 with rfl | rfl | rfl <;> decide

theorem fraction?_chars {f : Option (List Char)}
    (hf : ∀ ds, f = some ds → ds ≠ [] ∧ ∀ c ∈ ds, isDigit c = true) {rest : List Char}
    (hrest : ∀ c, rest.head? = some c → isDigit c = false ∧ c ≠ '.') :
    fraction? (Written.fractionChars f ++ rest) = some ((f.map millisOf).getD 0, rest) := by
  cases f with
  | none =>
    rw [Written.fractionChars, List.nil_append]
    unfold fraction?
    split
    · exact absurd rfl (hrest '.' rfl).2
    · rfl
  | some ds =>
    obtain ⟨hne, hdigits⟩ := hf ds rfl
    have hspan := spanDigits_append hdigits fun c hc => (hrest c hc).1
    obtain ⟨d, more, rfl⟩ := List.exists_cons_of_ne_nil hne
    rw [Written.fractionChars, List.cons_append]
    simp only [fraction?, hspan]
    rfl

theorem clock?_chars {w : Written} (h : w.Admitted) :
    clock? (fixedDigits 2 w.hour ++ ':' :: (fixedDigits 2 w.minute ++ ':' ::
      (fixedDigits 2 w.second ++ (Written.fractionChars w.fraction ++ w.offset.chars)))) =
      some (⟨w.hour, w.minute, w.second, (w.fraction.map millisOf).getD 0⟩, w.offset.chars) := by
  have hhour := h.hour
  have hminute := h.minute
  have hsecond := h.second
  simp only [clock?, digits?_fixedDigits (show w.hour < 10 ^ 2 by omega),
    digits?_fixedDigits (show w.minute < 10 ^ 2 by omega),
    digits?_fixedDigits (show w.second < 10 ^ 2 by omega), expect?_cons,
    fraction?_chars h.fraction fun c hc => head?_offset h.offset hc, bind, Option.bind]
  rw [if_pos ⟨hhour, hminute, by omega⟩]

theorem offset?_chars {o : Offset} (h : o.Valid) : offset? o.chars = some (o.east, []) := by
  cases o with
  | utc mark => rcases h with rfl | rfl <;> rfl
  | signed sign hours minutes =>
    obtain ⟨hsign, hhours, hminutes⟩ := h
    have hmark : sign ≠ 'Z' ∧ sign ≠ 'z' := by
      rcases hsign with rfl | rfl | rfl <;> decide
    have hminutesRead := digits?_fixedDigits (show minutes < 10 ^ 2 by omega) []
    rw [List.append_nil] at hminutesRead
    have hread : ∀ negative, offsetSign? (Offset.signed sign hours minutes).chars =
        some (negative, fixedDigits 2 hours ++ ':' :: fixedDigits 2 minutes) →
        offset? (Offset.signed sign hours minutes).chars =
          some (if negative then -(hours * 60 + minutes : Int) else hours * 60 + minutes, []) := by
      intro negative hnegative
      unfold offset?
      split
      · rename_i heq
        exact absurd (List.cons.inj heq).1 hmark.1
      · rename_i heq
        exact absurd (List.cons.inj heq).1 hmark.2
      · simp only [hnegative, digits?_fixedDigits (show hours < 10 ^ 2 by omega), expect?_cons,
          hminutesRead, bind, Option.bind]
        rw [if_pos ⟨hhours, hminutes⟩]
    rcases hsign with rfl | rfl | rfl
    · exact hread false rfl
    · exact hread true rfl
    · exact hread true rfl

/-- The milliseconds that are read off a written time. -/
def Written.millis (w : Written) : Int :=
  ((w.date.toDays : Int) - epochDay) * dayMillis +
    (((w.hour * 60 + w.minute) * 60 + w.second) * 1000 + (w.fraction.map millisOf).getD 0 : Nat) -
      w.offset.east * 60000

/-- A written time is read with its milliseconds. A leap second is marked as one, and falls on the
    second after it. -/
theorem read?_chars_of_admitted {w : Written} (h : w.Admitted) :
    ∃ t, read? w.chars = some t ∧ t.epochMillis = w.millis ∧ t.leap = (w.second == 60) := by
  have hjoint : ∀ rest, joint? (w.joint :: rest) = some rest := by
    intro rest
    rw [joint?, if_pos h.joint]
  have hsecond := h.second
  simp only [read?, Written.chars, date?_chars h.year h.date, hjoint, clock?_chars h,
    offset?_chars h.offset, bind, Option.bind, List.isEmpty_nil, if_true]
  refine ⟨_, rfl, ?_, rfl⟩
  by_cases hleap : w.second = 60
  · simp only [Instant.epochMillis, hleap, beq_self_eq_true, if_true, Clock.sinceMidnight,
      Written.millis]
    omega
  · have hmin : min w.second 59 = w.second := by omega
    simp only [Instant.epochMillis, beq_eq_false_iff_ne.2 hleap, Bool.false_eq_true, if_false,
      Clock.sinceMidnight, hmin, Written.millis]

theorem read?_chars_millis {w : Written} (h : w.Valid) :
    read? w.chars = some (Instant.ofMillis w.millis) := by
  obtain ⟨⟨millis, leap⟩, hread, hmillis, hleap⟩ := read?_chars_of_admitted h.admitted
  have hsecond := h.second
  rw [beq_eq_false_iff_ne.2 (show w.second ≠ 60 by omega)] at hleap
  obtain rfl : leap = false := hleap
  rw [hread, ← hmillis]
  rfl

/-- The thousandths of a fraction, rounded down. -/
theorem floor_fractionValue {f : Option (List Char)}
    (hf : ∀ ds, f = some ds → ds ≠ [] ∧ ∀ c ∈ ds, isDigit c = true) :
    ⌊Written.fractionValue f * 1000⌋ = ((f.map millisOf).getD 0 : Nat) := by
  cases f with
  | none => simp [Written.fractionValue]
  | some ds =>
    have hscaled : Written.fractionValue (some ds) * 1000 =
        ((natOfDigits ds * 1000 : Nat) : ℚ) / ((10 ^ ds.length : Nat) : ℚ) := by
      rw [Written.fractionValue]
      push_cast
      ring
    rw [hscaled, Rat.floor_natCast_div_natCast]
    simp only [Option.map_some, Option.getD_some, millisOf_eq (hf ds rfl).2]
    push_cast
    rfl

/-- An offset and a time of day are whole seconds, so only the fraction is rounded. -/
theorem floor_instant_of_admitted {w : Written} (h : w.Admitted) : ⌊w.instant⌋ = w.millis := by
  have hsplit : w.instant = Written.fractionValue w.fraction * 1000 +
      (((w.date.toDays : Int) - epochDay) * dayMillis +
        (((w.hour * 60 + w.minute) * 60 + w.second) * 1000 : Nat) -
          w.offset.east * 60000 : Int) := by
    have hday : (dayMillis : ℚ) = 24 * 3600 * 1000 := by
      rw [dayMillis]
      norm_num
    rw [Written.instant]
    push_cast
    rw [hday]
    ring
  rw [hsplit, Int.floor_add_intCast, floor_fractionValue h.fraction, Written.millis]
  push_cast
  ring

theorem floor_instant {w : Written} (h : w.Valid) : ⌊w.instant⌋ = w.millis :=
  floor_instant_of_admitted h.admitted

/-- **A written time is read as its instant**, rounded down to whole milliseconds. -/
theorem read?_chars {w : Written} (h : w.Valid) :
    read? w.chars = some (Instant.ofMillis ⌊w.instant⌋) := by
  rw [floor_instant h]
  exact read?_chars_millis h

end Logbook.Time.Rfc3339
