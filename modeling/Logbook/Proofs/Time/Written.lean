import Logbook.Proofs.Time.Order
import Logbook.Proofs.Time.Rfc3339
import Mathlib.Order.Lattice

/-!
# Written times in order

Written times compare as texts: by the date, the time of day, the fraction and the offset as they
are written. In one zone and in one style, with no leap second among them, that is the order of
their instants, but for one thing: a fraction that is written to fewer digits ends earlier, and what
stands there instead of a digit is the offset. A sign `+` or `-` comes before the digits, as the
lesser fraction should; `Z`, `z` and the minus sign U+2212 come behind them.

Results:

* `Written.ofMillis`: the canonical text of a millisecond as a written time.
* `lt_or_prefix_of_leadingDigits_lt`: a greater fraction has greater digits, or more of them.
* `Written.chars_lt_iff`: which of any two times has the lesser text.
* `Written.Alike.chars_lt_iff`: when a later time that is written alike has the greater text.
-/

namespace Logbook.Time.Rfc3339

open Logbook.Number (isDigit digitValue extendBy natOfDigits)

/-! ## Texts in order -/

theorem append_lt_append_left_iff (a : List Char) {x y : List Char} : a ++ x < a ++ y ↔ x < y := by
  induction a with
  | nil => rfl
  | cons c a ih =>
    rw [List.cons_append, List.cons_append, List.cons_lt_cons_iff, ih]
    simp

theorem toNat_bounds_of_isDigit {c : Char} (h : isDigit c = true) :
    48 ≤ c.toNat ∧ c.toNat ≤ 57 := by
  simpa [isDigit] using h

theorem digitValue_eq (c : Char) : digitValue c = c.toNat - 48 := rfl

/-! ## Fractions -/

/-- The number that the first digits spell, with zeros behind them if they are fewer. -/
def leadingDigits : (width : Nat) → List Char → Nat
  | 0, _ => 0
  | _ + 1, [] => 0
  | width + 1, d :: ds => digitValue d * 10 ^ width + leadingDigits width ds

theorem millisOf_eq_leadingDigits (ds : List Char) : millisOf ds = leadingDigits 3 ds := by
  have hzero : digitValue '0' = 0 := rfl
  rcases ds with _ | ⟨a, _ | ⟨b, _ | ⟨c, rest⟩⟩⟩ <;>
    simp only [millisOf, natOfDigits, extendBy, leadingDigits, List.nil_append, List.cons_append,
      List.take_succ_cons, List.take_zero, List.foldl_cons, List.foldl_nil, hzero] <;>
    omega

theorem leadingDigits_lt {ds : List Char} (h : ∀ c ∈ ds, isDigit c = true) (width : Nat) :
    leadingDigits width ds < 10 ^ width := by
  induction width generalizing ds with
  | zero => exact Nat.one_pos
  | succ width ih =>
    cases ds with
    | nil => exact Nat.pow_pos (by decide)
    | cons d ds =>
      have hd := toNat_bounds_of_isDigit (h d List.mem_cons_self)
      have hrest := ih fun c hc => h c (List.mem_cons_of_mem d hc)
      have hfirst : digitValue d * 10 ^ width ≤ 9 * 10 ^ width :=
        Nat.mul_le_mul_right _ (by rw [digitValue_eq]; omega)
      rw [leadingDigits, Nat.pow_succ]
      omega

/-- **A greater fraction has greater digits, or more of them**: the digits of the lesser one go on,
    or the first digit that differs is greater. -/
theorem lt_or_prefix_of_leadingDigits_lt {width : Nat} {ds ds' : List Char}
    (hds : ∀ c ∈ ds, isDigit c = true) (hds' : ∀ c ∈ ds', isDigit c = true)
    (h : leadingDigits width ds < leadingDigits width ds') :
    (∃ y ys, ds' = ds ++ y :: ys) ∨
      ∃ common a b x y, ds = common ++ a :: x ∧ ds' = common ++ b :: y ∧ a < b := by
  induction width generalizing ds ds' with
  | zero => exact absurd h (Nat.lt_irrefl 0)
  | succ width ih =>
    cases ds' with
    | nil => exact absurd h (Nat.not_lt_zero _)
    | cons b y =>
      cases ds with
      | nil => exact .inl ⟨b, y, rfl⟩
      | cons a x =>
        have ha := toNat_bounds_of_isDigit (hds a List.mem_cons_self)
        have hb := toNat_bounds_of_isDigit (hds' b List.mem_cons_self)
        have hx := leadingDigits_lt (fun c hc => hds c (List.mem_cons_of_mem a hc)) width
        have hy := leadingDigits_lt (fun c hc => hds' c (List.mem_cons_of_mem b hc)) width
        rw [leadingDigits, leadingDigits, digitValue_eq, digitValue_eq] at h
        rcases Nat.lt_trichotomy a.toNat b.toNat with hlt | heq | hgt
        · exact .inr ⟨[], a, b, x, y, rfl, rfl, hlt⟩
        · obtain rfl : a = b := Char.ext (UInt32.toNat_inj.1 heq)
          rcases ih (fun c hc => hds c (List.mem_cons_of_mem a hc))
            (fun c hc => hds' c (List.mem_cons_of_mem a hc)) (Nat.lt_of_add_lt_add_left h) with
            ⟨y', ys, rfl⟩ | ⟨common, a', b', x', y', rfl, rfl, hlt⟩
          · exact .inl ⟨y', ys, rfl⟩
          · exact .inr ⟨a :: common, a', b', x', y', rfl, rfl, hlt⟩
        · have hfirst : (b.toNat - 48 + 1) * 10 ^ width ≤ (a.toNat - 48) * 10 ^ width :=
            Nat.mul_le_mul_right _ (by omega)
          rw [Nat.succ_mul] at hfirst
          omega

/-! ## What follows the seconds -/

/-- The offset begins with a character that comes behind the digits and the point: it is `Z` or `z`,
    or its sign is the minus sign U+2212. -/
def Offset.Late : Offset → Prop
  | .utc _ => True
  | .signed sign _ _ => sign = '\u2212'

instance : (o : Offset) → Decidable o.Late
  | .utc _ => inferInstanceAs (Decidable True)
  | .signed _ _ _ => inferInstanceAs (Decidable (_ = _))

/-- An offset comes before a point and any digit, or behind them if it is late. -/
theorem Offset.chars_lt_iff {o : Offset} (h : o.Valid) {y : Char} (hy : y = '.' ∨ isDigit y = true)
    (rest : List Char) : o.chars < y :: rest ↔ ¬o.Late := by
  have hrange : 46 ≤ y.toNat ∧ y.toNat ≤ 57 := by
    rcases hy with rfl | hy
    · decide
    · have := toNat_bounds_of_isDigit hy
      omega
  -- The first character decides, and it is no point and no digit.
  have hfirst : ∀ (c : Char) (cs : List Char), c.toNat < 46 ∨ 57 < c.toNat →
      (c :: cs < y :: rest ↔ c.toNat < 46) := by
    intro c cs hc
    rw [List.cons_lt_cons_iff]
    have hne : c ≠ y := by
      rintro rfl
      omega
    have hlt : c < y ↔ c.toNat < y.toNat := Iff.rfl
    rw [hlt]
    simp only [hne, false_and, or_false]
    omega
  cases o with
  | utc mark =>
    rcases h with rfl | rfl
    · rw [Offset.chars, hfirst _ _ (.inr (by decide))]
      decide
    · rw [Offset.chars, hfirst _ _ (.inr (by decide))]
      decide
  | signed sign hours minutes =>
    rcases h.1 with rfl | rfl | rfl
    · rw [Offset.chars, hfirst _ _ (.inl (by decide))]
      simp only [Offset.Late]
      decide
    · rw [Offset.chars, hfirst _ _ (.inl (by decide))]
      simp only [Offset.Late]
      decide
    · rw [Offset.chars, hfirst _ _ (.inr (by decide))]
      simp only [Offset.Late]
      decide

namespace Written

/-- The thousandths of a second in a fraction. -/
def thousandths (f : Option (List Char)) : Nat := (f.map millisOf).getD 0

theorem thousandths_lt {f : Option (List Char)}
    (hf : ∀ ds, f = some ds → ds ≠ [] ∧ ∀ c ∈ ds, isDigit c = true) : thousandths f < 1000 := by
  cases f with
  | none => decide
  | some ds => exact millisOf_lt (hf ds rfl).2

theorem lt_or_prefix_fractionChars {f f' : Option (List Char)}
    (hf : ∀ ds, f = some ds → ds ≠ [] ∧ ∀ c ∈ ds, isDigit c = true)
    (hf' : ∀ ds, f' = some ds → ds ≠ [] ∧ ∀ c ∈ ds, isDigit c = true)
    (h : thousandths f < thousandths f') :
    (∃ y ys, fractionChars f' = fractionChars f ++ y :: ys ∧ (y = '.' ∨ isDigit y = true)) ∨
      ∃ common a b x y, fractionChars f = common ++ a :: x ∧ fractionChars f' = common ++ b :: y ∧
        a < b := by
  cases f' with
  | none => exact absurd h (Nat.not_lt_zero _)
  | some ds' =>
    cases f with
    | none => exact .inl ⟨'.', ds', rfl, .inl rfl⟩
    | some ds =>
      have hds := (hf ds rfl).2
      have hds' := (hf' ds' rfl).2
      simp only [thousandths, Option.map_some, Option.getD_some, millisOf_eq_leadingDigits] at h
      rcases lt_or_prefix_of_leadingDigits_lt hds hds' h with
        ⟨y, ys, rfl⟩ | ⟨common, a, b, x, y, rfl, rfl, hlt⟩
      · exact .inl ⟨y, ys, rfl, .inr (hds' y (List.mem_append_right ds List.mem_cons_self))⟩
      · exact .inr ⟨'.' :: common, a, b, x, y, rfl, rfl, hlt⟩

/-- **What follows the same second compares** as the fractions do, unless the lesser fraction goes
on as the greater one and its offset is late. -/
theorem rest_lt_iff {f f' : Option (List Char)} {o : Offset} (o' : Offset) (ho : o.Valid)
    (hf : ∀ ds, f = some ds → ds ≠ [] ∧ ∀ c ∈ ds, isDigit c = true)
    (hf' : ∀ ds, f' = some ds → ds ≠ [] ∧ ∀ c ∈ ds, isDigit c = true)
    (h : thousandths f < thousandths f') :
    fractionChars f ++ o.chars < fractionChars f' ++ o'.chars ↔
      ¬(fractionChars f <+: fractionChars f' ∧ o.Late) := by
  rcases lt_or_prefix_fractionChars hf hf' h with
    ⟨y, ys, heq, hy⟩ | ⟨common, a, b, x, y, heq, heq', hlt⟩
  · rw [heq, List.append_assoc, append_lt_append_left_iff, List.cons_append,
      Offset.chars_lt_iff ho hy]
    simp only [List.prefix_append, true_and]
  · have hnot : ¬fractionChars f <+: fractionChars f' := by
      rw [heq, heq', List.prefix_append_right_inj, List.cons_prefix_cons]
      rintro ⟨rfl, -⟩
      exact Char.lt_irrefl a hlt
    rw [heq, heq', List.append_assoc, List.append_assoc, append_lt_append_left_iff,
      List.cons_append, List.cons_append, List.cons_lt_cons_iff]
    exact iff_of_true (.inl hlt) fun hboth => hnot (by rw [heq, heq']; exact hboth.1)

/-! ## Canonical texts -/

/-- The canonical text of a millisecond as a written time. -/
def ofMillis (ms : Int) : Written :=
  let sinceYearZero := (ms - Instant.firstMilli).toNat
  let inDay := sinceYearZero % dayMillis
  ⟨Date.ofDays (sinceYearZero / dayMillis), 'T', inDay / 3600000, inDay / 60000 % 60,
    inDay / 1000 % 60, some (fixedDigits 3 (inDay % 1000)), .utc 'Z'⟩

theorem chars_ofMillis (ms : Int) :
    (ofMillis ms).chars = canonicalText (ms - Instant.firstMilli).toNat false := by
  simp [ofMillis, chars, fractionChars, Offset.chars, canonicalText]

theorem timestamp_ofMillis {ms : Int} (h : Instant.InYears ms) :
    Timestamp.ofMillis ms = ⟨String.ofList (ofMillis ms).chars⟩ := by
  rw [Timestamp.ofMillis_of_inYears h, chars_ofMillis]

theorem admitted_ofMillis {ms : Int} (h : Instant.InYears ms) : (ofMillis ms).Admitted where
  year := by
    have hlast : daysBeforeYear 10000 * dayMillis = 315569520000000 := rfl
    rw [Instant.InYears, Instant.firstMilli, Instant.lastMilli] at h
    apply yearOf_lt
    apply Nat.div_lt_of_lt_mul
    rw [Nat.mul_comm, hlast, Instant.firstMilli]
    omega
  date := Date.isValid_ofDays _
  joint := .inl rfl
  hour := by
    have hday : dayMillis = 86400000 := rfl
    simp only [ofMillis, hday]
    omega
  minute := Nat.mod_lt _ (by decide)
  second := by
    simp only [ofMillis]
    omega
  fraction := by
    rintro ds hds
    obtain rfl := Option.some.inj hds
    refine ⟨List.ne_nil_of_length_pos ?_, fun c hc => isDigit_of_mem_fixedDigits hc⟩
    rw [fixedDigits_length]
    decide
  offset := .inl rfl

theorem floor_instant_ofMillis {ms : Int} (h : Instant.InYears ms) :
    ⌊(ofMillis ms).instant⌋ = ms := by
  have hday : dayMillis = 86400000 := rfl
  have hepoch : (epochDay : Int) * 86400000 = 62167219200000 := rfl
  have hmillis : ∀ n < 1000, millisOf (fixedDigits 3 n) = n := by
    intro n hn
    rw [millisOf, List.take_left' (fixedDigits_length 3 n), natOfDigits_fixedDigits (by omega)]
  rw [floor_instant_of_admitted (admitted_ofMillis h), millis]
  simp only [ofMillis, Option.map_some, Option.getD_some,
    hmillis _ (Nat.mod_lt _ (by decide)), Date.toDays_ofDays, Offset.east]
  rw [Instant.InYears, Instant.firstMilli] at h
  simp only [hday, Instant.firstMilli]
  push_cast
  omega

/-! ## Any two times -/

/-- What is written behind the seconds. -/
def rest (w : Written) : List Char :=
  fractionChars w.fraction ++ w.offset.chars

/-- What is written behind the date and the mark that follows it. -/
def clockChars (w : Written) : List Char :=
  fixedDigits 2 w.hour ++ ':' :: (fixedDigits 2 w.minute ++ ':' :: (fixedDigits 2 w.second ++
    w.rest))

theorem chars_eq (w : Written) : w.chars = dateText w.date ++ w.joint :: w.clockChars := by
  simp [chars, dateText, clockChars, rest]

/-- The first time of day is the earlier one by whole seconds, each on the clock of its own zone. -/
def ClockBefore (w w' : Written) : Prop :=
  w.hour < w'.hour ∨ w.hour = w'.hour ∧
    (w.minute < w'.minute ∨ w.minute = w'.minute ∧ w.second < w'.second)

/-- Both times of day are the same up to whole seconds. -/
def SameClock (w w' : Written) : Prop :=
  w.hour = w'.hour ∧ w.minute = w'.minute ∧ w.second = w'.second

instance (w w' : Written) : Decidable (w.SameClock w') :=
  inferInstanceAs (Decidable (_ ∧ _))

/-- The first time reads as the earlier one: it has the earlier date, or on the same date the lesser
    mark, or behind the same mark the earlier time of day, or in the same second the lesser rest. -/
def ReadsBefore (w w' : Written) : Prop :=
  w.date.Before w'.date ∨ w.date = w'.date ∧
    (w.joint < w'.joint ∨ w.joint = w'.joint ∧
      (w.ClockBefore w' ∨ w.SameClock w' ∧ w.rest < w'.rest))

variable {w w' : Written}

theorem clockBefore_or_same_or_before (w w' : Written) :
    w.ClockBefore w' ∨ w.SameClock w' ∨ w'.ClockBefore w := by
  unfold ClockBefore SameClock
  omega

theorem ClockBefore.not_clockBefore (h : w.ClockBefore w') : ¬w'.ClockBefore w := by
  unfold ClockBefore at *
  omega

theorem SameClock.not_clockBefore (h : w.SameClock w') :
    ¬w.ClockBefore w' ∧ ¬w'.ClockBefore w := by
  unfold ClockBefore SameClock at *
  omega

theorem clockChars_lt (h' : w'.Admitted) (h : w.ClockBefore w') :
    w.clockChars < w'.clockChars := by
  have hhour := h'.hour
  have hminute := h'.minute
  have hsecond := h'.second
  apply fixedDigits_append_lt (by omega)
  refine h.imp_right (And.imp_right fun h => ?_)
  apply fixedDigits_append_lt (by omega)
  refine h.imp_right (And.imp_right fun h => ?_)
  apply append_lt_append (fixedDigits_lt h (by omega))
  rw [fixedDigits_length, fixedDigits_length]

theorem clockChars_lt_iff (h : w.Admitted) (h' : w'.Admitted) :
    w.clockChars < w'.clockChars ↔ w.ClockBefore w' ∨ w.SameClock w' ∧ w.rest < w'.rest := by
  rcases clockBefore_or_same_or_before w w' with hbefore | hsame | hafter
  · exact iff_of_true (clockChars_lt h' hbefore) (.inl hbefore)
  · simp only [hsame.not_clockBefore.1, hsame, true_and, false_or]
    simp only [clockChars, hsame.1, hsame.2.1, hsame.2.2, append_lt_append_left_iff,
      List.cons_lt_cons_iff, Char.lt_irrefl, true_and, false_or]
  · refine iff_of_false (List.lt_asymm (clockChars_lt h hafter)) fun hbefore => ?_
    rcases hbefore with hbefore | ⟨hsame, -⟩
    · exact hafter.not_clockBefore hbefore
    · exact hsame.not_clockBefore.2 hafter

theorem chars_lt_of_before (h' : w'.Admitted) (h : w.date.Before w'.date) :
    w.chars < w'.chars := by
  obtain ⟨hmonth, hday⟩ := Date.lt_of_isValid h'.date
  rw [chars_eq, chars_eq]
  apply append_lt_append (dateText_lt h h'.year hmonth hday)
  rw [dateText_length, dateText_length]

/-- **Which of any two times has the lesser text**: the one that reads as the earlier one. -/
theorem chars_lt_iff (h : w.Admitted) (h' : w'.Admitted) :
    w.chars < w'.chars ↔ w.ReadsBefore w' := by
  rcases Date.before_or_eq_or_before w.date w'.date with hdate | hdate | hdate
  · exact iff_of_true (chars_lt_of_before h' hdate) (.inl hdate)
  · rw [ReadsBefore, chars_eq, chars_eq, hdate, append_lt_append_left_iff, List.cons_lt_cons_iff,
      clockChars_lt_iff h h']
    simp only [Date.not_before_self, true_and, false_or]
  · refine iff_of_false (List.lt_asymm (chars_lt_of_before h hdate)) fun hbefore => ?_
    rcases hbefore with hbefore | ⟨hsame, -⟩
    · exact Date.not_before_of_before hdate hbefore
    · rw [hsame] at hdate
      exact Date.not_before_self _ hdate

/-! ## Times that are written alike -/

/-- Both times are written in one zone, with the same mark between date and time, and neither is a
    leap second. -/
structure Alike (w w' : Written) : Prop where
  zone : w.offset.east = w'.offset.east
  joint : w.joint = w'.joint
  second_lt : w.second < 60
  second_lt' : w'.second < 60

theorem alike_ofMillis (i j : Int) : (ofMillis i).Alike (ofMillis j) :=
  ⟨rfl, rfl, Nat.mod_lt _ (by decide), Nat.mod_lt _ (by decide)⟩

/-- Of times that are written alike the later one has the later date, or the later time of day on
    the same date, or the greater fraction in the same second. -/
theorem Alike.before_of_lt (halike : w.Alike w') (h : w.Admitted) (h' : w'.Admitted)
    (hlt : ⌊w.instant⌋ < ⌊w'.instant⌋) :
    w.date.Before w'.date ∨ w.date = w'.date ∧
      (w.ClockBefore w' ∨ w.SameClock w' ∧ thousandths w.fraction < thousandths w'.fraction) := by
  obtain ⟨hzone, -, hs, hs'⟩ := halike
  have hhour := h.hour
  have hminute := h.minute
  have hhour' := h'.hour
  have hminute' := h'.minute
  have hfraction : thousandths w.fraction < 1000 := thousandths_lt h.fraction
  have hfraction' : thousandths w'.fraction < 1000 := thousandths_lt h'.fraction
  have hday : (dayMillis : Int) = 86400000 := rfl
  rw [floor_instant_of_admitted h, floor_instant_of_admitted h', millis, millis, hzone, hday,
    ← thousandths, ← thousandths] at hlt
  push_cast at hlt
  rcases Date.before_or_eq_or_before w.date w'.date with hdate | hdate | hdate
  · exact .inl hdate
  · rw [hdate] at hlt
    refine .inr ⟨hdate, ?_⟩
    unfold ClockBefore SameClock
    omega
  · have := Date.toDays_lt h'.date hdate
    omega

/-- **When a later time that is written alike has the greater text.** Take two times that RFC 3339
admits and that are written alike, of which the second one is later by whole milliseconds. The first
one has the lesser text, unless both are written in the same second, the fraction of the second one
goes on behind that of the first one, and the offset of the first one is late. -/
theorem Alike.chars_lt_iff (halike : w.Alike w') (h : w.Admitted) (h' : w'.Admitted)
    (hlt : ⌊w.instant⌋ < ⌊w'.instant⌋) :
    w.chars < w'.chars ↔
      ¬((w.date = w'.date ∧ w.SameClock w') ∧
        fractionChars w.fraction <+: fractionChars w'.fraction ∧ w.offset.Late) := by
  rw [Written.chars_lt_iff h h', ReadsBefore, halike.joint]
  rcases halike.before_of_lt h h' hlt with hdate | ⟨hdate, hclock | ⟨hclock, hfraction⟩⟩
  · refine iff_of_true (.inl hdate) fun hsame => ?_
    rw [hsame.1.1] at hdate
    exact Date.not_before_self _ hdate
  · refine iff_of_true (.inr ⟨hdate, .inr ⟨rfl, .inl hclock⟩⟩) fun hsame => ?_
    exact hsame.1.2.not_clockBefore.1 hclock
  · simp only [Date.not_before_self, hclock.not_clockBefore.1, hdate, hclock, Char.lt_irrefl,
      true_and, false_or]
    exact rest_lt_iff w'.offset h.offset h.fraction h'.fraction hfraction

/-- Of times that are written alike and to as many digits the later one has the greater text. -/
theorem Alike.chars_lt (halike : w.Alike w') (h : w.Admitted) (h' : w'.Admitted)
    (hlt : ⌊w.instant⌋ < ⌊w'.instant⌋)
    (hlength : (fractionChars w.fraction).length = (fractionChars w'.fraction).length) :
    w.chars < w'.chars := by
  rw [halike.chars_lt_iff h h' hlt]
  rintro ⟨⟨hdate, hhour, hminute, hsecond⟩, hprefix, -⟩
  have hfraction : w.fraction = w'.fraction := by
    have heq := hprefix.eq_of_length hlength
    cases hf : w.fraction <;> cases hf' : w'.fraction <;> simp_all [fractionChars]
  rw [instant, instant, hdate, hhour, hminute, hsecond, hfraction, halike.zone] at hlt
  exact lt_irrefl _ hlt

end Written

end Logbook.Time.Rfc3339
