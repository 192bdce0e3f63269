/-!
# Finite double-precision numbers

A finite double is a sign and a magnitude, and every magnitude is a whole number of *units* of
`2^-1074`, the least positive one. A number of units is representable when it is a multiple of
the spacing of the doubles around it and lies below `2^1024`. So exact values are natural
numbers, and reading a decimal numeral is one rounded division.

Results:

* `roundDiv_mul`, `le_two_mul_roundDiv`: the rounding of a quotient that is an integer, and how much
  too small a rounding is at most.
* `representable_mul_twoPow`: what has at most 53 significant bits is representable.
* `representable_roundUnits`: rounding gives a representable magnitude unless it overflows.
-/

namespace Logbook.Number

/-! ## Powers of two and of ten -/

/-- The power of two with an exponent. -/
def twoPow (k : Nat) : Nat := Nat.pow 2 k

/-- The power of ten with an exponent. -/
def tenPow (k : Nat) : Nat := Nat.pow 10 k

theorem twoPow_pos (k : Nat) : 0 < twoPow k :=
  Nat.two_pow_pos k

theorem twoPow_add (j k : Nat) : twoPow (j + k) = twoPow j * twoPow k :=
  Nat.pow_add 2 j k

theorem twoPow_le {j k : Nat} (h : j ≤ k) : twoPow j ≤ twoPow k :=
  Nat.pow_le_pow_right (by decide) h

theorem twoPow_dvd {j k : Nat} (h : j ≤ k) : twoPow j ∣ twoPow k :=
  Nat.pow_dvd_pow 2 h

theorem log2_lt_iff {n k : Nat} (h : n ≠ 0) : n.log2 < k ↔ n < twoPow k :=
  Nat.log2_lt h

theorem tenPow_pos (k : Nat) : 0 < tenPow k :=
  Nat.pow_pos (by decide)

theorem tenPow_add (j k : Nat) : tenPow (j + k) = tenPow j * tenPow k :=
  Nat.pow_add 10 j k

theorem tenPow_le {j k : Nat} (h : j ≤ k) : tenPow j ≤ tenPow k :=
  Nat.pow_le_pow_right (by decide) h

theorem tenPow_succ (k : Nat) : tenPow (k + 1) = tenPow k * 10 :=
  rfl

/-! ## Rounding a quotient -/

/-- The integer nearest to `num / den`; of two equally near ones the even one. -/
def roundDiv (num den : Nat) : Nat :=
  if 2 * (num % den) < den ∨ (2 * (num % den) = den ∧ num / den % 2 = 0) then num / den
  else num / den + 1

theorem roundDiv_mul (n : Nat) {den : Nat} (h : 0 < den) : roundDiv (n * den) den = n := by
  simp [roundDiv, Nat.mul_div_cancel n h, h]

theorem le_two_mul_roundDiv (num den : Nat) (h : 0 < den) :
    2 * num ≤ 2 * (roundDiv num den * den) + den := by
  have hd := Nat.div_add_mod num den
  have hm := Nat.mod_lt num h
  rw [Nat.mul_comm] at hd
  unfold roundDiv
  split
  · omega
  · rw [Nat.add_mul]; omega

theorem roundDiv_le_div_add_one (num den : Nat) : roundDiv num den ≤ num / den + 1 := by
  unfold roundDiv
  split <;> omega

/-! ## Doubles -/

/-- The number of units in `1`. -/
def one : Nat := twoPow 1074

/-- The first power of two above all finite doubles, in units. -/
def limit : Nat := twoPow 2098

theorem limit_pos : 0 < limit :=
  twoPow_pos 2098

/-- The exponent of the spacing of the doubles around a magnitude, in units. -/
def gap (units : Nat) : Nat := units.log2 - 52

/-- Whether a magnitude in units is that of a finite double. -/
def Representable (units : Nat) : Prop :=
  twoPow (gap units) ∣ units ∧ units < limit

instance (units : Nat) : Decidable (Representable units) :=
  inferInstanceAs (Decidable (_ ∧ _))

/-- A finite double-precision number; zero has a sign too. -/
structure Binary64 where
  negative : Bool
  /-- The magnitude in units of `2^-1074`. -/
  units : Nat
  representable : Representable units

instance : DecidableEq Binary64 := fun x y =>
  if h : x.negative = y.negative ∧ x.units = y.units then
    isTrue (by cases x; cases y; obtain ⟨h₁, h₂⟩ := h; cases h₁; cases h₂; rfl)
  else isFalse (by rintro rfl; exact h ⟨rfl, rfl⟩)

/-! ## Rounding to a double -/

theorem gap_mul_twoPow_le {m : Nat} (hm : m < twoPow 53) (k : Nat) : gap (m * twoPow k) ≤ k := by
  unfold gap
  by_cases h0 : m = 0
  · simp [h0]
  · have hlt : (m * twoPow k).log2 < 53 + k := by
      rw [log2_lt_iff (Nat.mul_ne_zero h0 (Nat.ne_of_gt (twoPow_pos k))), twoPow_add]
      exact Nat.mul_lt_mul_of_pos_right hm (twoPow_pos k)
    omega

theorem representable_mul_twoPow {m k : Nat} (hm : m ≤ twoPow 53) (h : m * twoPow k < limit) :
    Representable (m * twoPow k) := by
  refine ⟨?_, h⟩
  rcases Nat.lt_or_eq_of_le hm with hlt | rfl
  · exact Nat.dvd_trans (twoPow_dvd (gap_mul_twoPow_le hlt k)) (Nat.dvd_mul_left _ _)
  · have he : twoPow 53 * twoPow k = twoPow 52 * twoPow (k + 1) := by
      rw [← twoPow_add, ← twoPow_add]
      congr 1
      omega
    rw [he]
    exact Nat.dvd_trans (twoPow_dvd (gap_mul_twoPow_le (by decide) (k + 1)))
      (Nat.dvd_mul_left _ _)

theorem representable_zero : Representable 0 :=
  ⟨Nat.dvd_zero _, limit_pos⟩

/-- The magnitude in units nearest to `num / den` units that has at most 53 significant bits; of
    two equally near ones the one with an even last bit. -/
def roundUnits (num den : Nat) : Nat :=
  let k := gap (num / den)
  roundDiv num (den * twoPow k) * twoPow k

theorem roundUnits_significand_le (num den : Nat) :
    roundDiv num (den * twoPow (gap (num / den))) ≤ twoPow 53 := by
  refine Nat.le_trans (roundDiv_le_div_add_one _ _) (Nat.succ_le_of_lt ?_)
  rw [← Nat.div_div_eq_div_mul, Nat.div_lt_iff_lt_mul (twoPow_pos _), ← twoPow_add]
  have hlt : num / den < twoPow ((num / den).log2 + 1) := Nat.lt_log2_self
  refine Nat.lt_of_lt_of_le hlt (twoPow_le ?_)
  unfold gap
  omega

theorem representable_roundUnits {num den : Nat} (h : roundUnits num den < limit) :
    Representable (roundUnits num den) :=
  representable_mul_twoPow (roundUnits_significand_le num den) h

namespace Binary64

/-- The double nearest to `num / den`, with the given sign; `none` if it overflows. -/
def ofRatio? (negative : Bool) (num den : Nat) : Option Binary64 :=
  let units := roundUnits (num * one) den
  if h : units < limit then some ⟨negative, units, representable_roundUnits h⟩ else none

/-- Zero with a sign. -/
def zero (negative : Bool) : Binary64 :=
  ⟨negative, 0, representable_zero⟩

/-- The number of decimal digits of a number; `0` has one. -/
def decimalLength (n : Nat) : Nat :=
  (Nat.toDigits 10 n).length

/-- The double nearest to `digits * 10 ^ exponent`, with the given sign; `none` if it overflows.
    Exponents far outside the range of the doubles are decided by the number of digits alone. -/
def ofDecimal? (negative : Bool) (digits : Nat) (exponent : Int) : Option Binary64 :=
  let top : Int := decimalLength digits + exponent
  if digits = 0 ∨ top < -330 then some (zero negative)
  else if 311 < top then none
  else if 0 ≤ exponent then ofRatio? negative (digits * tenPow exponent.toNat) 1
  else ofRatio? negative digits (tenPow (-exponent).toNat)

/-- The double nearest to a natural number. -/
def ofNat? (n : Nat) : Option Binary64 :=
  ofRatio? false n 1

/-! ## Reading a double -/

/-- Whether the number is zero of either sign. -/
def isZero (x : Binary64) : Bool :=
  x.units == 0

/-- The number without its fraction. -/
def truncate (x : Binary64) : Int :=
  let whole : Int := (x.units / one : Nat)
  if x.negative then -whole else whole

/-- The integer nearest to the number; a half goes away from zero. -/
def roundAway (x : Binary64) : Int :=
  let whole : Int := ((2 * x.units + one) / (2 * one) : Nat)
  if x.negative then -whole else whole

/-- Whether the magnitude lies below a natural number. -/
def magnitudeBelow (x : Binary64) (n : Nat) : Bool :=
  x.units < n * one

end Binary64

end Logbook.Number
