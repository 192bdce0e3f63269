import Logbook.Proofs.Json.Numeral

/-!
# Whole numbers as doubles

Up to `2^53` every whole number is a double. Above that it is rounded, but never to less than its
half, because the spacing of the doubles around a magnitude is at most that magnitude. The decimal
digits of a whole number are a numeral, which reads as the double nearest to the number.

Results:

* `Binary64.ofNat?_of_le`: up to `2^53` a whole number is a double.
* `Binary64.half_le_truncate`: the double nearest to a whole number is at least half as large.
* `Numeral.toBinary64?_ofNat`: decimal digits read as the double nearest to what they spell.
-/

namespace Logbook.Number

theorem one_pos : 0 < one :=
  twoPow_pos 1074

theorem twoPow_lt {j k : Nat} (h : j < k) : twoPow j < twoPow k :=
  Nat.pow_lt_pow_right (by decide) h

/-! ## Rounding a magnitude -/

theorem roundUnits_of_representable {units : Nat} (h : Representable units) :
    roundUnits units 1 = units := by
  obtain ⟨m, hm⟩ := h.1
  rw [Nat.mul_comm] at hm
  have hround : roundDiv units (1 * twoPow (gap units)) = m := by
    have hmul := roundDiv_mul m (twoPow_pos (gap units))
    rwa [← hm, ← Nat.one_mul (twoPow (gap units))] at hmul
  rw [roundUnits_of_gap (by rw [Nat.div_one]) hround, ← hm]

/-- The spacing of the doubles around a magnitude is at most that magnitude. -/
theorem twoPow_gap_le_self {units : Nat} (h : 0 < units) : twoPow (gap units) ≤ units := by
  rcases Nat.eq_zero_or_pos (gap units) with hzero | hpos
  · rw [hzero]
    exact h
  · exact Nat.le_trans (twoPow_le (Nat.le_add_left _ _)) (twoPow_gap_le hpos)

/-- Rounding leaves at least the half of a magnitude. -/
theorem le_two_mul_roundUnits (units : Nat) : units ≤ 2 * roundUnits units 1 := by
  rcases Nat.eq_zero_or_pos units with rfl | hpos
  · exact Nat.zero_le _
  · have hgap := twoPow_gap_le_self hpos
    have hround := le_two_mul_roundDiv units (twoPow (gap units)) (twoPow_pos _)
    have hunits : roundUnits units 1 =
        roundDiv units (twoPow (gap units)) * twoPow (gap units) :=
      roundUnits_of_gap (by rw [Nat.div_one]) (by rw [Nat.one_mul])
    rw [hunits]
    omega

/-! ## The double nearest to a whole number -/

namespace Binary64

variable {n : Nat} {x : Binary64}

/-- **Up to `2^53` a whole number is a double.** -/
theorem ofNat?_of_le (h : n ≤ twoPow 53) :
    ∃ x, ofNat? n = some x ∧ x.negative = false ∧ x.units = n * one := by
  have hlt : n * one < limit :=
    calc n * one ≤ twoPow 53 * one := Nat.mul_le_mul_right one h
      _ = twoPow (53 + 1074) := by rw [one, twoPow_add]
      _ < limit := twoPow_lt (by decide)
  have hrep : Representable (n * one) := representable_mul_twoPow h hlt
  refine ⟨⟨false, n * one, hrep⟩, ?_, rfl, rfl⟩
  simp only [ofNat?, ofRatio?, roundUnits_of_representable hrep, hlt, dite_true]

theorem units_of_ofNat? (h : ofNat? n = some x) :
    x.negative = false ∧ x.units = roundUnits (n * one) 1 := by
  simp only [ofNat?, ofRatio?] at h
  split at h
  · cases h
    exact ⟨rfl, rfl⟩
  · cases h

/-- **The double nearest to a whole number is at least half as large.** -/
theorem half_le_truncate (h : ofNat? n = some x) : ((n / 2 : Nat) : Int) ≤ x.truncate := by
  obtain ⟨hsign, hunits⟩ := units_of_ofNat? h
  have hhalf : n / 2 ≤ x.units / one := by
    rw [Nat.le_div_iff_mul_le one_pos, hunits]
    have hround := le_two_mul_roundUnits (n * one)
    have hdouble : 2 * (n / 2) * one ≤ n * one := Nat.mul_le_mul_right one (Nat.mul_div_le n 2)
    rw [Nat.mul_assoc] at hdouble
    omega
  rw [truncate, hsign]
  exact Int.ofNat_le.2 hhalf

theorem truncate_of_units (hsign : x.negative = false) (hunits : x.units = n * one) :
    x.truncate = n := by
  rw [truncate, hsign, hunits, Nat.mul_div_cancel n one_pos]
  rfl

/-! ## Decimal digits -/

/-- A whole number of 64 bits read as a decimal is the double nearest to it. -/
theorem ofDecimal?_word (h : n ≤ maxWord) : ofDecimal? false n 0 = ofNat? n := by
  rcases Nat.eq_zero_or_pos n with rfl | hpos
  · obtain ⟨x, hx, hsign, hunits⟩ := ofNat?_of_le (Nat.zero_le (twoPow 53))
    rw [Nat.zero_mul] at hunits
    rw [ofDecimal?_zero, hx, eq_zero_of_units_eq_zero hunits, hsign]
  · have hlength : decimalLength n ≤ 20 := by
      rw [decimalLength, Nat.length_toDigits_le_iff (by decide) (by decide)]
      exact Nat.lt_of_le_of_lt h (by decide)
    unfold ofDecimal?
    simp only
    rw [if_neg (by omega), if_neg (by omega), if_pos (Int.le_refl 0)]
    exact congrArg (ofRatio? false · 1) (Nat.mul_one n)

end Binary64

theorem splitSign_natText (n : Nat) : splitSign (natText n) = (false, natText n) := by
  have hdigits : ∀ c ∈ natText n, isDigit c = true := fun c hc => isDigit_of_mem_natText hc
  unfold splitSign
  split
  · rename_i heq
    exact absurd (hdigits '-' (heq ▸ List.mem_cons_self)) (by decide)
  · rename_i heq
    exact absurd (hdigits '+' (heq ▸ List.mem_cons_self)) (by decide)
  · rfl

/-- The numeral of a whole number: its decimal digits. -/
def Numeral.ofNat (n : Nat) : Numeral :=
  ⟨false, natText n, none, none⟩

theorem liberal?_natText (n : Nat) : liberal? (natText n) = some (.ofNat n) := by
  have hspan : spanDigits (natText n) = (natText n, []) := by
    have hread : spanDigits (natText n ++ []) = (natText n, []) :=
      spanDigits_append (fun c hc => isDigit_of_mem_natText hc) (fun c hc => by cases hc)
    rwa [List.append_nil] at hread
  have hne : (natText n).isEmpty = false := by
    rw [List.isEmpty_eq_false_iff]
    exact natText_ne_nil n
  simp [liberal?, splitSign_natText, hspan, hne, exponent?, Numeral.ofNat]

/-- **The numeral of a whole number reads as the double nearest to it.** -/
theorem Numeral.toBinary64?_ofNat {n : Nat} (h : n ≤ maxWord) :
    (ofNat n).toBinary64? = Binary64.ofNat? n := by
  have hdigits : (ofNat n).digits = n := by
    rw [digits, ofNat, Option.getD_none, List.append_nil, natOfDigits_natText]
  have hscale : (ofNat n).scale = 0 := rfl
  rw [toBinary64?, hdigits, hscale]
  exact Binary64.ofDecimal?_word h

end Logbook.Number
