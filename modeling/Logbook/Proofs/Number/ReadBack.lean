import Mathlib.Tactic.Ring
import Logbook.Number.Shortest

/-!
# Shortest decimals read back

A decimal inside the interval of a double reads as that double: the nearest magnitude with 53
significant bits to anything in the interval is the one that the interval belongs to. The search for
the fewest digits ends inside the interval, at the latest on the finest grid, so what is written for
a double reads back as the same double.

Results:

* `roundUnits_eq`: rounding sends all of an interval to its magnitude.
* `Binary64.ofDecimal?_eq`: a decimal in the interval of a double reads as that double.
* `Binary64.shortest_inside`: the shortest decimal of a double lies in its interval.
-/

namespace Logbook.Number

/-! ## Rounding a quotient -/

/-- What lies within half a unit of an integer rounds to it; at exactly half a unit the integer has
    to be even. -/
theorem roundDiv_eq {num den n : Nat} (hden : 0 < den) (hlow : 2 * (n * den) ≤ 2 * num + den)
    (hhigh : 2 * num ≤ 2 * (n * den) + den)
    (hodd : n % 2 = 1 → 2 * (n * den) < 2 * num + den ∧ 2 * num < 2 * (n * den) + den) :
    roundDiv num den = n := by
  have hdiv := Nat.div_add_mod num den
  have hmod := Nat.mod_lt num hden
  have hle : num / den ≤ n := by
    by_contra h
    have hmul := Nat.mul_le_mul_left den (show n + 1 ≤ num / den by omega)
    rw [Nat.mul_comm n den] at hhigh
    rw [Nat.mul_add] at hmul
    omega
  have hge : n ≤ num / den + 1 := by
    by_contra h
    have hmul := Nat.mul_le_mul_left den (show num / den + 2 ≤ n by omega)
    rw [Nat.mul_comm n den] at hlow
    rw [Nat.mul_add] at hmul
    omega
  unfold roundDiv
  rcases Nat.eq_or_lt_of_le hle with hq | hq
  · rw [Nat.mul_comm n den, ← hq] at hhigh hodd
    rw [if_pos (by omega), hq]
  · have hn : n = num / den + 1 := by omega
    rw [Nat.mul_comm n den, hn, Nat.mul_add] at hlow hodd
    rw [if_neg (by omega), hn]

/-! ## The spacing of the doubles -/

theorem gap_eq_zero {n : Nat} (h : n < twoPow 53) : gap n = 0 := by
  unfold gap
  by_cases h0 : n = 0
  · simp [h0]
  · have := (log2_lt_iff h0).2 h
    omega

theorem gap_eq {n k : Nat} (hlow : twoPow (52 + k) ≤ n) (hhigh : n < twoPow (53 + k)) :
    gap n = k := by
  have h0 : n ≠ 0 := Nat.ne_of_gt (Nat.lt_of_lt_of_le (twoPow_pos _) hlow)
  have h₁ := (log2_lt_iff h0).2 hhigh
  have h₂ : ¬ n.log2 < 52 + k := fun h => Nat.not_lt.2 hlow ((log2_lt_iff h0).1 h)
  unfold gap
  omega

theorem lt_twoPow_gap {n : Nat} (h : n ≠ 0) : n < twoPow (53 + gap n) := by
  rw [← log2_lt_iff h]
  unfold gap
  omega

theorem twoPow_gap_le {n : Nat} (h : 0 < gap n) : twoPow (52 + gap n) ≤ n := by
  have h0 : n ≠ 0 := by
    rintro rfl
    simp [gap] at h
  have h' : ¬ n.log2 < 52 + gap n := by
    unfold gap at h ⊢
    omega
  exact Nat.not_lt.1 fun hlt => h' ((log2_lt_iff h0).2 hlt)

/-! ## Rounding within an interval -/

/-- The spacing of the doubles below a magnitude, in quarters of a unit and halved: the distance to
    the lower end of its interval. -/
def lowerHalf (units : Nat) : Nat :=
  if 0 < gap units ∧ units = twoPow (52 + gap units) then twoPow (gap units)
  else 2 * twoPow (gap units)

theorem scaled_le_iff {a p num den scale : Nat} (hden : 0 < den) (hscale : 0 < scale)
    (hp : p * den = num * scale) : a * scale ≤ p ↔ a * den ≤ num := by
  rw [← Nat.mul_le_mul_right_iff hden, hp, Nat.mul_right_comm, Nat.mul_le_mul_right_iff hscale]

theorem le_scaled_iff {a p num den scale : Nat} (hden : 0 < den) (hscale : 0 < scale)
    (hp : p * den = num * scale) : p ≤ a * scale ↔ num ≤ a * den := by
  rw [← Nat.mul_le_mul_right_iff hden, hp, Nat.mul_right_comm, Nat.mul_le_mul_right_iff hscale]

/-- A point of the interval of a magnitude, given as a fraction of a unit, lies between its ends,
    and strictly so if the last bit of the magnitude is set. -/
theorem bounds_of_contains {units num den p : Nat} (hden : 0 < den)
    (hin : (Interval.ofUnits units).contains p = true)
    (hp : p * den = 4 * num * tenPow finest) :
    (4 * units - lowerHalf units) * den ≤ 4 * num ∧
      4 * num ≤ (4 * units + 2 * twoPow (gap units)) * den ∧
      (units / twoPow (gap units) % 2 = 1 →
        (4 * units - lowerHalf units) * den < 4 * num ∧
          4 * num < (4 * units + 2 * twoPow (gap units)) * den) := by
  have hT := tenPow_pos finest
  change (if (units / twoPow (gap units) % 2 == 0) = true then
    decide ((4 * units - lowerHalf units) * tenPow finest ≤ p) &&
      decide (p ≤ (4 * units + 2 * twoPow (gap units)) * tenPow finest)
    else decide ((4 * units - lowerHalf units) * tenPow finest < p) &&
      decide (p < (4 * units + 2 * twoPow (gap units)) * tenPow finest)) = true at hin
  split at hin <;> rename_i hpar <;> rw [beq_iff_eq] at hpar <;>
    rw [Bool.and_eq_true, decide_eq_true_iff, decide_eq_true_iff] at hin
  · rw [scaled_le_iff hden hT hp, le_scaled_iff hden hT hp] at hin
    exact ⟨hin.1, hin.2, fun h => by omega⟩
  · have hlow := hin.1
    have hhigh := hin.2
    rw [← Nat.not_le, le_scaled_iff hden hT hp, Nat.not_le] at hlow
    rw [← Nat.not_le, scaled_le_iff hden hT hp, Nat.not_le] at hhigh
    exact ⟨Nat.le_of_lt hlow, Nat.le_of_lt hhigh, fun _ => ⟨hlow, hhigh⟩⟩

theorem roundUnits_of_gap {num den k m : Nat} (hgap : gap (num / den) = k)
    (hround : roundDiv num (den * twoPow k) = m) : roundUnits num den = m * twoPow k := by
  change roundDiv num (den * twoPow (gap (num / den))) * twoPow (gap (num / den)) = m * twoPow k
  rw [hgap, hround]

/-- Just below a power of two the doubles lie twice as close, and what is nearest to that power
    rounds up to it. -/
theorem roundUnits_below_edge {num den k : Nat} (hden : 0 < den)
    (hlow : 4 * (twoPow 52 * (den * twoPow (k + 1))) ≤ 4 * num + den * twoPow (k + 1))
    (hlt : num < twoPow 52 * (den * twoPow (k + 1))) :
    roundUnits num den = twoPow 52 * twoPow (k + 1) := by
  have hM : 0 < twoPow 52 := twoPow_pos 52
  have hstep : den * twoPow (k + 1) = 2 * (den * twoPow k) := by
    rw [twoPow_add k 1, Nat.mul_left_comm 2, Nat.mul_comm (twoPow k)]
    rfl
  have hdouble : twoPow 52 * twoPow (k + 1) = 2 * twoPow 52 * twoPow k := by
    rw [twoPow_add k 1, Nat.mul_comm (twoPow k), ← Nat.mul_assoc, Nat.mul_comm (twoPow 52)]
    rfl
  have hZ : den * twoPow k ≤ twoPow 52 * (den * twoPow k) := Nat.le_mul_of_pos_left _ hM
  rw [hstep, Nat.mul_left_comm (twoPow 52) 2] at hlow hlt
  have hgap : gap (num / den) = k := by
    refine gap_eq ?_ ?_
    · rw [Nat.le_div_iff_mul_le hden, twoPow_add, Nat.mul_assoc, Nat.mul_comm (twoPow k)]
      omega
    · rw [Nat.div_lt_iff_lt_mul hden, show 53 + k = 52 + (k + 1) by omega, twoPow_add,
        Nat.mul_assoc, Nat.mul_comm (twoPow (k + 1)), hstep, Nat.mul_left_comm (twoPow 52) 2]
      exact hlt
  rw [hdouble]
  refine roundUnits_of_gap hgap (roundDiv_eq (Nat.mul_pos hden (twoPow_pos k)) ?_ ?_ ?_)
  · rw [Nat.mul_assoc]
    omega
  · rw [Nat.mul_assoc]
    omega
  · intro hodd
    omega

/-- **Rounding sends all of an interval to its magnitude.** -/
theorem roundUnits_eq {units num den p : Nat} (hrep : Representable units) (hpos : 0 < units)
    (hden : 0 < den) (hin : (Interval.ofUnits units).contains p = true)
    (hp : p * den = 4 * num * tenPow finest) : roundUnits num den = units := by
  obtain ⟨hlow, hhigh, hodd⟩ := bounds_of_contains hden hin hp
  have hlt := lt_twoPow_gap (Nat.ne_of_gt hpos)
  have hge : 0 < gap units → twoPow (52 + gap units) ≤ units := twoPow_gap_le
  obtain ⟨m, hm⟩ := hrep.1
  have hB := twoPow_pos (gap units)
  unfold lowerHalf at hlow hodd
  generalize gap units = k at *
  obtain rfl : units = m * twoPow k := by rw [hm, Nat.mul_comm]
  -- `x` and `y` are the magnitude and the spacing there, both times the denominator.
  obtain ⟨y, hy⟩ : ∃ y, y = den * twoPow k := ⟨_, rfl⟩
  obtain ⟨x, hx⟩ : ∃ x, x = m * y := ⟨_, rfl⟩
  have hypos : 0 < y := hy ▸ Nat.mul_pos hden hB
  have hxden : 4 * (m * twoPow k) * den = 4 * x := by rw [hx, hy]; ring
  have hyden : twoPow k * den = y := by rw [hy, Nat.mul_comm]
  rw [Nat.mul_div_cancel m hB] at hodd
  rw [twoPow_add, Nat.mul_lt_mul_right hB] at hlt
  rw [twoPow_add, Nat.mul_le_mul_right_iff hB] at hge
  simp only [twoPow_add, Nat.mul_right_cancel_iff hB, Nat.sub_mul, hxden] at hlow hodd
  rw [Nat.add_mul, hxden, Nat.mul_assoc 2, hyden] at hhigh hodd
  have hupper : num < twoPow 53 * y := by
    have := Nat.mul_le_mul_right y (Nat.succ_le_of_lt hlt)
    rw [Nat.succ_mul, ← hx] at this
    omega
  by_cases hedge : 0 < k ∧ m = twoPow 52
  · rw [if_pos hedge, hyden] at hlow hodd
    by_cases hbelow : num < x
    · obtain ⟨j, rfl⟩ : ∃ j, k = j + 1 := ⟨k - 1, by omega⟩
      rw [hedge.2] at hx ⊢
      refine roundUnits_below_edge hden ?_ ?_
      · rw [← hy, ← hx]
        omega
      · rwa [← hy, ← hx]
    · have hgap : gap (num / den) = k := by
        refine gap_eq ?_ ?_
        · rw [Nat.le_div_iff_mul_le hden, twoPow_add, Nat.mul_assoc, hyden, ← hedge.2, ← hx]
          omega
        · rwa [Nat.div_lt_iff_lt_mul hden, twoPow_add, Nat.mul_assoc, hyden]
      refine roundUnits_of_gap hgap (roundDiv_eq (hy ▸ hypos) ?_ ?_ ?_) <;> rw [← hy, ← hx]
      · omega
      · omega
      · intro h
        rw [hedge.2] at h
        exact absurd h (by decide)
  · rw [if_neg hedge, Nat.mul_assoc 2, hyden] at hlow hodd
    have hgap : gap (num / den) = k := by
      rcases Nat.eq_zero_or_pos k with rfl | hk
      · refine gap_eq_zero ?_
        rwa [Nat.div_lt_iff_lt_mul hden, show den = y by rw [hy]; simp [twoPow]]
      · refine gap_eq ?_ ?_
        · have hm' : twoPow 52 + 1 ≤ m := by
            have := hge hk
            omega
          have hmul := Nat.mul_le_mul_right y hm'
          rw [Nat.succ_mul, ← hx] at hmul
          rw [Nat.le_div_iff_mul_le hden, twoPow_add, Nat.mul_assoc, hyden]
          omega
        · rwa [Nat.div_lt_iff_lt_mul hden, twoPow_add, Nat.mul_assoc, hyden]
    refine roundUnits_of_gap hgap (roundDiv_eq (hy ▸ hypos) ?_ ?_ ?_) <;> rw [← hy, ← hx]
    · omega
    · omega
    · intro h
      have := hodd h
      omega

/-! ## Reading a decimal in an interval -/

theorem tenPow_decimalLength_le {d : Nat} (hd : d ≠ 0) :
    tenPow (Binary64.decimalLength d - 1) ≤ d := by
  rcases Nat.eq_zero_or_pos (Binary64.decimalLength d - 1) with h | h
  · rw [h]
    exact Nat.pos_of_ne_zero hd
  · refine Nat.not_lt.1 fun hlt => ?_
    have := (Nat.length_toDigits_le_iff (by decide) h).2 hlt
    unfold Binary64.decimalLength at h this
    omega

/-- No point of an interval is as large as `10^311`. -/
theorem lt_of_contains {units p : Nat} (hrep : Representable units) (hpos : 0 < units)
    (hin : (Interval.ofUnits units).contains p = true) :
    p < tenPow (311 + finest) * (4 * one) := by
  have hgap : twoPow (gap units) ≤ units := Nat.le_of_dvd hpos hrep.1
  have hhigh : p ≤ (4 * units + 2 * twoPow (gap units)) * tenPow finest := by
    have hquarters : p * (4 * tenPow finest) = 4 * p * tenPow finest := by ring
    have h := (bounds_of_contains (Nat.mul_pos (by decide) (tenPow_pos _)) hin hquarters).2.1
    rw [← Nat.mul_assoc, Nat.mul_right_comm, Nat.mul_comm _ 4] at h
    exact Nat.le_of_mul_le_mul_left h (by decide)
  have hlimit : 6 * limit * tenPow finest ≤ tenPow (311 + finest) * (4 * one) := by
    decide +kernel
  calc p ≤ (4 * units + 2 * twoPow (gap units)) * tenPow finest := hhigh
    _ ≤ 6 * units * tenPow finest := Nat.mul_le_mul_right _ (by omega)
    _ < 6 * limit * tenPow finest :=
      Nat.mul_lt_mul_of_pos_right (Nat.mul_lt_mul_of_pos_left hrep.2 (by decide)) (tenPow_pos _)
    _ ≤ tenPow (311 + finest) * (4 * one) := hlimit

namespace Binary64

theorem ofRatio?_eq {x : Binary64} {num den p : Nat} (hx : x.units ≠ 0) (hden : 0 < den)
    (hin : (Interval.ofUnits x.units).contains p = true)
    (hp : p * den = 4 * (num * one) * tenPow finest) : ofRatio? x.negative num den = some x := by
  have hround := roundUnits_eq x.representable (Nat.pos_of_ne_zero hx) hden hin hp
  unfold ofRatio?
  simp only [hround, x.representable.2, dite_true]

/-- **A decimal in the interval of a double reads as that double.** -/
theorem ofDecimal?_eq {x : Binary64} {d : Nat} {e : Int} (hx : x.units ≠ 0) (hd : d ≠ 0)
    (he : -(finest : Int) ≤ e)
    (hin : (Interval.ofUnits x.units).contains (d * gridStep (e + finest).toNat) = true) :
    ofDecimal? x.negative d e = some x := by
  have hfin : finest = 325 := rfl
  have hlen : 0 < decimalLength d := Nat.length_toDigits_pos
  have htop : ¬ 311 < (decimalLength d : Int) + e := by
    intro h
    have hlt := lt_of_contains x.representable (Nat.pos_of_ne_zero hx) hin
    have hexp : 311 + finest ≤ decimalLength d - 1 + (e + finest).toNat := by omega
    have hle : tenPow (311 + finest) ≤ d * tenPow (e + finest).toNat :=
      calc tenPow (311 + finest) ≤ tenPow (decimalLength d - 1 + (e + finest).toNat) :=
            tenPow_le hexp
        _ = tenPow (decimalLength d - 1) * tenPow (e + finest).toNat := tenPow_add _ _
        _ ≤ d * tenPow (e + finest).toNat := Nat.mul_le_mul_right _ (tenPow_decimalLength_le hd)
    have := Nat.mul_le_mul_right (4 * one) hle
    rw [Nat.mul_assoc d] at this
    exact absurd hlt (Nat.not_lt.2 this)
  unfold ofDecimal?
  simp only
  rw [if_neg (by rintro (h | h); exacts [hd h, by omega]), if_neg htop]
  split
  · refine ofRatio?_eq hx (by decide) hin ?_
    rw [show (e + finest).toNat = e.toNat + finest by omega, gridStep, tenPow_add]
    ring
  · refine ofRatio?_eq hx (tenPow_pos _) hin ?_
    have hten : tenPow (e + finest).toNat * tenPow (-e).toNat = tenPow finest := by
      rw [← tenPow_add]
      congr 1
      omega
    rw [gridStep, ← hten]
    ring

end Binary64

/-! ## The search for the fewest digits -/

theorem searchGrids_inside {tie : Tie} {v : Interval} (h : (neighbour? tie v 0).isSome = true)
    (i : Nat) :
    v.contains ((searchGrids tie v i).1 * gridStep (searchGrids tie v i).2) = true := by
  induction i with
  | zero =>
    obtain ⟨d, hd⟩ := Option.isSome_iff_exists.1 h
    rw [searchGrids, hd]
    exact neighbour?_inside hd
  | succ i ih =>
    rw [searchGrids]
    split
    · rename_i d hd
      exact neighbour?_inside hd
    · exact ih

theorem Interval.contains_of_lt {v : Interval} {p : Nat} (hlow : v.low < p) (hhigh : p < v.high) :
    v.contains p = true := by
  unfold Interval.contains
  split <;> rw [Bool.and_eq_true, decide_eq_true_iff, decide_eq_true_iff]
  · exact ⟨Nat.le_of_lt hlow, Nat.le_of_lt hhigh⟩
  · exact ⟨hlow, hhigh⟩

theorem Interval.low_le_of_contains {v : Interval} {p : Nat} (h : v.contains p = true) :
    v.low ≤ p := by
  unfold Interval.contains at h
  split at h <;> rw [Bool.and_eq_true, decide_eq_true_iff, decide_eq_true_iff] at h
  · exact h.1
  · exact Nat.le_of_lt h.1

theorem lowerHalf_pos (units : Nat) : 0 < lowerHalf units := by
  have hB := twoPow_pos (gap units)
  unfold lowerHalf
  split <;> omega

theorem lowerHalf_le (units : Nat) : lowerHalf units ≤ 2 * twoPow (gap units) := by
  unfold lowerHalf
  split <;> omega

/-- The finest grid is finer than any interval, so it has a point inside. -/
theorem neighbour?_finest (tie : Tie) {units : Nat} (hpos : 0 < units) :
    (neighbour? tie (Interval.ofUnits units) 0).isSome = true := by
  have hfine : gridStep 0 < tenPow finest := by decide +kernel
  have hstep : 0 < gridStep 0 :=
    Nat.mul_pos (tenPow_pos 0) (Nat.mul_pos (by decide) (twoPow_pos 1074))
  have hdown : (Interval.ofUnits units).contains
      ((Interval.ofUnits units).center / gridStep 0 * gridStep 0) = true := by
    have hdiv := Nat.div_add_mod' (Interval.ofUnits units).center (gridStep 0)
    have hmod := Nat.mod_lt (Interval.ofUnits units).center hstep
    have hlow : (Interval.ofUnits units).low + tenPow finest ≤ (Interval.ofUnits units).center := by
      have hsub : 4 * units - lowerHalf units + 1 ≤ 4 * units := by
        have := lowerHalf_pos units
        omega
      have hmul := Nat.mul_le_mul_right (tenPow finest) hsub
      rwa [Nat.succ_mul] at hmul
    have hhigh : (Interval.ofUnits units).center < (Interval.ofUnits units).high := by
      have hB := twoPow_pos (gap units)
      exact Nat.mul_lt_mul_of_pos_right (by omega) (tenPow_pos _)
    exact Interval.contains_of_lt (by omega) (by omega)
  unfold neighbour?
  simp only [hdown, Bool.true_and, if_true]
  split <;> rfl

theorem low_pos {units : Nat} (hrep : Representable units) (hpos : 0 < units) :
    0 < (Interval.ofUnits units).low := by
  have hgap : twoPow (gap units) ≤ units := Nat.le_of_dvd hpos hrep.1
  have hle := lowerHalf_le units
  exact Nat.mul_pos (show 0 < 4 * units - lowerHalf units by omega) (tenPow_pos _)

namespace Binary64

theorem shortest_eq (tie : Tie) {x : Binary64} (hx : x.units ≠ 0) :
    ∃ i, x.shortest tie = ⟨(searchGrids tie (Interval.ofUnits x.units) i).1,
      ((searchGrids tie (Interval.ofUnits x.units) i).2 : Int) - finest⟩ := by
  unfold shortest
  rw [if_neg hx]
  exact ⟨_, rfl⟩

theorem shortest_inside (tie : Tie) {x : Binary64} (hx : x.units ≠ 0) :
    (x.shortest tie).digits ≠ 0 ∧ -(finest : Int) ≤ (x.shortest tie).exponent ∧
      (Interval.ofUnits x.units).contains ((x.shortest tie).digits *
        gridStep ((x.shortest tie).exponent + finest).toNat) = true := by
  have hpos := Nat.pos_of_ne_zero hx
  obtain ⟨i, hi⟩ := shortest_eq tie hx
  have hin := searchGrids_inside (neighbour?_finest tie hpos) i
  rw [hi]
  generalize searchGrids tie (Interval.ofUnits x.units) i = found at hin
  refine ⟨?_, by simp only; omega, ?_⟩
  · intro h0
    have := Interval.low_le_of_contains hin
    rw [show found.1 = 0 from h0, Nat.zero_mul] at this
    exact absurd (low_pos x.representable hpos) (Nat.not_lt.2 this)
  · have hgrid : ((found.2 : Int) - finest + finest).toNat = found.2 := by omega
    simp only [hgrid]
    exact hin

theorem shortest_of_units_eq_zero (tie : Tie) {x : Binary64} (hx : x.units = 0) :
    x.shortest tie = ⟨0, 0⟩ := by
  unfold shortest
  exact if_pos hx

theorem ofDecimal?_zero (negative : Bool) (e : Int) :
    ofDecimal? negative 0 e = some (zero negative) := by
  unfold ofDecimal?
  exact if_pos (Or.inl rfl)

theorem eq_zero_of_units_eq_zero {x : Binary64} (hx : x.units = 0) : x = zero x.negative := by
  cases x
  cases hx
  rfl

/-- **The shortest decimal of a double reads back as it**, also with zeros added at its end. -/
theorem ofDecimal?_shortest (tie : Tie) (x : Binary64) {zeros : Nat}
    (hz : -(finest : Int) ≤ (x.shortest tie).exponent - zeros) :
    ofDecimal? x.negative ((x.shortest tie).digits * tenPow zeros)
      ((x.shortest tie).exponent - zeros) = some x := by
  by_cases hx : x.units = 0
  · rw [shortest_of_units_eq_zero tie hx, Nat.zero_mul, ofDecimal?_zero,
      ← eq_zero_of_units_eq_zero hx]
  · obtain ⟨hd, he, hin⟩ := shortest_inside tie hx
    refine ofDecimal?_eq hx (Nat.mul_ne_zero hd (Nat.ne_of_gt (tenPow_pos zeros))) hz ?_
    have hexp : ((x.shortest tie).exponent + finest).toNat =
        zeros + ((x.shortest tie).exponent - zeros + finest).toNat := by omega
    rw [hexp, gridStep, tenPow_add] at hin
    rw [gridStep]
    rwa [Nat.mul_assoc, ← Nat.mul_assoc (tenPow zeros)]

end Binary64

end Logbook.Number
