import Logbook.Number.Binary64

/-!
# The fewest digits that read back

The shortest decimal text of a double is found on decimal grids, coarse to fine. Each double owns
an interval, the reals that round to it; on every grid only the two neighbours of the exact value
need a look, and the first grid with a neighbour inside the interval has the fewest digits. All
comparisons are between natural numbers: a point `d * 10^(i - 325)` is counted in quarters of a
unit, times `10^325`.

Two decimals of one length may lie equally near; which of them is taken depends on the text that is
written.

Results:

* `neighbour?_inside`: a chosen digit string lies in the interval.
-/

namespace Logbook.Number

/-- The finest grid is `10^-finest`, finer than the least positive double. -/
def finest : Nat := 325

/-- The reals that round to a magnitude, in quarters of a unit times `10^finest`. -/
structure Interval where
  low : Nat
  center : Nat
  high : Nat
  /-- Whether the ends round to the magnitude too. -/
  closed : Bool

namespace Interval

/-- The interval of a magnitude in units. Below a power of two the doubles lie twice as close. -/
def ofUnits (units : Nat) : Interval :=
  let k := gap units
  let below := if 0 < k ∧ units = twoPow (52 + k) then twoPow k else 2 * twoPow k
  { low := (4 * units - below) * tenPow finest
    center := 4 * units * tenPow finest
    high := (4 * units + 2 * twoPow k) * tenPow finest
    closed := units / twoPow k % 2 == 0 }

/-- Whether a point lies in the interval. -/
def contains (v : Interval) (p : Nat) : Bool :=
  if v.closed then v.low ≤ p && p ≤ v.high else v.low < p && p < v.high

end Interval

/-- The distance between neighbouring points of grid `i`. -/
def gridStep (i : Nat) : Nat :=
  tenPow i * (4 * one)

/-- Which of two equally near points is taken. -/
inductive Tie where
  /-- The one with the even last digit. -/
  | toEven
  /-- The one farther from zero. -/
  | away
  deriving DecidableEq

/-- Whether the nearer to zero of two equally near points is taken, given its digits. -/
def Tie.takesLower : Tie → Nat → Bool
  | .toEven, d => d % 2 = 0
  | .away, _ => false

/-- The digits of the point of grid `i` in the interval that is nearest to its centre. -/
def neighbour? (tie : Tie) (v : Interval) (i : Nat) : Option Nat :=
  let g := gridStep i
  let d := v.center / g
  let down := v.contains (d * g)
  let up := v.contains ((d + 1) * g)
  if down && up then
    let r := v.center % g
    some (if 2 * r < g ∨ (2 * r = g ∧ tie.takesLower d) then d else d + 1)
  else if down then some d
  else if up then some (d + 1)
  else none

theorem neighbour?_inside {tie : Tie} {v : Interval} {i d : Nat}
    (h : neighbour? tie v i = some d) :
    v.contains (d * gridStep i) = true := by
  simp only [neighbour?] at h
  split at h
  · rename_i hb
    rw [Bool.and_eq_true] at hb
    obtain rfl := Option.some.inj h
    split
    · exact hb.1
    · exact hb.2
  · split at h
    · rename_i hd
      obtain rfl := Option.some.inj h
      exact hd
    · split at h
      · rename_i hu
        obtain rfl := Option.some.inj h
        exact hu
      · cases h

/-- The first grid, going down from grid `i`, with a point in the interval: its digits and the
    grid. -/
def searchGrids (tie : Tie) (v : Interval) : Nat → Nat × Nat
  | 0 => ((neighbour? tie v 0).getD 0, 0)
  | i + 1 =>
    match neighbour? tie v (i + 1) with
    | some d => (d, i + 1)
    | none => searchGrids tie v i

/-- The decimal `digits * 10^exponent`. -/
structure Decimal where
  digits : Nat
  exponent : Int
  deriving DecidableEq

namespace Binary64

/-- The decimal with the fewest digits that reads back as the magnitude of the number, the nearest
    one of those; zero is `0`. -/
def shortest (tie : Tie) (x : Binary64) : Decimal :=
  if x.units = 0 then ⟨0, 0⟩
  else
    let v := Interval.ofUnits x.units
    let found := searchGrids tie v (decimalLength (v.center / (4 * one)))
    ⟨found.1, (found.2 : Int) - finest⟩

end Binary64

end Logbook.Number
