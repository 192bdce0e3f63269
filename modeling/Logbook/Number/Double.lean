import Logbook.Number.Shortest
import Logbook.Number.Numeral

/-!
# Double-precision numbers

The finite doubles together with the infinities and the value that is not a number: reading one
from a text, rounding one to a word, and its text without a power of ten.
-/

namespace Logbook.Number

/-- A double-precision number. -/
inductive Double where
  | finite (x : Binary64)
  | infinite (negative : Bool)
  | notANumber
  deriving DecidableEq

namespace Double

/-! ## Reading -/

/-- The double nearest to a numeral; beyond the finite ones it is infinite. -/
def ofNumeral (n : Numeral) : Double :=
  match n.toBinary64? with
  | some x => .finite x
  | none => .infinite n.negative

/-- The names of the doubles that are not finite. -/
def named? (negative : Bool) (name : String) : Option Double :=
  if name = "inf" ∨ name = "infinity" then some (.infinite negative)
  else if name = "nan" then some .notANumber
  else none

/-- A text as a double: a numeral in the liberal form, or a name in any case with a sign of either
    kind before it. -/
def read? (cs : List Char) : Option Double :=
  match liberal? cs with
  | some n => some (ofNumeral n)
  | none => named? (splitSign cs).1 (String.ofList ((splitSign cs).2.map Char.toLower))

/-! ## Rounding -/

/-- The unsigned integer of 64 bits nearest to the number; a half goes away from zero. What is not
    a number counts as zero. -/
def toWord : Double → Nat
  | .finite x => min x.roundAway.toNat maxWord
  | .infinite negative => if negative then 0 else maxWord
  | .notANumber => 0

end Double

/-! ## Writing -/

namespace Decimal

/-- A decimal by its digits alone, with a point only where a fraction follows. -/
def plain (x : Decimal) : List Char :=
  let digits := natText x.digits
  if 0 ≤ x.exponent then digits ++ List.replicate x.exponent.toNat '0'
  else
    let places := (-x.exponent).toNat
    if places < digits.length then
      digits.take (digits.length - places) ++ '.' :: digits.drop (digits.length - places)
    else ['0', '.'] ++ List.replicate (places - digits.length) '0' ++ digits

end Decimal

namespace Double

/-- The fewest digits that read back as the number, without a power of ten; of two equally near
    decimals the one farther from zero. -/
def plain : Double → List Char
  | .finite x => (if x.negative then ['-'] else []) ++ (x.shortest .away).plain
  | .infinite negative => if negative then ['-', 'i', 'n', 'f'] else ['i', 'n', 'f']
  | .notANumber => ['N', 'a', 'N']

end Double

end Logbook.Number
