import Logbook.Setting
import Logbook.Time.Rfc3339
import Logbook.Time.Timestamp
import Logbook.Toml.Token

/-!
# TOML words as settings

The words that are values: truth values, integers in four bases, floating-point numbers, dates and
times. Digits may be grouped by underscores. A date or time is a setting by its text, with `T`
between date and time. Seconds that are not given stay away; a fraction keeps at most nine digits
and no zeros at its end, but at least one digit.
-/

namespace Logbook.Toml

open Logbook.Number (isDigit natOfDigits splitSign signedWord? Numeral)
open Logbook.Time.Rfc3339 (digits? expect? date? offset?)

/-! ## Numbers -/

/-- Digits without the underscores between them, of which each stands between two digits. -/
def ungroup? (ok : Char → Bool) : List Char → Option (List Char)
  | [] => none
  | [c] => if ok c then some [c] else none
  | c :: '_' :: r => if ok c then (ungroup? ok r).map (c :: ·) else none
  | c :: d :: r => if ok c then (ungroup? ok (d :: r)).map (c :: ·) else none

/-- Decimal digits, grouped or not, that do not begin with a zero unless they are one zero. -/
def wholeDigits? (cs : List Char) : Option (List Char) :=
  (ungroup? isDigit cs).filter fun ds => ds.head? != some '0' || ds.length == 1

/-- The number that digits of a base spell. -/
def inBase (base : Nat) (ds : List Char) : Nat :=
  ds.foldl (fun n c => n * base + (Json.hexValue? c).getD 0) 0

/-- Whether a character is a digit of a base up to sixteen. -/
def isDigitOf (base : Nat) (c : Char) : Bool :=
  (Json.hexValue? c).any (· < base)

/-- The base that a letter after a leading zero announces. -/
def baseOf? (c : Char) : Option Nat :=
  if c = 'x' then some 16 else if c = 'o' then some 8 else if c = 'b' then some 2 else none

/-- The magnitude of an integer with a base before its digits. -/
def based? : List Char → Option Nat
  | '0' :: c :: r => do
    let base ← baseOf? c
    let ds ← ungroup? (isDigitOf base) r
    return inBase base ds
  | _ => none

/-- A word as an integer; it has to be one of 64 bits with a sign. -/
def integer? (cs : List Char) : Option Setting :=
  let found := match based? cs with
    | some n => signedWord? false n
    | none => (wholeDigits? (splitSign cs).2).bind fun ds =>
      signedWord? (splitSign cs).1 (natOfDigits ds)
  found.map .integer

/-- A digit or an underscore. -/
def isGroupChar (c : Char) : Bool :=
  isDigit c || c == '_'

/-- The fraction at the front, if a point is there, and what follows it. -/
def fraction? : List Char → Option (Option (List Char) × List Char)
  | '.' :: r => (ungroup? isDigit (r.takeWhile isGroupChar)).map (some ·, r.dropWhile isGroupChar)
  | cs => some (none, cs)

/-- The exponent that a whole text is, if it is not empty. -/
def exponent? : List Char → Option (Option Int)
  | [] => some none
  | c :: r =>
    if c = 'e' ∨ c = 'E' then
      (ungroup? isDigit (splitSign r).2).map fun ds =>
        some (if (splitSign r).1 then -(natOfDigits ds : Int) else natOfDigits ds)
    else none

/-- A word as a numeral with a fraction or an exponent. -/
def numeral? (cs : List Char) : Option Numeral := do
  let (negative, body) := splitSign cs
  let whole ← wholeDigits? (body.takeWhile isGroupChar)
  let (fraction, rest) ← fraction? (body.dropWhile isGroupChar)
  let exponent ← exponent? rest
  if fraction.isNone && exponent.isNone then none else some ⟨negative, whole, fraction, exponent⟩

/-- A word as a floating-point number; a numeral has to stay finite. -/
def real? (cs : List Char) : Option Setting :=
  let (negative, body) := splitSign cs
  if body = ['i', 'n', 'f'] then some (.real (.infinite negative))
  else if body = ['n', 'a', 'n'] then some (.real .notANumber)
  else (numeral? cs >>= Numeral.toBinary64?).map fun x => .real (.finite x)

/-! ## Dates and times -/

/-- The digits of a fraction as they are written back: at most nine, no zeros at the end, but at
    least one digit. -/
def fractionText (ds : List Char) : List Char :=
  match ((ds.take 9).reverse.dropWhile (· == '0')).reverse with
  | [] => ['.', '0']
  | kept => '.' :: kept

/-- The seconds at the front with their fraction, if a colon is there, as they are written back, and
    what follows them. -/
def seconds? : List Char → Option (List Char × List Char)
  | ':' :: r => do
    let (second, rest) ← digits? 2 r
    if 60 < second then none
    else
      let text := ':' :: Time.fixedDigits 2 second
      match rest with
      | '.' :: r =>
        match Number.spanDigits r with
        | ([], _) => none
        | (ds, rest) => some (text ++ fractionText ds, rest)
      | _ => some (text, rest)
  | cs => some ([], cs)

/-- The time of day at the front, as it is written back, and what follows it. -/
def clock? (cs : List Char) : Option (List Char × List Char) := do
  let (hour, r) ← digits? 2 cs
  let r ← expect? ':' r
  let (minute, r) ← digits? 2 r
  let (seconds, r) ← seconds? r
  if hour < 24 ∧ minute < 60 then
    some (Time.fixedDigits 2 hour ++ ':' :: Time.fixedDigits 2 minute ++ seconds, r)
  else none

/-- The offset that a whole text is, as it is written back; it may be missing. -/
def offsetText? (cs : List Char) : Option (List Char) :=
  match cs with
  | [] => some []
  | [c] => if c = 'Z' ∨ c = 'z' then some ['Z'] else none
  | _ => do
    let (minutes, rest) ← offset? cs
    if rest.isEmpty then
      let size := minutes.natAbs
      some ((if minutes < 0 then '-' else '+') ::
        Time.fixedDigits 2 (size / 60) ++ ':' :: Time.fixedDigits 2 (size % 60))
    else none

/-- A word as a date, a time of day or both, as it is written back. -/
def moment? (cs : List Char) : Option (List Char) :=
  match date? cs with
  | none =>
    match clock? cs with
    | some (clock, []) => some clock
    | _ => none
  | some (_, []) => some cs
  | some (_, r) => do
    let r ← Time.Rfc3339.joint? r
    let (clock, r) ← clock? r
    let offset ← offsetText? r
    return cs.take 10 ++ 'T' :: clock ++ offset

/-! ## Words -/

/-- The setting that a word is. -/
def scalar? (cs : List Char) : Option Setting :=
  if cs = ['t', 'r', 'u', 'e'] then some (.bool true)
  else if cs = ['f', 'a', 'l', 's', 'e'] then some (.bool false)
  else
    match integer? cs with
    | some v => some v
    | none =>
      match real? cs with
      | some v => some v
      | none => (moment? cs).map fun text => .text (String.ofList text)

end Logbook.Toml
