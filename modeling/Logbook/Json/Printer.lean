import Logbook.Json.Basic
import Logbook.Number.Shortest
import Logbook.Number.Numeral

/-!
# Writing JSON values

The compact text of a value: no blanks, members in their order, a number by the fewest digits
that read back.

Results:

* `le_toNat_of_mem_escaped`: a written string holds no control character, hence no line break.
-/

namespace Logbook.Json

open Logbook.Number (natText intText hexDigit)

/-! ## Strings -/

/-- A character inside a written string. -/
def escaped (c : Char) : List Char :=
  if c = '"' then ['\\', '"']
  else if c = '\\' then ['\\', '\\']
  else if 0x20 ≤ c.toNat then [c]
  else if c = '\x08' then ['\\', 'b']
  else if c = '\x0c' then ['\\', 'f']
  else if c = '\n' then ['\\', 'n']
  else if c = '\r' then ['\\', 'r']
  else if c = '\t' then ['\\', 't']
  else ['\\', 'u', '0', '0', hexDigit (c.toNat / 16), hexDigit (c.toNat % 16)]

/-- A written string. -/
def stringText (s : String) : List Char :=
  '"' :: s.toList.flatMap escaped ++ ['"']

/-! ## Numbers -/

/-- Decimal digits with a point after the first `places` of them, filled up with zeros on either
    side. -/
def positional (digits : List Char) (places : Int) : List Char :=
  if places ≤ 0 then
    ['0', '.'] ++ List.replicate (-places).toNat '0' ++ digits
  else if places < digits.length then
    digits.take places.toNat ++ '.' :: digits.drop places.toNat
  else digits ++ List.replicate (places.toNat - digits.length) '0' ++ ['.', '0']

/-- Decimal digits with a point after the first of them, and a signed power of ten. -/
def scientific (digits : List Char) (power : Int) : List Char :=
  (match digits with
    | d :: [] => [d]
    | d :: rest => d :: '.' :: rest
    | [] => []) ++
    'e' :: (if power < 0 then '-' else '+') :: natText power.natAbs

/-- A decimal as JSON writes it: with a point from `10^-5` up to `10^16`, with a power of ten
    outside. -/
def decimalText (x : Logbook.Number.Decimal) : List Char :=
  if x.digits = 0 then ['0', '.', '0']
  else
    let digits := natText x.digits
    let places : Int := digits.length + x.exponent
    if -5 < places ∧ places ≤ 16 then positional digits places
    else scientific digits (places - 1)

/-- A written number; of two equally near decimals the even one. -/
def numberText : Number → List Char
  | .integer n _ => intText n
  | .real x => (if x.negative then ['-'] else []) ++ decimalText (x.shortest .toEven)

/-! ## Values -/

mutual

/-- The compact text of a value. -/
def chars : Json → List Char
  | .null => ['n', 'u', 'l', 'l']
  | .bool true => ['t', 'r', 'u', 'e']
  | .bool false => ['f', 'a', 'l', 's', 'e']
  | .number n => numberText n
  | .string s => stringText s
  | .array items => '[' :: itemChars items ++ [']']
  | .object ms => '\x7b' :: memberChars ms ++ ['\x7d']

/-- The texts of the items of an array with commas between them. -/
def itemChars : List Json → List Char
  | [] => []
  | [v] => chars v
  | v :: w :: rest => chars v ++ ',' :: itemChars (w :: rest)

/-- The texts of the members of an object with commas between them. -/
def memberChars : List (String × Json) → List Char
  | [] => []
  | [(k, v)] => stringText k ++ ':' :: chars v
  | (k, v) :: m :: rest => stringText k ++ ':' :: chars v ++ ',' :: memberChars (m :: rest)

end

/-- The compact text of a value. -/
def text (v : Json) : String :=
  String.ofList (chars v)

/-- The text that a value shows: a string stands for itself, anything else for its compact
    text. -/
def display : Json → String
  | .string s => s
  | v => text v

theorem le_toNat_of_mem_escaped {c d : Char} (h : d ∈ escaped c) : 0x20 ≤ d.toNat := by
  have hex : ∀ n < 16, 0x20 ≤ (hexDigit n).toNat := by decide
  have hall : (escaped c).all (fun d => decide (0x20 ≤ d.toNat)) = true := by
    unfold escaped
    repeat' split
    any_goals decide
    · rename_i hc
      simpa using hc
    · simp [hex (c.toNat / 16) (by omega), hex (c.toNat % 16) (by omega)]
  exact of_decide_eq_true (List.all_eq_true.1 hall d h)

end Logbook.Json
