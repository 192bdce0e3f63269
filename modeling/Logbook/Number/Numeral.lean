import Logbook.Number.Binary64

/-!
# Decimal numerals

A numeral as written: a sign, whole digits, perhaps a fraction, perhaps an exponent. Its value is
its digits read as one number, scaled by a power of ten. A whole text may also be read as an integer
of 64 bits.

Results:

* `natOfDigits_append`: the digits of a longer numeral.
-/

namespace Logbook.Number

/-- Whether a character is an ASCII digit. -/
def isDigit (c : Char) : Bool :=
  0x30 ≤ c.toNat && c.toNat ≤ 0x39

/-- The value of an ASCII digit. -/
def digitValue (c : Char) : Nat :=
  c.toNat - 0x30

/-- The number that continues `n` by decimal digits. -/
def extendBy (n : Nat) (ds : List Char) : Nat :=
  ds.foldl (fun acc c => acc * 10 + digitValue c) n

/-- The number that decimal digits spell. -/
def natOfDigits (ds : List Char) : Nat :=
  extendBy 0 ds

theorem natOfDigits_append (a b : List Char) :
    natOfDigits (a ++ b) = extendBy (natOfDigits a) b := by
  simp [natOfDigits, extendBy]

/-- A decimal numeral. -/
structure Numeral where
  negative : Bool
  whole : List Char
  fraction : Option (List Char)
  exponent : Option Int
  deriving DecidableEq

namespace Numeral

/-- All digits of the numeral, read as one number. -/
def digits (n : Numeral) : Nat :=
  natOfDigits (n.whole ++ n.fraction.getD [])

/-- The power of ten that the digits are scaled by. -/
def scale (n : Numeral) : Int :=
  n.exponent.getD 0 - (n.fraction.getD []).length

/-- Whether the numeral has neither fraction nor exponent. -/
def isInteger (n : Numeral) : Bool :=
  n.fraction.isNone && n.exponent.isNone

/-- The double nearest to the numeral; `none` if it overflows. -/
def toBinary64? (n : Numeral) : Option Binary64 :=
  Binary64.ofDecimal? n.negative n.digits n.scale

end Numeral

/-! ## Scanning -/

/-- The digits at the front, and what follows them. -/
def spanDigits (cs : List Char) : List Char × List Char :=
  (cs.takeWhile isDigit, cs.dropWhile isDigit)

theorem spanDigits_length (cs : List Char) : (spanDigits cs).2.length ≤ cs.length :=
  (List.dropWhile_suffix isDigit).length_le

/-- The sign at the front, minus as `true`, and what follows it; no sign is plus. -/
def splitSign : List Char → Bool × List Char
  | '-' :: r => (true, r)
  | '+' :: r => (false, r)
  | cs => (false, cs)

theorem splitSign_length (cs : List Char) : (splitSign cs).2.length ≤ cs.length := by
  unfold splitSign
  split <;> simp

/-- The exponent after its mark: a sign, then at least one digit. -/
def exponentDigits? (cs : List Char) : Option (Int × List Char) :=
  match splitSign cs with
  | (negative, body) =>
    match spanDigits body with
    | ([], _) => none
    | (ds, rest) => some (if negative then -(natOfDigits ds : Int) else natOfDigits ds, rest)

theorem exponentDigits?_length {cs rest : List Char} {e : Int}
    (h : exponentDigits? cs = some (e, rest)) : rest.length ≤ cs.length := by
  have hs := spanDigits_length (splitSign cs).2
  unfold exponentDigits? at h
  split at h
  rename_i negative body hb
  rw [hb] at hs
  split at h
  · cases h
  · rename_i ds rest' _ hd
    cases h
    rw [hd] at hs
    have := splitSign_length cs
    rw [hb] at this
    exact Nat.le_trans hs this

/-- An exponent at the front, if one is marked there; `none` if the mark has no digits. -/
def exponent? (cs : List Char) : Option (Option Int × List Char) :=
  match cs with
  | c :: r =>
    if c = 'e' ∨ c = 'E' then (exponentDigits? r).map fun (e, rest) => (some e, rest)
    else some (none, cs)
  | [] => some (none, [])

theorem exponent?_length {cs rest : List Char} {e : Option Int}
    (h : exponent? cs = some (e, rest)) : rest.length ≤ cs.length := by
  unfold exponent? at h
  split at h
  · rename_i c r
    split at h
    · obtain ⟨⟨e', rest'⟩, he, hr⟩ := Option.map_eq_some_iff.1 h
      cases hr
      have := exponentDigits?_length he
      simp only [List.length_cons]
      omega
    · cases h
      exact Nat.le_refl _
  · cases h
    exact Nat.le_refl _

/-- Reads a whole text as a numeral in the liberal form: a sign of either kind, digits on at least
    one side of the point, an exponent. -/
def liberal? (cs : List Char) : Option Numeral :=
  let (negative, body) := splitSign cs
  let (whole, rest) := spanDigits body
  let (fraction, rest) := match rest with
    | '.' :: r => (some (spanDigits r).1, (spanDigits r).2)
    | _ => (none, rest)
  if whole.isEmpty && (fraction.getD []).isEmpty then none
  else match exponent? rest with
    | some (exponent, []) => some ⟨negative, whole, fraction, exponent⟩
    | _ => none

/-! ## Integers of 64 bits -/

/-- The largest unsigned integer of 64 bits. -/
def maxWord : Nat := 0xffffffffffffffff

/-- The number of signed integers of 64 bits that are not negative. -/
def integerLimit : Nat := 0x8000000000000000

/-- A text of digits only, at least one, as a number. -/
def digitsOnly? (cs : List Char) : Option Nat :=
  if cs.isEmpty then none else if cs.all isDigit then some (natOfDigits cs) else none

/-- A text as an unsigned integer of 64 bits; a plus sign may stand before the digits. -/
def word? (cs : List Char) : Option Nat :=
  (digitsOnly? (if cs.head? = some '+' then cs.drop 1 else cs)).filter (· ≤ maxWord)

/-- A sign and a magnitude as a signed integer of 64 bits. -/
def signedWord? (negative : Bool) (magnitude : Nat) : Option Int :=
  if negative then if magnitude ≤ integerLimit then some (-(magnitude : Int)) else none
  else if magnitude < integerLimit then some magnitude
  else none

/-- A text as a signed integer of 64 bits; a sign of either kind may stand before the digits. -/
def integer? (cs : List Char) : Option Int :=
  let (negative, body) := splitSign cs
  digitsOnly? body >>= signedWord? negative

/-- The decimal digits of a natural number. -/
def natText (n : Nat) : List Char :=
  Nat.toDigits 10 n

/-- The decimal digits of an integer, with a minus sign if it is negative. -/
def intText (n : Int) : List Char :=
  if n < 0 then '-' :: natText n.natAbs else natText n.natAbs

/-- A hexadecimal digit in lower case. -/
def hexDigit (n : Nat) : Char :=
  if n < 10 then Char.ofNat (0x30 + n) else Char.ofNat (0x61 + (n - 10))

end Logbook.Number
