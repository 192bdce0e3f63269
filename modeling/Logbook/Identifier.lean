import Logbook.Number.Numeral

/-!
# Identifiers and stamps

Random identifiers in the form of RFC 9562, version 4: 122 bits of choice written as hexadecimal
digits in five groups. A record that is made is stamped with one and with the current instant.
-/

namespace Logbook

namespace Identifier

open Logbook.Number (hexDigit twoPow)

/-- The lowest hexadecimal digits of a number, as many as `width`. -/
def fixedHex : (width : Nat) → Nat → List Char
  | 0, _ => []
  | width + 1, n => fixedHex width (n / 16) ++ [hexDigit (n % 16)]

/-- The identifier that the lowest 122 bits of a number choose. -/
def ofNat (n : Nat) : String :=
  String.ofList <|
    fixedHex 8 (n / twoPow 90) ++ '-' :: fixedHex 4 (n / twoPow 74) ++ '-' :: '4' ::
      fixedHex 3 (n / twoPow 62) ++ '-' :: hexDigit (8 + n / twoPow 60 % 4) ::
        fixedHex 3 (n / twoPow 48) ++ '-' :: fixedHex 12 n

end Identifier

/-- What the surroundings add to a record: an identifier of its own and the current instant, in
    milliseconds since 1970-01-01. -/
structure Stamp where
  id : String
  now : Int

namespace Stamp

/-- A supply of stamps, one for each record made. -/
abbrev Supply := Nat → Stamp

/-- The supply after the first `n` stamps are used. -/
def Supply.drop (n : Nat) (stamps : Supply) : Supply :=
  fun i => stamps (n + i)

end Stamp

end Logbook
