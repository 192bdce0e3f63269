import Logbook.Entries
import Logbook.Number.Binary64
import Logbook.Number.Numeral

/-!
# JSON values

Values of the JSON data format. Objects keep the order of their members; a number is an integer of
64 bits, signed or unsigned, or a finite double.
-/

namespace Logbook

/-- Whether an integer is one of 64 bits, signed or unsigned. -/
def FitsWord (n : Int) : Prop := -(Number.integerLimit : Int) ≤ n ∧ n ≤ Number.maxWord

instance (n : Int) : Decidable (FitsWord n) :=
  inferInstanceAs (Decidable (_ ∧ _))

/-- A JSON number. -/
inductive Json.Number where
  | integer (n : Int) (fits : FitsWord n)
  | real (x : Number.Binary64)
  deriving DecidableEq

/-- A JSON value. -/
inductive Json where
  | null
  | bool (b : Bool)
  | number (n : Json.Number)
  | string (s : String)
  | array (items : List Json)
  | object (members : List (String × Json))
  deriving BEq

instance : Inhabited Json := ⟨.null⟩

namespace Json

/-- The members of an object, in order. -/
abbrev Members := Entries Json

/-! ## Building values -/

/-- An integer of 64 bits as a value; others saturate. -/
def ofInt (n : Int) : Json :=
  if h : FitsWord n then .number (.integer n h)
  else .number (.integer Logbook.Number.maxWord (by decide))

/-- A natural number of at most 64 bits as a value; larger ones saturate. -/
def ofNat (n : Nat) : Json :=
  ofInt n

/-- An optional text as a value. -/
def ofOption : Option String → Json
  | none => .null
  | some s => .string s

/-- A list of texts as a value. -/
def ofStrings (ss : List String) : Json :=
  .array (ss.map .string)

end Json

end Logbook
