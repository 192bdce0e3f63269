import Logbook.Json.Basic
import Logbook.Json.Document

/-!
# Reading JSON values

The value of a document: its strings unescaped, its numbers rounded, its members put in order.
Values nest at most 127 deep.
-/

namespace Logbook.Json

/-- How deep arrays and objects may nest in a value. -/
def maxDepth : Nat := 127

/-- The number of a numeral. An integer of 64 bits stays an integer, except that minus zero is a
    double; anything else is the nearest double, and `none` if that overflows. -/
def Number.ofNumeral? (n : Logbook.Number.Numeral) : Option Number :=
  let magnitude : Int := n.digits
  let value := if n.negative then -magnitude else magnitude
  if h : n.isInteger = true ∧ FitsWord value ∧ ¬(n.negative = true ∧ magnitude = 0) then
    some (.integer value h.2.1)
  else n.toBinary64?.map .real

namespace Document

mutual

/-- The value of a document that may nest `depth` deep. -/
def value? (depth : Nat) : Document → Option Json
  | .null => some .null
  | .bool b => some (.bool b)
  | .number n => (Number.ofNumeral? n).map .number
  | .string source => (unescape? source).map fun cs => .string (String.ofList cs)
  | .array items =>
    match depth with
    | 0 => none
    | d + 1 => (items? d items).map .array
  | .object ms =>
    match depth with
    | 0 => none
    | d + 1 => (pairs? d ms).map fun ps => .object (Entries.ofPairs ps)

/-- The values of the items of an array. -/
def items? (depth : Nat) : List Document → Option (List Json)
  | [] => some []
  | doc :: rest =>
    match value? depth doc, items? depth rest with
    | some v, some vs => some (v :: vs)
    | _, _ => none

/-- The names and values of the members of an object, as they stand. -/
def pairs? (depth : Nat) : List (List Char × Document) → Option (List (String × Json))
  | [] => some []
  | (name, doc) :: rest =>
    match unescape? name, value? depth doc, pairs? depth rest with
    | some name, some v, some vs => some ((String.ofList name, v) :: vs)
    | _, _, _ => none

end

/-- The members of an object document that may nest `depth` deep. -/
def object? (depth : Nat) (doc : Document) : Option Members :=
  match value? depth doc with
  | some (.object ms) => some ms
  | _ => none

end Document

namespace Document

/-- The parts of a document under the given names. An object gives each part at most once and in
    any order, with other members among them that are not looked into; an array gives a first few
    of the parts in order. -/
def parts? (names : List String) : Document → Option (List (Option Document))
  | .array items =>
    if items.length ≤ names.length then
      some (items.map some ++ List.replicate (names.length - items.length) none)
    else none
  | doc => do
    let ms ← doc.members?
    names.mapM fun name =>
      match ms.filter (·.1 == name) with
      | [] => some none
      | [m] => some (some m.2)
      | _ => none

end Document

/-- The value that a JSON text spells. -/
def read? (s : String) : Option Json :=
  Document.read? s.toList >>= Document.value? maxDepth

/-- The members of the object that a JSON text spells. -/
def readObject? (s : String) : Option Members :=
  Document.read? s.toList >>= Document.object? maxDepth

end Logbook.Json
