import Logbook.Entries
import Logbook.Number.Double
import Logbook.Text.Casing

/-!
# Settings as they are given

A setting comes from a file or from a variable, and may have another type than the one that is
wanted: numbers may be given as texts or as truth values, texts as numbers. A table is read by the
names of its entries, an array in its place by position.
-/

namespace Logbook

/-- A setting as it is given. -/
inductive Setting where
  /-- A gap in an array. -/
  | absent
  | bool (b : Bool)
  | integer (n : Int)
  | real (x : Number.Double)
  | text (s : String)
  | array (items : List Setting)
  | table (entries : List (String × Setting))

namespace Setting

/-! ## Taking a setting as a value -/

/-- The truth value that a word in any case stands for. -/
def switch? (s : String) : Option Bool :=
  let word := String.ofList (Text.lower s.toList)
  if word ∈ ["true", "on", "yes"] then some true
  else if word ∈ ["false", "off", "no"] then some false
  else none

/-- A setting as a natural number of at most 64 bits. -/
def natural? : Setting → Option Nat
  | .integer n => if 0 ≤ n then some n.toNat else none
  | .bool b => some b.toNat
  | .real x => some x.toWord
  | .text s =>
    match switch? s with
    | some b => some b.toNat
    | none => Number.word? s.toList
  | _ => none

/-- A setting as a text. -/
def text? : Setting → Option String
  | .text s => some s
  | .bool b => some (if b then "true" else "false")
  | .integer n => some (String.ofList (Number.intText n))
  | .real x => some (String.ofList x.plain)
  | _ => none

/-- The entries of a table; anything else has none. -/
def entries : Setting → Entries Setting
  | .table es => es
  | _ => []

/-- The items of an array; anything else has none. -/
def items : Setting → List Setting
  | .array vs => vs
  | _ => []

/-- The parts of a setting under the given names: the entries of a table, or the first items of an
    array. -/
def parts? (names : List String) : Setting → Option (List (Option Setting))
  | .table es => some (names.map (Entries.get? es))
  | .array vs => some ((vs.map some ++ List.replicate names.length none).take names.length)
  | _ => none

/-! ## Laying settings over each other -/

mutual

/-- A setting laid over another: the entries of a table are laid over those of the other, which
    becomes a table if it is none, and anything else takes the place of what was there. -/
def join : (upper lower : Setting) → Setting
  | .table es, lower => joinEntries es (.table lower.entries)
  | upper, _ => upper

/-- Entries laid over a setting one after the other. -/
def joinEntries : List (String × Setting) → Setting → Setting
  | [], lower => lower
  | (name, upper) :: rest, lower =>
    joinEntries rest (.table (Entries.put name
      (join upper ((Entries.get? lower.entries name).getD .absent)) lower.entries))

end

end Setting

end Logbook
