import Logbook.Setting

/-!
# Places of settings

A place is written as a name followed by steps: a dot and a name lead into a table, a number in
brackets into an array, a negative one from its end. The number has 64 bits and may stand between
spaces and tabs. A text that is no such path is a name by itself.
-/

namespace Logbook.Setting

/-- A step from a setting into one of its parts. -/
inductive Step where
  | name (name : String)
  | index (i : Int)
  deriving DecidableEq

/-- A way from a table of settings to one of the parts. -/
structure Place where
  root : String
  steps : List Step
  deriving DecidableEq

namespace Place

/-! ## Reading -/

/-- A character of a name in a path. -/
def isNameChar (c : Char) : Bool :=
  c.isAlphanum || c == '_' || c == '-'

/-- What follows the spaces and tabs at the front. -/
def skipGaps (cs : List Char) : List Char :=
  cs.dropWhile fun c => c == ' ' || c == '\t'

/-- The number at the front and its closing bracket, and what follows them. -/
def index? (cs : List Char) : Option (Int × List Char) := do
  let body := skipGaps cs
  let negative := body.head? == some '-'
  let (digits, rest) := Number.spanDigits (if negative then body.drop 1 else body)
  let i ← Number.digitsOnly? digits >>= Number.signedWord? negative
  match skipGaps rest with
  | ']' :: rest => some (i, rest)
  | _ => none

/-- The steps of a path after its first name, of which there are at most `fuel`. -/
def steps? : (fuel : Nat) → List Char → Option (List Step)
  | _, [] => some []
  | 0, _ => none
  | fuel + 1, '.' :: r =>
    match r.takeWhile isNameChar with
    | [] => none
    | name => (steps? fuel (r.dropWhile isNameChar)).map (.name (String.ofList name) :: ·)
  | fuel + 1, '[' :: r => do
    let (i, rest) ← index? r
    let steps ← steps? fuel rest
    return .index i :: steps
  | _, _ => none

/-- The place that a text spells. -/
def ofString (s : String) : Place :=
  let cs := s.toList
  match cs.takeWhile isNameChar, steps? cs.length (cs.dropWhile isNameChar) with
  | c :: name, some steps => ⟨String.ofList (c :: name), steps⟩
  | _, _ => ⟨s, []⟩

/-! ## Setting a place -/

/-- The list with one item changed, counted from its end if the number is negative. A list that is
    too short is filled up with gaps. -/
def changeItem (f : Setting → Setting) (i : Int) (items : List Setting) : List Setting :=
  let size : Int := items.length
  let missing := (if 0 ≤ i then i + 1 - size else -i - size).toNat
  let gaps := List.replicate missing Setting.absent
  if 0 ≤ i then (items ++ gaps).modify i.toNat f
  else (gaps ++ items).modify ((gaps ++ items).length - (-i).toNat) f

/-- The setting with the part changed that some steps lead to; what is missing or in the way of the
    steps is made anew. -/
def change (f : Setting → Setting) : List Step → Setting → Setting
  | [], s => f s
  | .name name :: rest, s =>
    .table (Entries.put name (change f rest ((Entries.get? s.entries name).getD .absent)) s.entries)
  | .index i :: rest, s => .array (changeItem (change f rest) i s.items)

/-- A table with a setting laid over what was at a place. -/
def lay (place : Place) (upper table : Setting) : Setting :=
  change (Setting.join upper) (.name place.root :: place.steps) table

end Place

/-- A table with settings laid over it, each at the place that its name spells. -/
def layer (table : Setting) (upper : Entries Setting) : Setting :=
  upper.foldl (fun table entry => (Place.ofString entry.1).lay entry.2 table) table

end Logbook.Setting
