import Logbook.Toml.Value

/-!
# TOML texts

A text is a sequence of statements, one a line: the header of a table, the header of the next table
of an array, or a key and its value. A statement goes on over the ends of lines inside brackets.
-/

namespace Logbook.Toml

/-! ## Statements -/

/-- The statements of a token sequence: what lies between line ends that are not inside `depth` or
    more brackets. The tokens `seen` of the first one come first, latest first. -/
def statements (depth : Nat) (seen : List Token) : List Token → List (List Token)
  | [] => [seen.reverse]
  | t :: rest =>
    if t = .newline ∧ depth = 0 then seen.reverse :: statements 0 [] rest
    else if t = .mark '[' ∨ t = .mark '\x7b' then statements (depth + 1) (t :: seen) rest
    else if t = .mark ']' ∨ t = .mark '\x7d' then statements (depth - 1) (t :: seen) rest
    else statements depth (t :: seen) rest

/-- A line of a text. -/
inductive Statement where
  | empty
  | header (next : Bool) (key : List String)
  | assignment (key : List String) (v : Setting)

/-- The tokens without the blanks at the front. -/
def dropBlanks (ts : List Token) : List Token :=
  ts.dropWhile (· == .blank)

/-- A header after its opening brackets, with as many closing ones at its end. -/
def header? (next : Bool) (ts : List Token) : Option Statement :=
  let closing := List.replicate (if next then 2 else 1) (Token.mark ']')
  let back := dropBlanks ts.reverse
  if closing.isPrefixOf back then
    (key? (back.drop closing.length).reverse).map (.header next)
  else none

/-- A key, an equals sign and a value. -/
def assignment? (ts : List Token) : Option Statement :=
  match ts.dropWhile (· != .mark '=') with
  | [] => none
  | _ :: after =>
    match key? (ts.takeWhile (· != .mark '=')), value? after with
    | some key, some v => some (.assignment key v)
    | _, _ => none

/-- The statement that a sequence of tokens spells. -/
def statement? (ts : List Token) : Option Statement :=
  match dropBlanks ts with
  | [] => some .empty
  | .mark '[' :: .mark '[' :: rest => header? true rest
  | .mark '[' :: rest => header? false rest
  | ts => assignment? ts

/-! ## Texts -/

/-- The table that the statements build, and the header that the next keys lie below. -/
structure Progress where
  header : List String
  entries : Entries Node

/-- One statement. -/
def Progress.next? (p : Progress) : Statement → Option Progress
  | .empty => some p
  | .header next key => (openHeader? next key .header p.entries).map fun es => ⟨key, es⟩
  | .assignment key v =>
    (assignKey? p.header key v .header p.entries).map fun es => { p with entries := es }

/-- The entries that a text spells. -/
def read? (cs : List Char) : Option (Entries Setting) := do
  let ts ← tokens? cs
  let lines ← (statements 0 [] ts).mapM statement?
  let last ← lines.foldlM Progress.next? ⟨[], []⟩
  return Node.settings last.entries

end Logbook.Toml
