import Logbook.Json.Reader
import Logbook.Text.Lines
import Logbook.Toml.Document

/-!
# Languages of settings files

A file of settings may be written in several languages, told apart by the ending of its name. TOML
is the one that is meant to be used. YAML, RON and JSON5 are read as far as they agree with JSON; an
INI file gives texts, by sections.
-/

namespace Logbook.Setting

/-! ## JSON -/

mutual

/-- The setting that a JSON value stands for. -/
def ofJson : Json → Setting
  | .null => .absent
  | .bool b => .bool b
  | .number (.integer n _) => .integer n
  | .number (.real x) => .real (.finite x)
  | .string s => .text s
  | .array vs => .array (ofItems vs)
  | .object ms => .table (ofMembers ms)

/-- The settings that JSON values stand for. -/
def ofItems : List Json → List Setting
  | [] => []
  | v :: rest => ofJson v :: ofItems rest

/-- The entries that the members of an object stand for. -/
def ofMembers : List (String × Json) → List (String × Setting)
  | [] => []
  | (name, v) :: rest => (name, ofJson v) :: ofMembers rest

end

/-- The entries that the text of a JSON object spells. -/
def readJson? (cs : List Char) : Option (Entries Setting) :=
  (Json.readObject? (String.ofList cs)).map ofMembers

/-- Whether every backslash begins an escape that RON has as well. -/
def plainEscapes : List Char → Bool
  | '\\' :: c :: rest => c ∈ ['"', '\\', 'n', 'r', 't'] && plainEscapes rest
  | _ :: rest => plainEscapes rest
  | [] => true

/-! ## INI -/

/-- What the lines of an INI text have given so far. -/
structure Sections where
  /-- The section that the next keys belong to, if one has begun. -/
  current : Option String
  entries : Entries Setting

/-- One more key with its value. -/
def Sections.add (s : Sections) (key value : String) : Sections :=
  let added := Entries.put key (.text value)
  match s.current with
  | none => { s with entries := added s.entries }
  | some name =>
    let old := ((Entries.get? s.entries name).getD .absent).entries
    { s with entries := Entries.put name (.table (added old)) s.entries }

/-- A text without the quotes around it. -/
def unquote (cs : List Char) : List Char :=
  match cs, cs.getLast? with
  | '"' :: c :: rest, some '"' => (c :: rest).dropLast
  | _, _ => cs

/-- One more line: blank, a comment, the header of a section, or a key and its value. -/
def Sections.line? (s : Sections) (line : List Char) : Option Sections :=
  match Text.trim line with
  | [] | ';' :: _ | '#' :: _ => some s
  | '[' :: rest =>
    if rest.getLast? = some ']' then
      some { s with current := some (String.ofList (Text.trim rest.dropLast)) }
    else none
  | cs =>
    let isSign : Char → Bool := fun c => c == '=' || c == ':'
    match Text.trim (cs.takeWhile (!isSign ·)), cs.dropWhile (!isSign ·) with
    | c :: key, _ :: value =>
      some (s.add (String.ofList (c :: key)) (String.ofList (unquote (Text.trim value))))
    | _, _ => none

/-- The entries that an INI text spells. -/
def readIni? (cs : List Char) : Option (Entries Setting) :=
  ((Text.lines (· == '\n') cs).foldlM Sections.line? ⟨none, []⟩).map Sections.entries

/-! ## Languages -/

/-- The language of a file of settings. -/
inductive Dialect where
  | toml
  | json
  | yaml
  | ini
  | ron
  | json5
  deriving DecidableEq

namespace Dialect

/-- The endings of the names of files and the languages that they tell, in the order in which they
    are tried. -/
def endings : List (String × Dialect) :=
  [("toml", .toml), ("json", .json), ("yaml", .yaml), ("yml", .yaml), ("ini", .ini), ("ron", .ron),
    ("json5", .json5)]

/-- The entries that a text spells. -/
def read? : Dialect → List Char → Option (Entries Setting)
  | .toml, cs => Toml.read? cs
  | .json, cs => readJson? cs
  | .yaml, cs => if Text.allBlank cs then some [] else readJson? cs
  | .ini, cs => readIni? cs
  | .ron, cs => if plainEscapes cs then readJson? cs else none
  | .json5, cs => readJson? cs

end Dialect

end Logbook.Setting
