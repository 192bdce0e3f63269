import Logbook.Setting

/-!
# TOML tables in the making

A TOML text builds its tables up line by line, and how a table came about decides what may still be
added to it. A header opens a table once, and none that dotted keys lead into; a dotted key leads
into tables that have no header of their own; a value is closed; the parts of an array of tables are
reached through its latest table.
-/

namespace Logbook.Toml

/-- How a table came about. -/
inductive Origin where
  /-- By a header of its own. -/
  | header
  /-- Only passed through by the header of another table. -/
  | passed
  /-- By a dotted key, or passed through by the header of another table and then by such a key. -/
  | dotted
  deriving DecidableEq

/-- What stands under a key. -/
inductive Node where
  | value (v : Setting)
  | table (origin : Origin) (entries : List (String × Node))
  /-- An array of tables: the latest one, and those before it, the latest first. -/
  | tables (latest : List (String × Node)) (earlier : List Setting)

namespace Node

mutual

/-- A finished node. -/
def setting : Node → Setting
  | .value v => v
  | .table _ es => .table (settings es)
  | .tables latest earlier => .array ((.table (settings latest) :: earlier).reverse)

/-- The finished entries of a table. -/
def settings : List (String × Node) → List (String × Setting)
  | [] => []
  | (name, node) :: rest => (name, node.setting) :: settings rest

end

end Node

/-- What to do with a table, given how it came about. -/
abbrev Change := Origin → Entries Node → Option (Entries Node)

/-- Changes the table that a path leads to, making the tables that are missing on the way. A path
    that is part of a key does not lead through tables that have headers, and those that it leads
    through are open to dotted keys only from then on. -/
def within? (byKey : Bool) (change : Change) : List String → Change
  | [], origin, es => change origin es
  | name :: rest, _, es =>
    match es.get? name with
    | none =>
      let origin := if byKey then Origin.dotted else .passed
      (within? byKey change rest origin []).map fun inner => es.put name (.table origin inner)
    | some (.table origin inner) =>
      if byKey ∧ origin = .header then none
      else
        let origin := if byKey then Origin.dotted else origin
        (within? byKey change rest origin inner).map fun inner => es.put name (.table origin inner)
    | some (.tables latest earlier) =>
      (within? byKey change rest .header latest).map fun latest =>
        es.put name (.tables latest earlier)
    | some (.value _) => none

/-- Gives a key that is not there yet a value. -/
def assign? (name : String) (v : Setting) : Change := fun _ es =>
  if (es.get? name).isSome then none else some (es.put name (.value v))

/-- Gives a key a value, where the last name of the key is split off. A dotted key has to end in a
    table that is open to dotted keys. -/
def assignAt? (path : List String) (name : String) (v : Setting) : Change :=
  within? true
    (fun origin es => if path ≠ [] ∧ origin ≠ .dotted then none else assign? name v origin es)
    path

/-- Gives a key below the table of a header a value. -/
def assignKey? (header key : List String) (v : Setting) : Change :=
  match key.getLast? with
  | none => fun _ _ => none
  | some name => within? false (assignAt? key.dropLast name v) header

/-- Opens a table by its header. -/
def openTable? (name : String) : Change := fun _ es =>
  match es.get? name with
  | none => some (es.put name (.table .header []))
  | some (.table .passed inner) => some (es.put name (.table .header inner))
  | _ => none

/-- Opens the next table of an array of tables. -/
def openNext? (name : String) : Change := fun _ es =>
  match es.get? name with
  | none => some (es.put name (.tables [] []))
  | some (.tables latest earlier) =>
    some (es.put name (.tables [] (.table (Node.settings latest) :: earlier)))
  | _ => none

/-- Opens what a header names: the next table of an array, or a table. -/
def openHeader? (next : Bool) (header : List String) : Change :=
  match header.getLast? with
  | none => fun _ _ => none
  | some name => within? false (if next then openNext? name else openTable? name) header.dropLast

/-- The entries that keys and their values make, one after the other. -/
def ofAssignments? (assignments : List (List String × Setting)) : Option (Entries Node) :=
  assignments.foldlM (fun es a => assignKey? [] a.1 a.2 .header es) []

end Logbook.Toml
