import Logbook.Store.Ledger
import Logbook.Disk.Route
import Logbook.Text.Lines

/-!
# Durable stores

A ledger together with a file that holds a row per line, each as a JSON object. Rows are added at
the end of the file; a deletion writes the rows that stay to a file beside it and moves that over
the old one, so that a deletion that breaks off anywhere leaves the old file. Opening reads the
file back: blank lines and lines that spell no row are passed over.

Results:

* `deleteCut_error_ledger`: a deletion that fails leaves the rows as they were.
-/

namespace Logbook

/-- A ledger with a file on a disk. -/
structure DurableStore where
  path : Path
  ledger : Ledger
  disk : Disk

namespace DurableStore

/-! ## The file -/

/-- A row as a line of the file, with its end. -/
def rowLine (row : Row) : String :=
  Json.text row.json ++ "\n"

/-- Rows as lines of the file. -/
def encode (rows : List Row) : ByteArray :=
  (String.join (rows.map rowLine)).toUTF8

/-- The row that a line spells, if it is not blank and spells one. -/
def rowOfLine? (line : List Char) : Option Row :=
  if Text.allBlank line then none else Row.read? (String.ofList line)

/-- The rows of a text in the order of their lines. -/
def rowsOfText (text : String) : List Row :=
  (Text.lines (· == '\n') text.toList).filterMap rowOfLine?

/-- The rows of a file in the order of their lines; the whole file has to be UTF-8. -/
def decode (content : ByteArray) : Except StoreError (List Row) :=
  match String.fromUTF8? content with
  | some text => .ok (rowsOfText text)
  | none => .error (.io .notUtf8)

/-! ## Opening -/

/-- Makes the file and its directory if they are missing. -/
def prepare? (path : Path) (disk : Disk) : Option Disk :=
  disk.makeDirectories? path.parent >>= Disk.append? path .empty

/-- Opens the store at a path, and gives the disk afterwards. -/
def openAt (path : Path) (disk : Disk) : Except StoreError DurableStore × Disk :=
  match prepare? path disk with
  | none => (.error (.io .system), (disk.makeDirectories? path.parent).getD disk)
  | some disk =>
    match (disk.read? path).map decode with
    | some (.ok rows) => (.ok ⟨path, .ofRows rows, disk⟩, disk)
    | some (.error e) => (.error e, disk)
    | none => (.error (.io .system), disk)

/-- Opens the store at a path as written, seen from a directory, and gives the disk afterwards. The
    directories on the way are made first, and stay even if the store does not open. -/
def openRoute (directory : Path) (route : Route) (disk : Disk) :
    Except StoreError DurableStore × Disk :=
  if route.steps.dropLast.any Route.Step.hasZero then (.error (.io .zeroInPath), disk)
  else
    match disk.makeParent directory route with
    | (none, disk) => (.error (.io .system), disk)
    | (some parent, disk) =>
      if route.steps.any Route.Step.hasZero then (.error (.io .zeroInPath), disk)
      else
        match route.nameIn? parent with
        | some path => openAt path disk
        | none => (.error (.io .system), disk)

/-! ## Adding rows -/

/-- Adds rows to the file and then to the ledger. -/
def insertMany (rows : List Row) (s : DurableStore) : Except StoreError Unit × DurableStore :=
  match s.disk.append? s.path (encode rows) with
  | some disk => (.ok (), { s with disk, ledger := s.ledger.insertMany rows })
  | none => (.error (.io .system), s)

/-! ## Deleting rows -/

/-- A point at which rewriting the file breaks off. -/
inductive Interruption where
  /-- The file beside it cannot be made. -/
  | create
  /-- Only so many bytes of it are written. -/
  | write (bytes : Nat)
  /-- It cannot be moved over the old file. -/
  | rename
  deriving DecidableEq

/-- The file beside the store's own that a rewriting writes first. -/
def sibling (path : Path) : Path :=
  path.withExtension "jsonl.tmp"

/-- Replaces the file by one that holds these rows, and gives the disk afterwards. -/
def rewrite (path : Path) (rows : List Row) (cut : Option Interruption) (disk : Disk) :
    Except StoreError Unit × Disk :=
  let content := encode rows
  match if cut = some .create then none else disk.write? (sibling path) .empty with
  | none => (.error (.io .system), disk)
  | some disk =>
    match cut with
    | some (.write n) =>
      (.error (.io .system), disk.put (sibling path) (.file (content.extract 0 n)))
    | _ =>
      let written := disk.put (sibling path) (.file content)
      match if cut = some .rename then none else written.rename? (sibling path) path with
      | none => (.error (.io .system), written)
      | some disk => (.ok (), disk)

/-- Removes the rows that a deletion hits, from the file and then from the ledger, unless the
    rewriting is cut. If the deletion hits nothing, the file is not touched. -/
def deleteCut (d : Deletion) (cut : Option Interruption) (s : DurableStore) :
    Except StoreError Nat × DurableStore :=
  if s.ledger.hitCount d = 0 then (.ok 0, s)
  else
    let kept := s.ledger.survivors d
    match rewrite s.path kept.oldestFirst cut s.disk with
    | (.ok (), disk) => (.ok (s.ledger.hitCount d), { s with disk, ledger := kept })
    | (.error e, disk) => (.error e, { s with disk })

/-- The length of the file. -/
def size (s : DurableStore) : Except StoreError Nat :=
  match s.disk.read? s.path with
  | some content => .ok content.size
  | none => .error (.io .system)

instance : Store DurableStore where
  insert row := .of (insertMany [row])
  insertMany rows := .of (insertMany rows)
  select sel s := .ok (s.ledger.select sel)
  count sel s := .ok (s.ledger.count sel)
  distinct f s := .ok (s.ledger.distinct f)
  delete d := .of (deleteCut d none)
  size s := s.size

theorem deleteCut_error_ledger {d : Deletion} {cut : Option Interruption} {s s' : DurableStore}
    {e : StoreError} (h : deleteCut d cut s = (.error e, s')) :
    s'.ledger = s.ledger ∧ s'.path = s.path := by
  unfold deleteCut at h
  split at h
  · cases h
  · simp only at h
    split at h
    · cases h
    · cases h
      exact ⟨rfl, rfl⟩

end DurableStore

end Logbook
