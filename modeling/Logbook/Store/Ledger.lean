import Logbook.Store
import Logbook.Bisection

/-!
# Ledgers

A ledger keeps rows in memory, oldest first. A new row goes behind all rows that are not newer, so
that of rows with equal timestamps the latest inserted comes last, and reading the rows backwards
gives the order that a store promises. Its place is found by bisection, which relies on the rows
being in order.

Results:

* `delete_rows`: a deletion leaves the rows that it does not hit.
-/

namespace Logbook

/-- Whether a row is not newer than another one. -/
def Row.notNewer (a b : Row) : Bool :=
  decide (a.timestamp ≤ b.timestamp)

/-- Rows in memory, oldest first. -/
structure Ledger where
  rows : List Row
  deriving DecidableEq

namespace Ledger

/-- The ledger without rows. -/
def empty : Ledger := ⟨[]⟩

/-- Rows, oldest first, with one more behind all that are not newer. -/
def insertRow (row : Row) (rows : List Row) : List Row :=
  rows.insertIdx (bisect (Row.notNewer · row) rows) row

/-- The ledger with one more row. -/
def insert (l : Ledger) (row : Row) : Ledger :=
  ⟨insertRow row l.rows⟩

/-- The ledger with more rows, inserted in order. -/
def insertMany (l : Ledger) (rows : List Row) : Ledger :=
  rows.foldl insert l

/-- The ledger of rows inserted in order. -/
def ofRows (rows : List Row) : Ledger :=
  empty.insertMany rows

/-- The rows, oldest first. -/
def oldestFirst (l : Ledger) : List Row :=
  l.rows

/-- The page of the rows that a selection admits. -/
def select (l : Ledger) (s : Selection) : List Row :=
  page (s.offset.getD 0) s.limit (l.rows.reverse.filter s.admits)

/-- The number of rows that a selection admits on all pages. -/
def count (l : Ledger) (s : Selection) : Nat :=
  (l.rows.filter s.admits).length

/-- A text put into an ascending list that holds none twice. -/
def insertText (s : String) : List String → List String
  | [] => [s]
  | t :: rest =>
    if s < t then s :: t :: rest else if t < s then t :: insertText s rest else t :: rest

/-- The distinct values of a facet in ascending order. -/
def distinct (l : Ledger) (f : Facet) : List String :=
  l.rows.foldr (fun row found => insertText (f.of row) found) []

/-- The rows that a deletion leaves. -/
def survivors (l : Ledger) (d : Deletion) : Ledger :=
  ⟨l.rows.filter fun row => !d.hits row⟩

/-- The number of rows that a deletion removes. -/
def hitCount (l : Ledger) (d : Deletion) : Nat :=
  l.rows.length - (l.survivors d).rows.length

/-- The bytes of all rows together. -/
def size (l : Ledger) : Nat :=
  l.rows.foldr (fun row bytes => row.byteLength + bytes) 0

instance : Store Ledger where
  insert row := .of fun l => (.ok (), l.insert row)
  insertMany rows := .of fun l => (.ok (), l.insertMany rows)
  select s l := .ok (l.select s)
  count s l := .ok (l.count s)
  distinct f l := .ok (l.distinct f)
  delete d := .of fun l => (.ok (l.hitCount d), l.survivors d)
  size l := .ok l.size

@[simp] theorem apply_insertMany (rows : List Row) (l : Ledger) :
    (Store.insertMany rows : Change Ledger Unit).apply l = (.ok (), l.insertMany rows) := rfl

@[simp] theorem apply_delete (d : Deletion) (l : Ledger) :
    (Store.delete d : Change Ledger Nat).apply l = (.ok (l.hitCount d), l.survivors d) := rfl

@[simp] theorem store_select (s : Selection) (l : Ledger) :
    Store.select s l = .ok (l.select s) := rfl

@[simp] theorem store_count (s : Selection) (l : Ledger) :
    Store.count s l = .ok (l.count s) := rfl

theorem delete_rows (l : Ledger) (d : Deletion) :
    (l.survivors d).rows = l.rows.filter fun row => !d.hits row := rfl

end Ledger

end Logbook
