import Logbook.Plan
import Logbook.Query.Match
import Logbook.Intake

/-!
# Searching a store

A search is planned and carried out. Its total counts the matches on all pages; for a scan that is
the length of the answer without paging, so it is bounded by the budget of that scan.
-/

namespace Logbook

variable {σ : Type} [Store σ]

/-- A page of records, the number of matches on all pages, and the facets of the whole store. -/
structure SearchResult where
  records : List Record
  total : Nat
  levels : List String
  services : List String

namespace SearchResult

/-- The result as an object. -/
def json (r : SearchResult) : Json :=
  .object [("records", .array (r.records.map Record.json)), ("total_count", .ofNat r.total),
    ("levels", .ofStrings r.levels), ("services", .ofStrings r.services)]

end SearchResult

namespace Search

/-- The records of rows; one row that cannot be made into a record fails them all. -/
def recordsOfRows (rows : List Row) : Except StoreError (List Record) :=
  rows.mapM fun row =>
    match row.toRecord? with
    | some r => .ok r
    | none => .error .serialization

/-- Carries out a plan. -/
def execute (plan : Plan) (s : σ) : Except StoreError (List Record) := do
  let found ← recordsOfRows (← Store.select plan.selection s)
  match plan with
  | .direct _ => return found
  | .scan _ _ terms limit offset => return page offset limit (Query.filter terms found)

/-- A page of the records that the criteria ask for, newest first. -/
def records (limits : ScanLimits) (c : Criteria) (s : σ) : Except Unavailable (List Record) :=
  answered (execute (.build limits c) s)

/-- The number of records that the criteria ask for on all pages. -/
def count (limits : ScanLimits) (c : Criteria) (s : σ) : Except Unavailable Nat :=
  answered <|
    match Plan.build limits c.unpaginated with
    | .direct selection => Store.count selection s
    | plan => (execute plan s).map List.length

/-- The distinct levels in the store. -/
def levels (s : σ) : Except Unavailable (List String) :=
  answered (Store.distinct .level s)

/-- The distinct services in the store. -/
def services (s : σ) : Except Unavailable (List String) :=
  answered (Store.distinct .service s)

/-- A page with its total and the facets of the store. -/
def query (limits : ScanLimits) (c : Criteria) (s : σ) : Except Unavailable SearchResult := do
  let found ← records limits c s
  let total ← count limits c s
  return ⟨found, total, ← levels s, ← services s⟩

end Search

end Logbook
