import Logbook.Selection

/-!
# Criteria

What a caller asks for. An empty text counts as absent.

Results:

* `nonEmpty_eq_some_iff`: what counts as present.
-/

namespace Logbook

/-- An optional text, absent if it is empty. -/
def nonEmpty (s : Option String) : Option String :=
  s.filter (· != "")

theorem nonEmpty_eq_some_iff {s : Option String} {t : String} :
    nonEmpty s = some t ↔ s = some t ∧ t ≠ "" := by
  simp [nonEmpty, Option.filter_eq_some_iff]

/-- What a search asks for. -/
structure Criteria where
  query : Option String
  level : Option String
  service : Option String
  /-- The first time asked for. -/
  startDate : Option String
  /-- The last time asked for. -/
  endDate : Option String
  limit : Option Nat
  offset : Option Nat
  deriving DecidableEq

namespace Criteria

/-- Criteria that ask for everything. -/
def everything : Criteria := ⟨none, none, none, none, none, none, none⟩

/-- The query, if there is one. -/
def query? (c : Criteria) : Option String :=
  nonEmpty c.query

/-- The same criteria for all pages together. -/
def unpaginated (c : Criteria) : Criteria :=
  { c with limit := none, offset := none }

/-- The criteria with both ends of the time set. -/
def withRange (start stop : String) (c : Criteria) : Criteria :=
  { c with startDate := some start, endDate := some stop }

/-- The bounds on level, service and time. -/
def restriction (c : Criteria) : Restriction where
  level := nonEmpty c.level
  service := nonEmpty c.service
  start := (nonEmpty c.startDate).map Timestamp.mk
  stop := (nonEmpty c.endDate).map Timestamp.mk

/-- The criteria as an object with all its members. -/
def json (c : Criteria) : Json :=
  let number (n : Option Nat) : Json := match n with
    | some n => .ofNat n
    | none => .null
  .object [("query", .ofOption c.query), ("level", .ofOption c.level),
    ("service", .ofOption c.service), ("startDate", .ofOption c.startDate),
    ("endDate", .ofOption c.endDate), ("limit", number c.limit), ("offset", number c.offset)]

/-! ## Reading -/

/-- An optional text; null is none. -/
def text? : Json → Option (Option String)
  | .null => some none
  | .string s => some (some s)
  | _ => none

/-- An optional natural number of at most 64 bits; null is none. -/
def natural? : Json → Option (Option Nat)
  | .null => some none
  | .number (.integer n _) => if 0 ≤ n then some (some n.toNat) else none
  | _ => none

/-- The values of an object under the given names, null where it has none, or exactly as many
    items of an array. -/
def values? (names : List String) : Json → Option (List Json)
  | .object ms => some (names.map fun n => (Entries.get? ms n).getD .null)
  | .array items => if items.length = names.length then some items else none
  | _ => none

/-- The criteria that a value spells. -/
def ofJson? (v : Json) : Option Criteria := do
  let names := ["query", "level", "service", "startDate", "endDate", "limit", "offset"]
  match ← values? names v with
  | [query, level, service, startDate, endDate, limit, offset] =>
    return ⟨← text? query, ← text? level, ← text? service, ← text? startDate, ← text? endDate,
      ← natural? limit, ← natural? offset⟩
  | _ => none

end Criteria

/-- What a removal asks for: rows of a service, rows older than a date, or both. -/
structure Cleanup where
  service : Option String
  endDate : Option String
  deriving DecidableEq

namespace Cleanup

/-- The removal of everything. -/
def everything : Cleanup := ⟨none, none⟩

/-- The deletion that is asked for. -/
def deletion (c : Cleanup) : Deletion where
  service := nonEmpty c.service
  before := (nonEmpty c.endDate).map Timestamp.mk

/-- The cleanup as an object with all its members. -/
def json (c : Cleanup) : Json :=
  .object [("service", .ofOption c.service), ("endDate", .ofOption c.endDate)]

/-- The cleanup that a value spells. -/
def ofJson? (v : Json) : Option Cleanup := do
  match ← Criteria.values? ["service", "endDate"] v with
  | [service, endDate] => return ⟨← Criteria.text? service, ← Criteria.text? endDate⟩
  | _ => none

end Cleanup

end Logbook
