import Logbook.Record
import Logbook.Text.Casing

/-!
# Selections and deletions

What a store is asked for: rows that meet a restriction on level, service and time, perhaps with a
piece of text in them, a page of them. And what it is asked to remove.

Results:

* `Deletion.hits_before`: a deletion by age alone hits exactly the rows that a restriction to the
  same start refuses.
-/

namespace Logbook

/-- Bounds on the level, the service and the time of a row; an absent bound is no bound. -/
structure Restriction where
  level : Option String
  service : Option String
  start : Option Timestamp
  stop : Option Timestamp
  deriving DecidableEq

namespace Restriction

/-- No restriction. -/
def none : Restriction := ⟨.none, .none, .none, .none⟩

/-- Whether a row meets the restriction; both ends of the time belong to it. -/
def admits (p : Restriction) (row : Row) : Bool :=
  p.level.all (row.level == ·) && p.service.all (row.service == ·) &&
    p.start.all (fun t => decide (t ≤ row.timestamp)) &&
    p.stop.all (fun t => decide (row.timestamp ≤ t))

end Restriction

/-- A page of the rows that meet a restriction and hold a piece of text. -/
structure Selection where
  restriction : Restriction
  /-- Text that occurs in the message, the service, the level or the data, without regard to
      case. -/
  contains : Option String
  limit : Option Nat
  offset : Option Nat
  deriving DecidableEq

namespace Selection

/-- Whether a row holds a piece of text. -/
def rowContains (needle : String) (row : Row) : Bool :=
  Text.occursFolded needle row.message || Text.occursFolded needle row.service ||
    Text.occursFolded needle row.level || Text.occursFolded needle row.data

/-- Whether a row belongs to the selection, whatever the page. -/
def admits (s : Selection) (row : Row) : Bool :=
  s.restriction.admits row && s.contains.all (rowContains · row)

end Selection

/-- The items after the first `offset`, at most `limit` of them. -/
def page {α : Type} (offset : Nat) (limit : Option Nat) (items : List α) : List α :=
  match limit with
  | some n => (items.drop offset).take n
  | none => items.drop offset

/-- Rows to remove: those of a service, those older than an instant, or both. -/
structure Deletion where
  service : Option String
  before : Option Timestamp
  deriving DecidableEq

namespace Deletion

/-- The deletion of everything. -/
def all : Deletion := ⟨none, none⟩

/-- Whether a row is to be removed; a row of exactly the given time stays. -/
def hits (d : Deletion) (row : Row) : Bool :=
  d.service.all (row.service == ·) && d.before.all (fun t => decide (row.timestamp < t))

theorem hits_before (t : Timestamp) (row : Row) :
    hits ⟨none, some t⟩ row =
      !({ Restriction.none with start := some t } : Restriction).admits row := by
  have h : (row.timestamp < t) ↔ ¬ t ≤ row.timestamp := by
    change row.timestamp.text < t.text ↔ ¬ t.text ≤ row.timestamp.text
    exact (String.not_le).symm
  simp [hits, Restriction.admits, Restriction.none, h]

end Deletion

end Logbook
