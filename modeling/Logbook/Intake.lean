import Logbook.Criteria
import Logbook.Payload
import Logbook.Store

/-!
# Taking payloads in and removing rows

Payloads become records, and their rows go into a store as one batch. Rows are removed by service
and age, or all of them. A store that fails does so for its callers as one that is unavailable.
-/

namespace Logbook

/-- A store that failed, as its callers see it. -/
structure Unavailable where
  cause : StoreError
  deriving DecidableEq

namespace Unavailable

/-- The wording of the failure. -/
def message (e : Unavailable) : String :=
  "store unavailable: " ++ e.cause.message

end Unavailable

variable {σ : Type} [Store σ]

/-- The answer of a store, its failure as callers see it. -/
def answered {α : Type} (answer : Except StoreError α) : Except Unavailable α :=
  answer.mapError Unavailable.mk

/-- A change of a store, its failure as callers see it. -/
def changed {α : Type} (c : Change σ α) (s : σ) : Except Unavailable α × σ :=
  let (outcome, s) := c.apply s
  (answered outcome, s)

namespace Intake

/-- Stores the records of a payload and returns them. -/
def ingest (stamps : Stamp.Supply) (transport : Option Transport) (payload : Json) (s : σ) :
    Except Unavailable (List Record) × σ :=
  let records := Payload.records stamps transport payload
  let (outcome, s) := changed (Store.insertMany (records.map Row.ofRecord)) s
  (outcome.map fun _ => records, s)

/-- Stores one record. -/
def insert (r : Record) (s : σ) : Except Unavailable Unit × σ :=
  changed (Store.insert (Row.ofRecord r)) s

end Intake

namespace Upkeep

/-- Removes the rows that a cleanup asks for and gives their number. -/
def delete (c : Cleanup) (s : σ) : Except Unavailable Nat × σ :=
  changed (Store.delete c.deletion) s

/-- Removes every row and gives their number. -/
def clear (s : σ) : Except Unavailable Nat × σ :=
  delete .everything s

theorem clear_eq (s : σ) : clear s = changed (Store.delete .all) s := rfl

/-- The space that the store takes, in bytes. -/
def size (s : σ) : Except Unavailable Nat :=
  answered (Store.size s)

end Upkeep

end Logbook
