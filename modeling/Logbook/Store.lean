import Logbook.Selection

/-!
# Stores

What any store of rows offers, whatever it keeps them in. Reading does not change a store;
changing it gives the store afterwards also when the change fails.
-/

namespace Logbook

/-- Why a file could not be read or written. -/
inductive IoReason where
  /-- The operating system refused. -/
  | system
  /-- A file that should hold text is not UTF-8. -/
  | notUtf8
  /-- A path holds the character zero, which the system takes for its end. -/
  | zeroInPath
  /-- The store gave a reason of its own. -/
  | reported (text : String)
  deriving DecidableEq

/-- Why a store failed. -/
inductive StoreError where
  | io (reason : IoReason)
  /-- A row could not be made into a record. -/
  | serialization
  deriving DecidableEq

namespace IoReason

/-- The wording of a reason. -/
def message : IoReason → String
  | .system => "the operating system refused"
  | .notUtf8 => "stream did not contain valid UTF-8"
  | .zeroInPath => "file name contained an unexpected NUL byte"
  | .reported text => text

end IoReason

namespace StoreError

/-- The wording of a failure. -/
def message : StoreError → String
  | .io reason => "I/O error: " ++ reason.message
  | .serialization => "serialization error: the data are not an object"

end StoreError

/-- A change of a state `σ` that may fail. -/
abbrev Change (σ α : Type) := ExceptT StoreError (StateM σ) α

namespace Change

variable {σ α : Type}

/-- The outcome of a change and the state after it. -/
def apply (c : Change σ α) (s : σ) : Except StoreError α × σ :=
  (ExceptT.run c).run s

/-- The change with this outcome and state afterwards. -/
def of (f : σ → Except StoreError α × σ) : Change σ α :=
  ExceptT.mk f

end Change

/-- A store of rows, newest first; of rows with equal timestamps the latest inserted comes
    first. -/
class Store (σ : Type) where
  insert (row : Row) : Change σ Unit
  /-- Inserts rows in order. -/
  insertMany (rows : List Row) : Change σ Unit := rows.forM insert
  /-- The page of the rows that a selection admits. -/
  select (selection : Selection) (s : σ) : Except StoreError (List Row)
  /-- The number of rows that a selection admits on all pages. -/
  count (selection : Selection) (s : σ) : Except StoreError Nat
  /-- The distinct values of a facet in ascending order. -/
  distinct (facet : Facet) (s : σ) : Except StoreError (List String)
  /-- Removes the rows that a deletion hits and gives their number. -/
  delete (deletion : Deletion) : Change σ Nat
  /-- The space that the store takes, in bytes. -/
  size (s : σ) : Except StoreError Nat

end Logbook
