import Logbook.Store.Ledger

/-!
# Unreliable stores

A ledger some of whose operations fail, for rehearsing failures. It has no way of its own to
insert several rows, so a batch goes in row by row up to the first row that is refused.
-/

namespace Logbook

/-- The operations of a store that may be made to fail. -/
inductive StoreOperation where
  | insert
  | select
  | count
  | distinct (facet : Facet)
  | delete
  | size
  deriving DecidableEq

/-- A ledger with failing operations and rows that it refuses. -/
structure UnreliableStore where
  ledger : Ledger
  fails : StoreOperation → Bool
  rejects : Row → Bool

namespace UnreliableStore

/-- The failure of an operation. -/
def down : StoreError := .io (.reported "store down")

/-- The refusal of a row. -/
def badRow : StoreError := .io (.reported "bad row")

/-- An answer unless the operation fails. -/
def unlessDown {α : Type} (s : UnreliableStore) (op : StoreOperation) (a : α) :
    Except StoreError α :=
  if s.fails op then .error down else .ok a

/-- Inserts a row. -/
def insert (row : Row) (s : UnreliableStore) : Except StoreError Unit × UnreliableStore :=
  if s.fails .insert then (.error down, s)
  else if s.rejects row then (.error badRow, s)
  else (.ok (), { s with ledger := s.ledger.insert row })

/-- Removes the rows that a deletion hits. -/
def delete (d : Deletion) (s : UnreliableStore) : Except StoreError Nat × UnreliableStore :=
  if s.fails .delete then (.error down, s)
  else (.ok (s.ledger.hitCount d), { s with ledger := s.ledger.survivors d })

instance : Store UnreliableStore where
  insert row := .of (insert row)
  select sel s := s.unlessDown .select (s.ledger.select sel)
  count sel s := s.unlessDown .count (s.ledger.count sel)
  distinct f s := s.unlessDown (.distinct f) (s.ledger.distinct f)
  delete d := .of (delete d)
  size s := s.unlessDown .size s.ledger.size

end UnreliableStore

end Logbook
