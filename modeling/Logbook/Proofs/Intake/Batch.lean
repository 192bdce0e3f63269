import Logbook.Intake
import Logbook.Store.Unreliable
import Logbook.Proofs.Store.Order
import Mathlib.Data.List.InsertIdx
import Mathlib.Tactic.ByContra

/-!
# Batches that break off

A store may refuse rows. If it has no way of its own to insert several rows, a batch goes in row by
row and breaks off at the first row that is refused: the rows before that one are stored, and the
rows after it are not tried. A batch without such a row comes to what a ledger makes of it at once.

Results:

* `Ledger.gains_insertMany`: what a ledger gains by a batch.
* `Guards.forM_append`: rows that are not refused go in, whatever comes after them.
* `Intake.ingest_of_guards`: when a payload is refused, and what is stored then.
-/

namespace Logbook

/-! ## One change after another -/

namespace Change

/-- After a change that succeeds the others go on in the state that is left; after one that fails
    they are left out. -/
theorem apply_forM_cons {σ α : Type} (f : α → Change σ Unit) (x : α) (xs : List α) (s : σ) :
    ((x :: xs).forM f).apply s =
      match (f x).apply s with
      | (.ok (), s') => (xs.forM f).apply s'
      | (.error e, s') => (.error e, s') := by
  change (ExceptT.bindCont (fun _ => xs.forM f) ((f x).apply s).1 : StateM σ _).run
    ((f x).apply s).2 = _
  obtain ⟨outcome, s'⟩ := (f x).apply s
  cases outcome with
  | ok u => rfl
  | error e => rfl

end Change

/-! ## What a ledger gains -/

/-- A ledger that has gained rows and is otherwise as it was. -/
structure Ledger.Gains (l : Ledger) (rows : List Row) (l' : Ledger) : Prop where
  /-- Each of the rows is there once more, and there is nothing else. -/
  perm : l'.oldestFirst.Perm (l.oldestFirst ++ rows)
  /-- What was there still is, in the same order. -/
  kept : l.oldestFirst.Sublist l'.oldestFirst
  /-- The rows are the latest arrivals, in their order. -/
  latest : ∀ log, Arranges l.oldestFirst log → Arranges l'.oldestFirst (log ++ rows)

namespace Ledger

theorem perm_insert (l : Ledger) (row : Row) :
    (l.insert row).oldestFirst.Perm (row :: l.oldestFirst) :=
  List.perm_insertIdx row l.rows (bisect_le_length _ _)

theorem sublist_insert (l : Ledger) (row : Row) :
    l.oldestFirst.Sublist (l.insert row).oldestFirst :=
  List.sublist_insertIdx l.rows _ row

/-- **What a ledger gains by a batch** are its rows. -/
theorem gains_insertMany (l : Ledger) (rows : List Row) : l.Gains rows (l.insertMany rows) := by
  refine ⟨?_, ?_, fun log h => h.insertMany rows⟩
  · induction rows generalizing l with
    | nil =>
      rw [List.append_nil]
      exact List.Perm.refl _
    | cons row rest ih =>
      calc (l.insertMany (row :: rest)).oldestFirst
        _ = ((l.insert row).insertMany rest).oldestFirst := rfl
        List.Perm _ ((l.insert row).oldestFirst ++ rest) := ih _
        List.Perm _ (row :: l.oldestFirst ++ rest) := (l.perm_insert row).append_right rest
        List.Perm _ (l.oldestFirst ++ row :: rest) := List.perm_middle.symm
  · induction rows generalizing l with
    | nil => exact List.Sublist.refl _
    | cons row rest ih => exact (l.sublist_insert row).trans (ih _)

end Ledger

/-! ## Stores that refuse rows -/

/-- A store that guards a ledger: it inserts several rows one by one, refuses those that have a
    refusal and leaves the others to the ledger. What is refused does not depend on what has been
    inserted. -/
structure Guards {σ : Type} [Store σ] (held : σ → Ledger) (refusal? : σ → Row → Option StoreError) :
    Prop where
  oneByOne (rows : List Row) : (Store.insertMany rows : Change σ Unit) = rows.forM Store.insert
  refuses {s : σ} {row : Row} {e : StoreError} : refusal? s row = some e →
    ∃ s', (Store.insert row).apply s = (.error e, s') ∧ held s' = held s
  accepts {s : σ} {row : Row} : refusal? s row = none →
    ∃ s', (Store.insert row).apply s = (.ok (), s') ∧ held s' = (held s).insert row ∧
      refusal? s' = refusal? s

namespace Guards

variable {σ : Type} [Store σ] {held : σ → Ledger} {refusal? : σ → Row → Option StoreError} {s : σ}

/-- **Rows that are not refused go in**, and the rows after them come next. -/
theorem forM_append (h : Guards held refusal?) {rows : List Row}
    (hrows : ∀ row ∈ rows, refusal? s row = none) (rest : List Row) :
    ∃ s', ((rows ++ rest).forM (Store.insert : Row → Change σ Unit)).apply s =
        (rest.forM Store.insert).apply s' ∧
      held s' = (held s).insertMany rows ∧ refusal? s' = refusal? s := by
  induction rows generalizing s with
  | nil => exact ⟨s, rfl, rfl, rfl⟩
  | cons row rows ih =>
    obtain ⟨s₁, hinsert, hheld, hsame⟩ := h.accepts (hrows row List.mem_cons_self)
    have hrows₁ : ∀ r ∈ rows, refusal? s₁ r = none := by
      intro r hr
      rw [hsame]
      exact hrows r (List.mem_cons_of_mem row hr)
    obtain ⟨s', hrun, hheld', hsame'⟩ := ih hrows₁
    refine ⟨s', ?_, ?_, hsame'.trans hsame⟩
    · rw [List.cons_append, Change.apply_forM_cons, hinsert]
      exact hrun
    · rw [hheld', hheld]
      rfl

theorem insertMany_of_accepted (h : Guards held refusal?) {rows : List Row}
    (hrows : ∀ row ∈ rows, refusal? s row = none) :
    ∃ s', (Store.insertMany rows).apply s = (.ok (), s') ∧ held s' = (held s).insertMany rows := by
  obtain ⟨s', hrun, hheld, -⟩ := h.forM_append hrows []
  rw [List.append_nil] at hrun
  exact ⟨s', by rw [h.oneByOne, hrun]; rfl, hheld⟩

/-- A batch breaks off at the first row that is refused. -/
theorem insertMany_of_refused (h : Guards held refusal?) {before : List Row} {row : Row}
    {e : StoreError} (hbefore : ∀ r ∈ before, refusal? s r = none) (hrow : refusal? s row = some e)
    (after : List Row) :
    ∃ s', (Store.insertMany (before ++ row :: after)).apply s = (.error e, s') ∧
      held s' = (held s).insertMany before := by
  obtain ⟨s₁, hrun, hheld, hsame⟩ := h.forM_append hbefore (row :: after)
  rw [← hsame] at hrow
  obtain ⟨s', hinsert, hheld'⟩ := h.refuses hrow
  refine ⟨s', ?_, hheld'.trans hheld⟩
  rw [h.oneByOne, hrun, Change.apply_forM_cons, hinsert]

end Guards

theorem exists_first_refused {refuses : Row → Option StoreError} {rows : List Row}
    (h : ∃ row ∈ rows, refuses row ≠ none) :
    ∃ before row after e, rows = before ++ row :: after ∧ (∀ r ∈ before, refuses r = none) ∧
      refuses row = some e := by
  obtain ⟨row, hfind⟩ : ∃ row, rows.find? (fun row => (refuses row).isSome) = some row := by
    obtain ⟨row, hrow, hne⟩ := h
    rw [← Option.isSome_iff_exists, List.find?_isSome]
    exact ⟨row, hrow, Option.isSome_iff_ne_none.2 hne⟩
  obtain ⟨hsome, before, after, hrows, hbefore⟩ := List.find?_eq_some_iff_append.1 hfind
  obtain ⟨e, he⟩ := Option.isSome_iff_exists.1 hsome
  refine ⟨before, row, after, e, hrows, fun r hr => ?_, he⟩
  simpa using hbefore r hr

namespace UnreliableStore

/-- Why a row is refused, if it is. -/
def refusal? (s : UnreliableStore) (row : Row) : Option StoreError :=
  if s.fails .insert then some down else if s.rejects row then some badRow else none

theorem guards : Guards ledger refusal? where
  oneByOne rows := rfl
  refuses {s row e} h := by
    refine ⟨s, ?_, rfl⟩
    change insert row s = (.error e, s)
    unfold insert
    unfold refusal? at h
    split at h
    · rename_i hfails
      rw [if_pos hfails, Option.some.inj h]
    · rename_i hfails
      split at h
      · rename_i hrejects
        rw [if_neg hfails, if_pos hrejects, Option.some.inj h]
      · cases h
  accepts {s row} h := by
    refine ⟨{ s with ledger := s.ledger.insert row }, ?_, rfl, rfl⟩
    change insert row s = (.ok (), { s with ledger := s.ledger.insert row })
    unfold insert
    unfold refusal? at h
    split at h
    · cases h
    · rename_i hfails
      split at h
      · cases h
      · rename_i hrejects
        rw [if_neg hfails, if_neg hrejects]

end UnreliableStore

/-! ## Intakes -/

namespace Intake

variable {σ : Type} [Store σ] {held : σ → Ledger} {refusal? : σ → Row → Option StoreError}

/-- An intake is what the store makes of the batch. -/
theorem ingest_eq {stamps : Stamp.Supply} {transport : Option Transport} {payload : Json}
    {s s' : σ} {outcome : Except StoreError Unit}
    (h : (Store.insertMany ((Payload.records stamps transport payload).map Row.ofRecord)).apply s =
      (outcome, s')) :
    ingest stamps transport payload s =
      ((answered outcome).map fun _ => Payload.records stamps transport payload, s') := by
  simp only [ingest, changed, h]

/-- An intake in which a row is refused fails, and stores the rows before the first such row. -/
theorem ingest_of_refused (h : Guards held refusal?) {stamps : Stamp.Supply}
    {transport : Option Transport} {payload : Json} {s : σ} {before after : List Row} {row : Row}
    {e : StoreError}
    (hrows : (Payload.records stamps transport payload).map Row.ofRecord = before ++ row :: after)
    (hbefore : ∀ r ∈ before, refusal? s r = none) (hrow : refusal? s row = some e) :
    ∃ s', ingest stamps transport payload s = (.error ⟨e⟩, s') ∧
      held s' = (held s).insertMany before := by
  obtain ⟨s', hinsert, hheld⟩ := h.insertMany_of_refused hbefore hrow after
  rw [← hrows] at hinsert
  exact ⟨s', ingest_eq hinsert, hheld⟩

/-- An intake in which no row is refused succeeds, and stores all rows. -/
theorem ingest_of_accepted (h : Guards held refusal?) {stamps : Stamp.Supply}
    {transport : Option Transport} {payload : Json} {s : σ}
    (hrows : ∀ row ∈ (Payload.records stamps transport payload).map Row.ofRecord,
      refusal? s row = none) :
    ∃ s', ingest stamps transport payload s =
        (.ok (Payload.records stamps transport payload), s') ∧
      held s' =
        (held s).insertMany ((Payload.records stamps transport payload).map Row.ofRecord) := by
  obtain ⟨s', hinsert, hheld⟩ := h.insertMany_of_accepted hrows
  exact ⟨s', ingest_eq hinsert, hheld⟩

/-- **A batch that breaks off leaves the rows before the first one that is refused.** A payload is
taken in by a store that guards a ledger. The intake fails if and only if a row of the batch is
refused. Then the rows before the first such row are stored: each of them once, as the latest
arrivals and in their order, with all earlier rows as they were. If no row is refused, the ledger is
the one that inserts the whole batch at once. -/
theorem ingest_of_guards (h : Guards held refusal?) (stamps : Stamp.Supply)
    (transport : Option Transport) (payload : Json) (s : σ) :
    let rows := (Payload.records stamps transport payload).map Row.ofRecord
    ∃ outcome s', ingest stamps transport payload s = (outcome, s') ∧
      ((∃ e, outcome = .error e) ↔ ∃ row ∈ rows, refusal? s row ≠ none) ∧
      (∀ before row after e, rows = before ++ row :: after →
        (∀ r ∈ before, refusal? s r = none) → refusal? s row = some e →
        outcome = .error ⟨e⟩ ∧ (held s).Gains before (held s') ∧
          held s' = (held s).insertMany before) ∧
      ((∀ row ∈ rows, refusal? s row = none) →
        outcome = .ok (Payload.records stamps transport payload) ∧
          (Store.insertMany rows).apply (held s) = (.ok (), held s')) := by
  intro rows
  obtain ⟨outcome, s', hout⟩ : ∃ outcome s', ingest stamps transport payload s = (outcome, s') :=
    ⟨_, _, rfl⟩
  refine ⟨outcome, s', hout, ⟨fun hfails => ?_, fun hrefused => ?_⟩, ?_, fun hall => ?_⟩
  · obtain ⟨e, rfl⟩ := hfails
    by_contra hnone
    have hall : ∀ row ∈ rows, refusal? s row = none := by
      intro row hrow
      by_contra hne
      exact hnone ⟨row, hrow, hne⟩
    obtain ⟨s'', hingest, -⟩ := ingest_of_accepted h hall
    cases hout.symm.trans hingest
  · obtain ⟨before, row, after, e, hrows, hbefore, hrow⟩ := exists_first_refused hrefused
    obtain ⟨s'', hingest, -⟩ := ingest_of_refused h hrows hbefore hrow
    cases hout.symm.trans hingest
    exact ⟨_, rfl⟩
  · intro before row after e hrows hbefore hrow
    obtain ⟨s'', hingest, hheld⟩ := ingest_of_refused h hrows hbefore hrow
    cases hout.symm.trans hingest
    have hgains := (held s).gains_insertMany before
    rw [← hheld] at hgains
    exact ⟨rfl, hgains, hheld⟩
  · obtain ⟨s'', hingest, hheld⟩ := ingest_of_accepted h hall
    cases hout.symm.trans hingest
    exact ⟨rfl, by rw [Ledger.apply_insertMany, hheld]⟩

/-- The report of a message at a time. -/
def report (time message : String) : Json :=
  .object [("timestamp", .string time), ("message", .string message)]

/-- The row of such a report, as a record without an identifier. -/
def reported (time message : String) : Row :=
  ⟨⟨"", ⟨time⟩, message, "info", "system"⟩, "{}"⟩

/-- Of three reports the second is refused. The first one is stored, between two earlier rows. -/
theorem ingest_of_guards_between :
    ∃ s', ingest (fun _ => ⟨"", 0⟩) none
        (.array [report "2022-01-01" "up", report "2020-01-01" "bad", report "2024-01-01" "down"])
        (⟨⟨[reported "2021-01-01" "old", reported "2023-01-01" "new"]⟩, fun _ => false,
          fun row => row.message == "bad"⟩ : UnreliableStore) =
          (.error ⟨UnreliableStore.badRow⟩, s') ∧
      s'.ledger.oldestFirst = [reported "2021-01-01" "old", reported "2022-01-01" "up",
        reported "2023-01-01" "new"] := by
  obtain ⟨outcome, s', hingest, -, hprefix, -⟩ :=
    ingest_of_guards UnreliableStore.guards (fun _ => ⟨"", 0⟩) none
      (.array [report "2022-01-01" "up", report "2020-01-01" "bad", report "2024-01-01" "down"])
      ⟨⟨[reported "2021-01-01" "old", reported "2023-01-01" "new"]⟩, fun _ => false,
        fun row => row.message == "bad"⟩
  obtain ⟨houtcome, -, hledger⟩ :=
    hprefix [reported "2022-01-01" "up"] (reported "2020-01-01" "bad")
      [reported "2024-01-01" "down"] UnreliableStore.badRow (by decide) (by decide) (by decide)
  refine ⟨s', by rw [hingest, houtcome], ?_⟩
  have hsorted : [reported "2021-01-01" "old", reported "2023-01-01" "new"].Pairwise
      fun a b => a.timestamp ≤ b.timestamp := by decide
  rw [hledger]
  exact (insertRow_eq hsorted (reported "2022-01-01" "up")).trans (by decide)

end Intake

end Logbook
