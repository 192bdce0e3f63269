import Logbook.Proofs.Store.Order
import Mathlib.Data.List.Basic

/-!
# Ledgers through a run of changes

A run of changes has a *log*: the inserted rows in the order of their arrival, from which each
deletion takes the rows that it hits at that moment. After any run a ledger holds its log arranged,
and so shows what the log says it should.

Results:

* `Ledger.Step.arranges`: one step keeps the ledger an arrangement of the log.
* `Ledger.run_oldestFirst`: after any run the rows are the stable sort of the log, and reading
  them all gives the newest first.
-/

namespace Logbook

/-! ## Changes and their log -/

/-- A change that a store is asked for. -/
inductive Store.Update where
  | insert (row : Row)
  | insertMany (rows : List Row)
  | delete (deletion : Deletion)

namespace Store.Update

/-- The store after a change, unless the change fails. -/
def after? {σ : Type} [Store σ] (u : Update) (s : σ) : Option σ :=
  match u with
  | .insert row => let (outcome, s) := (Store.insert row).apply s; outcome.toOption.map fun _ => s
  | .insertMany rows =>
    let (outcome, s) := (Store.insertMany rows).apply s; outcome.toOption.map fun _ => s
  | .delete d => let (outcome, s) := (Store.delete d).apply s; outcome.toOption.map fun _ => s

/-- What a change does to the log. -/
def log : Update → Log → Log
  | .insert row, log => log ++ [row]
  | .insertMany rows, log => log ++ rows
  | .delete d, log => log.filter fun row => !d.hits row

end Store.Update

namespace Ledger

theorem after?_insert (row : Row) (l : Ledger) :
    (Store.Update.insert row).after? l = some (l.insert row) := rfl

theorem after?_insertMany (rows : List Row) (l : Ledger) :
    (Store.Update.insertMany rows).after? l = some (l.insertMany rows) := rfl

theorem after?_delete (d : Deletion) (l : Ledger) :
    (Store.Update.delete d).after? l = some (l.survivors d) := rfl

theorem update_arranges {l : Ledger} {log : Log} (h : Arranges l.rows log)
    (u : Store.Update) : ∃ l', u.after? l = some l' ∧ Arranges l'.rows (u.log log) := by
  cases u with
  | insert row => exact ⟨l.insert row, after?_insert row l, h.insertRow row⟩
  | insertMany rows => exact ⟨l.insertMany rows, after?_insertMany rows l, h.insertMany rows⟩
  | delete d => exact ⟨l.survivors d, after?_delete d l, h.filter _⟩

/-! ## Runs -/

/-- A step in the life of a ledger: a change, or a ledger made anew from rows. -/
inductive Step where
  | update (u : Store.Update)
  | ofRows (rows : List Row)

namespace Step

/-- The ledger after a step, unless the step fails. -/
def after? : Step → Ledger → Option Ledger
  | .update u, l => u.after? l
  | .ofRows rows, _ => some (.ofRows rows)

/-- What a step does to the log. -/
def log : Step → Log → Log
  | .update u, log => u.log log
  | .ofRows rows, _ => rows

/-- **A step keeps a ledger the arrangement of its log, and never fails.** -/
theorem arranges {l : Ledger} {log : Log} (h : Arranges l.rows log) (step : Step) :
    ∃ l', step.after? l = some l' ∧ Arranges l'.rows (step.log log) := by
  cases step with
  | update u => exact update_arranges h u
  | ofRows rows => exact ⟨.ofRows rows, rfl, arranges_ofRows rows⟩

end Step

/-- The ledger after a run of steps, unless one of them fails. -/
def run? (steps : List Step) (l : Ledger) : Option Ledger :=
  steps.foldlM (fun l step => step.after? l) l

/-- The log after a run of steps. -/
def logAfter (steps : List Step) (log : Log) : Log :=
  steps.foldl (fun log step => step.log log) log

theorem run_arranges {l : Ledger} {log : Log} (h : Arranges l.rows log) (steps : List Step) :
    ∃ l', run? steps l = some l' ∧ Arranges l'.rows (logAfter steps log) := by
  induction steps generalizing l log with
  | nil => exact ⟨l, rfl, h⟩
  | cons step rest ih =>
    obtain ⟨l₁, h₁, ha₁⟩ := step.arranges h
    obtain ⟨l', h', ha'⟩ := ih ha₁
    refine ⟨l', ?_, ha'⟩
    rw [run?, List.foldlM_cons, h₁]
    exact h'

/-- An arranged ledger read backwards is its log with the newest first. -/
theorem reverse_rows {l : Ledger} {log : Log} (h : Arranges l.rows log) :
    l.rows.reverse = log.newestFirst := by
  rw [arranges_iff.1 h, reverse_oldestFirst]

theorem hitCount_eq {l : Ledger} {log : Log} (h : Arranges l.rows log) (d : Deletion) :
    l.hitCount d = (log.newestFirst.filter d.hits).length := by
  have hsplit := List.length_eq_length_filter_add (l := l.rows) d.hits
  have hshown : (log.newestFirst.filter d.hits).length = (l.rows.filter d.hits).length := by
    rw [← reverse_rows h, List.filter_reverse, List.length_reverse]
  rw [hshown, hitCount, delete_rows]
  omega

/-- **A ledger is the stable sort of its log.** A run of any steps from the ledger without rows
succeeds; after it the rows are those of the log, none lost, doubled or altered, with the oldest
first and those with equal timestamps in the order of their arrival. So a selection without limit
and offset gives the rows of the log that it admits with the newest first, and of rows with equal
timestamps the latest arrival first. -/
theorem run_oldestFirst (steps : List Step) :
    ∃ l, run? steps empty = some l ∧
      l.oldestFirst = (logAfter steps []).oldestFirst ∧
      l.oldestFirst.Perm (logAfter steps []) ∧
      ∀ restriction contains,
        Store.select ⟨restriction, contains, none, none⟩ l =
          .ok ((logAfter steps []).newestFirst.filter
            (Selection.admits ⟨restriction, contains, none, none⟩)) := by
  obtain ⟨l, hrun, h⟩ := run_arranges (l := empty) Arranges.nil steps
  have hsorted : l.oldestFirst = (logAfter steps []).oldestFirst := arranges_iff.1 h
  refine ⟨l, hrun, hsorted, ?_, fun restriction contains => ?_⟩
  · rw [hsorted]
    exact List.mergeSort_perm _ _
  · rw [store_select, ← reverse_rows h]
    rfl

end Ledger

end Logbook
