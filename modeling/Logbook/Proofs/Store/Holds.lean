import Logbook.Proofs.Intake

/-!
# Stores in any state

A store may have begun with any file and been through anything since: changes, failures and
restarts. What later requests rely on is no more than this: its rows are arranged, those with equal
timestamps in the order of some log, and a durable store may write its file. So statements about
every store are made about every one that *holds* a log in this sense.

Results:

* `Reached.holds`, `DurableStore.holds_of_open`, `DurableStore.holds_of_run`: the stores that
  requests have led to hold their log, and so does any durable store that was opened on any file,
  whatever has happened to it since.
* `Holds.serves`: a store answers as the log says that it holds.
* `Holds.insertMany`, `Holds.ingest`, `Holds.delete`, `Holds.update`: rows and payloads are added
  to both, deletions take rows from both, and so every change does the same to both.
* `Editable.delete_succeeds`: when a deletion goes through.
-/

namespace Logbook

/-- The rows of a store are those of a log, arranged in memory, and more can be added: a durable
    store may write its file. -/
inductive Holds : {σ : Type} → [Store σ] → σ → Log → Prop
  | ledger {l : Ledger} {log : Log} : Arranges l.rows log → Holds l log
  | durable {s : DurableStore} {log : Log} :
    Arranges s.ledger.rows log → s.disk.writable s.path = true → Holds s log

/-- **A store answers as the log says that it holds.** -/
theorem Holds.serves {σ : Type} [Store σ] {s : σ} {log : Log} (h : Holds s log) : Serves s log := by
  cases h with
  | ledger ha => exact serves_ledger ha
  | durable ha _ =>
    have hs := serves_ledger ha
    exact ⟨hs.select, hs.count, hs.distinct⟩

/-- **Rows are added to a store and to the log that it holds**, and that never fails. -/
theorem Holds.insertMany {σ : Type} [Store σ] {s : σ} {log : Log} (h : Holds s log)
    (rows : List Row) :
    ∃ s' : σ, (Store.Update.insertMany rows).after? s = some s' ∧ Holds s' (log ++ rows) := by
  cases h with
  | @ledger l _ ha =>
    exact ⟨l.insertMany rows, Ledger.after?_insertMany rows l, .ledger (ha.insertMany rows)⟩
  | durable ha hw =>
    obtain ⟨s', hs', hpath, hledger, hsame, -⟩ := DurableStore.insertMany_spec hw rows
    refine ⟨s', hs', .durable ?_ ?_⟩
    · rw [hledger]
      exact ha.insertMany rows
    · rw [hpath, hsame.writable_eq, hw]

/-- **A payload is taken in without failure**, and the rows of its records are added to the log. -/
theorem Holds.ingest {σ : Type} [Store σ] {s : σ} {log : Log} (h : Holds s log)
    (stamps : Stamp.Supply) (transport : Option Transport) (payload : Json) :
    ∃ s' : σ, Intake.ingest stamps transport payload s =
        (.ok (Payload.records stamps transport payload), s') ∧
      Holds s' (log ++ (Payload.records stamps transport payload).map Row.ofRecord) := by
  obtain ⟨s', hs', hholds⟩ :=
    h.insertMany ((Payload.records stamps transport payload).map Row.ofRecord)
  exact ⟨s', Intake.ingest_of_after? hs', hholds⟩

/-! ## Changes -/

namespace Holds

variable {σ : Type} [Store σ] {s s' : σ} {log : Log} {d : Deletion} {n : Nat}

/-- **A deletion takes the rows that it hits from the store** and from the log that it holds. -/
theorem delete (h : Holds s log) (hdelete : (Store.delete d).apply s = (.ok n, s')) :
    n = (log.newestFirst.filter d.hits).length ∧ Holds s' (log.filter fun row => !d.hits row) := by
  cases h with
  | ledger ha =>
    cases hdelete
    exact ⟨Ledger.hitCount_eq ha d, .ledger (ha.filter _)⟩
  | durable ha hw =>
    obtain ⟨rfl, hpath, hledger, hsame, -⟩ := DurableStore.deleteCut_spec hw hdelete
    refine ⟨Ledger.hitCount_eq ha d, .durable ?_ ?_⟩
    · rw [hledger]
      exact ha.filter _
    · rw [hpath, hsame.writable_eq, hw]

/-- A deletion that hits nothing leaves the store as it is, and never fails. -/
theorem delete_none (h : Holds s log) (hnone : ∀ row ∈ log, d.hits row = false) :
    (Store.delete d).apply s = (.ok 0, s) := by
  have hzero : (log.newestFirst.filter d.hits).length = 0 := by
    rw [List.length_eq_zero_iff, List.filter_eq_nil_iff]
    intro row hrow
    rw [hnone row (Log.mem_newestFirst.1 hrow)]
    exact Bool.false_ne_true
  cases h with
  | ledger ha =>
    rw [← Ledger.hitCount_eq ha] at hzero
    rw [Ledger.apply_delete, hzero, DurableStore.survivors_of_hitCount hzero]
  | durable ha hw =>
    rw [← Ledger.hitCount_eq ha] at hzero
    exact if_pos hzero

theorem after?_insert (h : Holds s log) (row : Row) :
    (Store.Update.insert row).after? s = (Store.Update.insertMany [row]).after? s := by
  cases h with
  | ledger _ => rfl
  | durable _ _ => rfl

/-- **A change does to the log that a store holds what it does to the store.** -/
theorem update (h : Holds s log) {u : Store.Update} (hu : u.after? s = some s') :
    Holds s' (u.log log) := by
  have insertMany : ∀ rows, (Store.Update.insertMany rows).after? s = some s' →
      Holds s' (log ++ rows) := by
    intro rows hrows
    obtain ⟨s₁, h₁, hholds⟩ := h.insertMany rows
    obtain rfl := Option.some.inj (hrows.symm.trans h₁)
    exact hholds
  cases u with
  | insert row =>
    rw [h.after?_insert] at hu
    exact insertMany [row] hu
  | insertMany rows => exact insertMany rows hu
  | delete d =>
    simp only [Store.Update.after?] at hu
    cases hout : (Store.delete d).apply s with
    | mk outcome s₁ =>
      rw [hout] at hu
      cases outcome with
      | error e => cases hu
      | ok n =>
        obtain rfl := Option.some.inj hu
        exact (h.delete hout).2

end Holds

/-- The rows of a store are those of a log, and nothing keeps rows from being removed: a durable
    store may write its file and the one beside it. -/
inductive Editable : {σ : Type} → [Store σ] → σ → Log → Prop
  | ledger {l : Ledger} {log : Log} : Arranges l.rows log → Editable l log
  | durable {s : DurableStore} {log : Log} :
    Arranges s.ledger.rows log → s.disk.writable s.path = true →
      s.disk.writable (DurableStore.sibling s.path) = true → Editable s log

namespace Editable

variable {σ : Type} [Store σ] {s : σ} {log : Log}

theorem holds (h : Editable s log) : Holds s log := by
  cases h with
  | ledger ha => exact .ledger ha
  | durable ha hw _ => exact .durable ha hw

/-- **A deletion goes through** where nothing keeps rows from being removed. -/
theorem delete_succeeds (h : Editable s log) (d : Deletion) :
    ∃ n s', (Store.delete d).apply s = (.ok n, s') := by
  cases h with
  | ledger ha => exact ⟨_, _, Ledger.apply_delete d _⟩
  | durable ha hw hsibling =>
    obtain ⟨s', hs'⟩ := DurableStore.deleteCut_succeeds hw hsibling d
    exact ⟨_, s', hs'⟩

end Editable

/-! ## Stores that were opened -/

namespace DurableStore

variable {directory : Path} {route : Route} {disk disk' : Disk} {s₀ s s' : DurableStore}

/-- Opening a file arranges the rows of its lines. -/
theorem arranges_of_open (h : openRoute directory route disk = (.ok s₀, disk')) :
    ∃ rows, decode ((disk.read? s₀.path).getD .empty) = .ok rows ∧
      Arranges s₀.ledger.rows rows := by
  obtain ⟨-, disk₁, hext, hopen⟩ := openRoute_spec h
  obtain ⟨-, -, rows, hrows, hledger⟩ := openAt_spec hopen
  rw [hext.read?_eq] at hrows
  refine ⟨rows, hrows, ?_⟩
  rw [hledger]
  exact arranges_ofRows rows

/-- Opening a file gives a store that holds the rows of its lines. -/
theorem holds_of_open (h : openRoute directory route disk = (.ok s₀, disk')) :
    ∃ rows, decode ((disk.read? s₀.path).getD .empty) = .ok rows ∧ Holds s₀ rows := by
  obtain ⟨ho, -⟩ := openRoute_spec h
  obtain ⟨rows, hrows, ha⟩ := arranges_of_open h
  exact ⟨rows, hrows, .durable ha ho.writable⟩

theorem holds_of_step {log : Log} (h : Holds s log) {step : Step}
    (hstep : step.after? directory route s = some s') : ∃ log', Holds s' log' := by
  cases step with
  | update u => exact ⟨u.log log, h.update hstep⟩
  | reopen =>
    cases hopen : openRoute directory route s.disk with
    | mk outcome disk' =>
      rw [Step.after?, hopen] at hstep
      cases outcome with
      | error e => cases hstep
      | ok s₁ =>
        obtain rfl := Option.some.inj hstep
        obtain ⟨rows, -, hholds⟩ := holds_of_open hopen
        exact ⟨rows, hholds⟩

/-- **A durable store that was opened on any file holds some log**, whatever changes and restarts it
has been through. -/
theorem holds_of_run (h : openRoute directory route disk = (.ok s₀, disk')) {steps : List Step}
    (hrun : run? directory route steps s₀ = some s) : ∃ log, Holds s log := by
  obtain ⟨log, -, hholds⟩ := holds_of_open h
  clear h
  induction steps generalizing s₀ log with
  | nil =>
    obtain rfl := Option.some.inj hrun
    exact ⟨log, hholds⟩
  | cons step rest ih =>
    rw [run?, List.foldlM_cons] at hrun
    obtain ⟨s₁, h₁, hrest⟩ := Option.bind_eq_some_iff.1 hrun
    obtain ⟨log₁, hholds₁⟩ := holds_of_step hholds h₁
    exact ih hrest log₁ hholds₁

end DurableStore

/-- **A store that requests have led to holds their log.** -/
theorem Reached.holds {requests : List Request} {σ : Type} [Store σ] {s : σ}
    (h : Reached requests s) : Holds s (Request.logOf requests) := by
  cases h with
  | ledger hrun => exact .ledger (arranges_of_run hrun)
  | durable hopen hempty hrun =>
    obtain ⟨ho, -⟩ := DurableStore.openRoute_spec hopen
    rw [DurableStore.Event.run?_eq] at hrun
    obtain ⟨l, file, hl, ht⟩ := (DurableStore.tracks_open hopen hempty).run ho hrun
    rw [flatMap_inMemory, ← Request.run?_eq] at hl
    refine .durable ?_ (ht.writable ho)
    rw [ht.ledger_eq]
    exact arranges_of_run hl

end Logbook
