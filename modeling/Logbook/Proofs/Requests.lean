import Logbook.Intake
import Logbook.Proofs.Store.Durable

/-!
# Stores that callers have reached

Callers change a store through a few requests. Whatever they asked for, a ledger and a durable store
hold the rows of the same log, and show them with the newest first; a durable store does so across
restarts.

Results:

* `Request.after?_eq`: a request is one change of the store.
* `Reached.serves`: a store that requests have led to answers as their log says.
* `exists_record`: its rows can all be made into records, if no stored record nests too deep.
-/

namespace Logbook

/-! ## Requests -/

/-- A request that changes what a store holds. -/
inductive Request where
  | ingest (stamps : Stamp.Supply) (transport : Option Transport) (payload : Json)
  | insert (record : Record)
  | delete (cleanup : Cleanup)
  | clear

namespace Request

variable {σ : Type} [Store σ]

/-- The store after a request, unless the request fails. -/
def after? (request : Request) (s : σ) : Option σ :=
  match request with
  | .ingest stamps transport payload =>
    let (outcome, s) := Intake.ingest stamps transport payload s; outcome.toOption.map fun _ => s
  | .insert record => let (outcome, s) := Intake.insert record s; outcome.toOption.map fun _ => s
  | .delete cleanup => let (outcome, s) := Upkeep.delete cleanup s; outcome.toOption.map fun _ => s
  | .clear => let (outcome, s) := Upkeep.clear s; outcome.toOption.map fun _ => s

/-- The records that a request stores. -/
def stored : Request → List Record
  | .ingest stamps transport payload => Payload.records stamps transport payload
  | .insert record => [record]
  | .delete _ => []
  | .clear => []

/-- What a request does to the log: its records arrive as rows, and a deletion takes away the rows
    that it hits at that moment. -/
def log (request : Request) (log : Log) : Log :=
  match request with
  | .ingest .. | .insert _ => log ++ request.stored.map Row.ofRecord
  | .delete cleanup => log.filter fun row => !cleanup.deletion.hits row
  | .clear => []

/-- The change of a store that a request comes to. -/
def update : Request → Store.Update
  | .ingest stamps transport payload =>
    .insertMany ((Payload.records stamps transport payload).map Row.ofRecord)
  | .insert record => .insert (Row.ofRecord record)
  | .delete cleanup => .delete cleanup.deletion
  | .clear => .delete .all

theorem toOption_answered {α : Type} (answer : Except StoreError α) :
    (answered answer).toOption = answer.toOption := by
  cases answer <;> rfl

theorem after?_eq (request : Request) (s : σ) : request.after? s = request.update.after? s := by
  cases request with
  | ingest stamps transport payload =>
    simp only [after?, update, Store.Update.after?, Intake.ingest, changed]
    generalize (Store.insertMany _).apply s = out
    obtain ⟨outcome, s'⟩ := out
    cases outcome <;> rfl
  | insert record =>
    simp only [after?, update, Store.Update.after?, Intake.insert, changed, toOption_answered]
  | delete cleanup =>
    simp only [after?, update, Store.Update.after?, Upkeep.delete, changed, toOption_answered]
  | clear =>
    simp only [after?, update, Store.Update.after?, Upkeep.clear_eq, changed, toOption_answered]

theorem log_eq (request : Request) (log : Log) : request.log log = request.update.log log := by
  cases request with
  | ingest stamps transport payload => rfl
  | insert record => rfl
  | delete cleanup => rfl
  | clear =>
    have hall : ∀ row, (!Deletion.all.hits row) = false := fun _ => rfl
    simp only [Request.log, update, Store.Update.log, hall, List.filter_false]

/-- The store after a run of requests, unless one of them fails. -/
def run? (requests : List Request) (s : σ) : Option σ :=
  requests.foldlM (fun s request => request.after? s) s

/-- The log of a run of requests to a store without rows. -/
def logOf (requests : List Request) : Log :=
  requests.foldl (fun log request => request.log log) []

end Request

/-- What happens to a durable store that callers use. -/
inductive DurableStore.Event where
  | request (r : Request)
  /-- The store is closed and opened again. -/
  | restart

namespace DurableStore.Event

/-- The store after an event, unless it fails. -/
def after? (directory : Path) (route : Route) : Event → DurableStore → Option DurableStore
  | .request r, s => r.after? s
  | .restart, s => (openRoute directory route s.disk).1.toOption

/-- The request that an event is, if it is one. -/
def request? : Event → Option Request
  | .request r => some r
  | .restart => none

/-- The store after a run of events, unless one of them fails. -/
def run? (directory : Path) (route : Route) (events : List Event) (s : DurableStore) :
    Option DurableStore :=
  events.foldlM (fun s event => event.after? directory route s) s

/-- The step that an event is. -/
def step : Event → Step
  | .request r => .update r.update
  | .restart => .reopen

theorem run?_eq (directory : Path) (route : Route) (events : List Event) (s : DurableStore) :
    run? directory route events s = DurableStore.run? directory route (events.map step) s := by
  have hstep : ∀ (event : Event) (s : DurableStore),
      event.after? directory route s = event.step.after? directory route s := by
    rintro (r | -) s
    · exact r.after?_eq s
    · rfl
  rw [run?, DurableStore.run?, List.foldlM_map]
  simp only [hstep]

end DurableStore.Event

/-! ## Reached stores -/

/-- The store is one that these requests have led to: a ledger that began without rows, or a durable
store that began with a missing or empty file and may have been restarted in between. -/
inductive Reached : List Request → {σ : Type} → [Store σ] → σ → Prop
  | ledger {requests : List Request} {l : Ledger} :
    Request.run? requests Ledger.empty = some l → Reached requests l
  | durable {directory : Path} {route : Route} {disk disk' : Disk} {s₀ s : DurableStore}
    {events : List DurableStore.Event} :
    DurableStore.openRoute directory route disk = (.ok s₀, disk') →
    (disk.read? s₀.path).getD .empty = .empty →
    DurableStore.Event.run? directory route events s₀ = some s →
    Reached (events.filterMap DurableStore.Event.request?) s

theorem Request.run?_eq (requests : List Request) (l : Ledger) :
    run? requests l = Ledger.run? (requests.map fun r => .update r.update) l := by
  rw [run?, Ledger.run?, List.foldlM_map]
  simp only [after?_eq]
  rfl

theorem Request.logOf_eq (requests : List Request) :
    logOf requests = Ledger.logAfter (requests.map fun r => .update r.update) [] := by
  rw [logOf, Ledger.logAfter, List.foldl_map]
  simp only [log_eq]
  rfl

theorem exists_reached_ledger (requests : List Request) : ∃ l : Ledger, Reached requests l := by
  obtain ⟨l, hl, -⟩ := Ledger.run_arranges Arranges.nil (requests.map fun r => .update r.update)
  exact ⟨l, .ledger ((Request.run?_eq requests .empty).trans hl)⟩

theorem arranges_of_run {requests : List Request} {l : Ledger}
    (h : Request.run? requests Ledger.empty = some l) :
    Arranges l.rows (Request.logOf requests) := by
  obtain ⟨l', hl', ha⟩ := Ledger.run_arranges Arranges.nil (requests.map fun r => .update r.update)
  rw [Request.run?_eq] at h
  rw [Request.logOf_eq]
  obtain rfl := Option.some.inj (h.symm.trans hl')
  exact ha

/-- Restarts of a durable store leave the ledger to the requests. -/
theorem flatMap_inMemory (events : List DurableStore.Event) :
    (events.map DurableStore.Event.step).flatMap DurableStore.Step.inMemory =
      (events.filterMap DurableStore.Event.request?).map fun r => .update r.update := by
  induction events with
  | nil => rfl
  | cons event events ih =>
    rw [List.map_cons, List.flatMap_cons, ih]
    cases event <;> rfl

/-- The store answers as the log says: it pages through the rows with the newest first, of rows with
    equal timestamps the latest arrival first, and counts them. -/
structure Serves {σ : Type} [Store σ] (s : σ) (log : Log) : Prop where
  select : ∀ selection : Selection, Store.select selection s = .ok (page (selection.offset.getD 0)
    selection.limit (log.newestFirst.filter selection.admits))
  count : ∀ selection : Selection,
    Store.count selection s = .ok (log.newestFirst.filter selection.admits).length
  distinct : ∀ facet : Facet, ∃ values, Store.distinct facet s = .ok values

theorem serves_ledger {l : Ledger} {log : Log} (h : Arranges l.rows log) : Serves l log := by
  have hrows := Ledger.reverse_rows h
  refine ⟨fun selection => ?_, fun selection => ?_, fun facet => ⟨_, rfl⟩⟩
  · rw [Ledger.store_select, Ledger.select, hrows]
  · rw [Ledger.store_count, Ledger.count, ← hrows, List.filter_reverse, List.length_reverse]

/-- **A store that requests have led to answers as their log says**, whichever store it is. -/
theorem Reached.serves {requests : List Request} {σ : Type} [Store σ] {s : σ}
    (h : Reached requests s) : Serves s (Request.logOf requests) := by
  cases h with
  | ledger hrun => exact serves_ledger (arranges_of_run hrun)
  | durable hopen hempty hrun =>
    obtain ⟨ho, -⟩ := DurableStore.openRoute_spec hopen
    rw [DurableStore.Event.run?_eq] at hrun
    obtain ⟨l, file, hl, ht⟩ := (DurableStore.tracks_open hopen hempty).run ho hrun
    rw [flatMap_inMemory, ← Request.run?_eq] at hl
    have hserves := serves_ledger (arranges_of_run hl)
    have hanswers := ht.answers ho
    refine ⟨fun selection => ?_, fun selection => ?_, fun facet => ⟨_, rfl⟩⟩
    · rw [hanswers.select, hserves.select]
    · rw [hanswers.count, hserves.count]

/-! ## Rows that can be made into records -/

/-- Whether the attributes of the records that a request stores nest no deeper than a reader
    admits. -/
def Request.Shallow (request : Request) : Prop :=
  ∀ r ∈ request.stored, Json.depth (.object r.attributes) ≤ Json.maxDepth

/-- What holds of the rows of all stored records holds of every row of the log. -/
theorem Request.forall_mem_logOf {requests : List Request} {P : Row → Prop}
    (h : ∀ request ∈ requests, ∀ r ∈ request.stored, P (Row.ofRecord r)) :
    ∀ row ∈ logOf requests, P row := by
  suffices key : ∀ log : Log, (∀ row ∈ log, P row) →
      ∀ row ∈ requests.foldl (fun log request => request.log log) log, P row from
    key [] fun row hrow => absurd hrow List.not_mem_nil
  induction requests with
  | nil => exact fun log hlog => hlog
  | cons request rest ih =>
    intro log hlog
    refine ih (fun r hr => h r (List.mem_cons_of_mem _ hr)) (request.log log) ?_
    have hnew : ∀ row ∈ log ++ request.stored.map Row.ofRecord, P row := by
      intro row hrow
      rcases List.mem_append.1 hrow with hrow | hrow
      · exact hlog row hrow
      · obtain ⟨r, hr, rfl⟩ := List.mem_map.1 hrow
        exact h request List.mem_cons_self r hr
    cases request with
    | ingest stamps transport payload => exact hnew
    | insert record => exact hnew
    | delete cleanup => exact fun row hrow => hlog row (List.mem_filter.1 hrow).1
    | clear => exact fun row hrow => absurd hrow List.not_mem_nil

/-- **Every row of the log can be made into a record** if no stored record nests too deep. -/
theorem exists_record {requests : List Request} (h : ∀ request ∈ requests, request.Shallow) :
    ∀ row ∈ Request.logOf requests, ∃ r, row.toRecord? = some r :=
  Request.forall_mem_logOf fun request hrequest r hr =>
    ⟨_, Row.toRecord?_ofRecord (h request hrequest r hr)⟩

end Logbook
