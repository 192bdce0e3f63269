import Logbook.Proofs.Json.Spelled
import Logbook.Proofs.Search.Paging

/-!
# What is taken in is read back

A payload that was read from a text gives records whose attributes each have one name once and nest
no deeper than a reader admits, because a record nests no deeper than its payload. So the row of
such a record is made into the very same record again, and a store that took payloads in shows the
records that it returned then, each once and the newest first. A durable store does so across any
restarts.

Results:

* `Row.toRecord?_ofRecord_eq_self`: the row of a record is made into that record again.
* `Payload.fits_of_mem_records`: what the records of a payload nest.
* `Keeps.run`: what a run of intakes and restarts leaves in a store.
* `records_run`: every record taken in is read back.
-/

namespace Logbook

/-! ## Records and their rows -/

/-- The attributes of a record have each name once and nest no deeper than a reader admits. -/
structure Record.Fits (r : Record) : Prop where
  distinct : Json.Distinct (.object r.attributes)
  depth_le : Json.depth (.object r.attributes) ≤ Json.maxDepth

/-- **The row of a record is made into that record again.** -/
theorem Row.toRecord?_ofRecord_eq_self {r : Record} (h : r.Fits) :
    (Row.ofRecord r).toRecord? = some r := by
  have hmerged := Json.merged_eq_self _ h.distinct
  rw [Json.merged, Json.object.injEq] at hmerged
  rw [Row.toRecord?_ofRecord h.depth_le, hmerged]

namespace Payload

theorem fits_filter {ms : Json.Members} (hdistinct : Json.Distinct (.object ms))
    (hdepth : Json.depth (.object ms) ≤ Json.maxDepth) (p : String × Json → Bool) :
    Json.Distinct (.object (ms.filter p)) ∧ Json.depth (.object (ms.filter p)) ≤ Json.maxDepth := by
  rw [Json.Distinct, Json.distinctMembers_iff] at hdistinct ⊢
  rw [Json.depth] at hdepth ⊢
  have hmembers := Json.memberDepth_le_iff.1 (Nat.le_refl (Json.memberDepth ms))
  have hle : Json.memberDepth (ms.filter p) ≤ Json.memberDepth ms :=
    Json.memberDepth_le_iff.2 fun m hm => hmembers m (List.mem_filter.1 hm).1
  refine ⟨⟨?_, fun m hm => hdistinct.2 m (List.mem_filter.1 hm).1⟩, by omega⟩
  exact hdistinct.1.sublist (List.filter_sublist.map _)

theorem fits_record (stamp : Stamp) (transport : Option Transport) {v : Json}
    (hdistinct : Json.Distinct v) (hdepth : Json.depth v ≤ Json.maxDepth) :
    (record stamp transport v).Fits := by
  by_cases hobject : ∃ ms, v = .object ms
  · obtain ⟨ms, rfl⟩ := hobject
    obtain ⟨h, h'⟩ := fits_filter hdistinct hdepth fun m => isAttribute m.1
    exact ⟨h, h'⟩
  · rw [record_of_not_object stamp transport (not_exists.1 hobject)]
    constructor
    · simp [recordOfOther, Json.Distinct, Json.DistinctMembers, Entries.names]
    · simp [recordOfOther, Json.depth, Json.memberDepth, Json.maxDepth]

/-- **The records of a payload that a text spells fit**: none nests deeper than its payload. -/
theorem fits_of_mem_records {stamps : Stamp.Supply} {transport : Option Transport} {v : Json}
    (h : ∃ text, Json.read? text = some v) {r : Record} (hr : r ∈ records stamps transport v) :
    r.Fits := by
  obtain ⟨hdistinct, hdepth⟩ := Json.exists_read?_iff.1 h
  unfold records at hr
  split at hr
  · rename_i items
    rw [Json.Distinct, Json.distinctItems_iff] at hdistinct
    rw [Json.depth] at hdepth
    have hitems := Json.itemDepth_le_iff.1 (Nat.le_refl (Json.itemDepth items))
    obtain ⟨i, hi, rfl⟩ := List.mem_mapIdx.1 hr
    have hmem := List.getElem_mem hi
    exact fits_record _ _ (hdistinct _ hmem) (by have := hitems _ hmem; omega)
  · rw [List.mem_singleton.1 hr]
    exact fits_record _ _ hdistinct hdepth

end Payload

/-! ## Runs of intakes -/

/-- Records with the newest first; of records with equal timestamps the latest arrival comes
    first. -/
def Record.newestFirst (rs : List Record) : List Record :=
  rs.reverse.mergeSort fun a b => decide (b.timestamp ≤ a.timestamp)

theorem Record.map_newestFirst (rs : List Record) :
    (newestFirst rs).map Row.ofRecord = Log.newestFirst (rs.map Row.ofRecord) := by
  rw [newestFirst, Log.newestFirst, ← List.map_reverse]
  exact List.map_mergeSort fun a _ b _ => rfl

namespace Intake

/-- What happens to a store that takes payloads in. -/
inductive Event where
  | arrival (stamps : Stamp.Supply) (transport : Option Transport) (payload : Json)
  /-- The store is closed and opened again. -/
  | restart

/-- Whether a payload that arrives is the value of a text. -/
def Event.Spelled : Event → Prop
  | .arrival _ _ payload => ∃ text, Json.read? text = some payload
  | .restart => True

variable {σ : Type} [Store σ]

/-- Takes payloads in and restarts in between. Gives the records that the intakes returned, in
    order, and the store afterwards; none if anything fails. -/
def run? (again : σ → Option σ) : List Event → σ → Option (List Record × σ)
  | [], s => some ([], s)
  | .arrival stamps transport payload :: rest, s =>
    match ingest stamps transport payload s with
    | (.ok rs, s) => (run? again rest s).map fun (more, s) => (rs ++ more, s)
    | (.error _, _) => none
  | .restart :: rest, s => again s >>= run? again rest

/-- What is known of a store and its log lasts: the store answers as the log says, rows can be added
    to both, and a restart changes nothing. -/
structure Keeps (again : σ → Option σ) (known : σ → Log → Prop) : Prop where
  serves {s : σ} {log : Log} : known s log → Serves s log
  insertMany {s : σ} {log : Log} (rows : List Row) : known s log →
    ∃ s', (Store.Update.insertMany rows).after? s = some s' ∧ known s' (log ++ rows)
  restart {s : σ} {log : Log} : known s log → ∃ s', again s = some s' ∧ known s' log

variable {again : σ → Option σ} {known : σ → Log → Prop} {s s' : σ} {log : Log}

theorem ingest_of_after? {stamps : Stamp.Supply} {transport : Option Transport} {payload : Json}
    (h : (Store.Update.insertMany
      ((Payload.records stamps transport payload).map Row.ofRecord)).after? s = some s') :
    ingest stamps transport payload s = (.ok (Payload.records stamps transport payload), s') := by
  simp only [Store.Update.after?] at h
  simp only [ingest, changed]
  generalize (Store.insertMany _).apply s = out at h ⊢
  obtain ⟨outcome, s₁⟩ := out
  cases outcome with
  | error e => cases h
  | ok u =>
    obtain rfl := Option.some.inj h
    rfl

/-- **A run of intakes and restarts succeeds** and adds the rows of the records that it returned to
the log. -/
theorem Keeps.run (hk : Keeps again known) (h : known s log) {events : List Event}
    (hspelled : ∀ e ∈ events, e.Spelled) :
    ∃ rs s', run? again events s = some (rs, s') ∧ known s' (log ++ rs.map Row.ofRecord) ∧
      ∀ r ∈ rs, r.Fits := by
  induction events generalizing s log with
  | nil =>
    refine ⟨[], s, rfl, ?_, fun r hr => absurd hr List.not_mem_nil⟩
    rwa [List.map_nil, List.append_nil]
  | cons e rest ih =>
    have hrest : ∀ e ∈ rest, e.Spelled := fun e' he' => hspelled e' (List.mem_cons_of_mem e he')
    cases e with
    | arrival stamps transport payload =>
      obtain ⟨s₁, h₁, hknown⟩ :=
        hk.insertMany ((Payload.records stamps transport payload).map Row.ofRecord) h
      obtain ⟨rs, s', hrun, hknown', hfits⟩ := ih hknown hrest
      refine ⟨Payload.records stamps transport payload ++ rs, s', ?_, ?_, fun r hr => ?_⟩
      · simp only [run?, ingest_of_after? h₁, hrun, Option.map_some]
      · rwa [List.map_append, ← List.append_assoc]
      · rcases List.mem_append.1 hr with hr | hr
        · exact Payload.fits_of_mem_records (hspelled _ List.mem_cons_self) hr
        · exact hfits r hr
    | restart =>
      obtain ⟨s₁, h₁, hknown⟩ := hk.restart h
      obtain ⟨rs, s', hrun, hknown', hfits⟩ := ih hknown hrest
      exact ⟨rs, s', by rw [run?, h₁]; exact hrun, hknown', hfits⟩

/-- Without criteria a search shows the records of the log, newest first. -/
theorem records_everything {rs : List Record} (hs : Serves s (rs.map Row.ofRecord))
    (hfits : ∀ r ∈ rs, r.Fits) (limits : ScanLimits) :
    Search.records limits .everything s = .ok (Record.newestFirst rs) := by
  have hrows : ∀ row ∈ rs.map Row.ofRecord, ∃ r, row.toRecord? = some r := by
    intro row hrow
    obtain ⟨r, hr, rfl⟩ := List.mem_map.1 hrow
    exact ⟨r, Row.toRecord?_ofRecord_eq_self (hfits r hr)⟩
  have hall : Criteria.meaning limits .everything (rs.map Row.ofRecord) =
      (Record.newestFirst rs).map Row.ofRecord := by
    rw [Record.map_newestFirst]
    exact List.filter_eq_self.2 fun row _ => rfl
  have hback : Rebuilds ((Record.newestFirst rs).map Row.ofRecord) (Record.newestFirst rs) := by
    refine Rebuilds.of_records fun r hr => ?_
    have hmem := List.mem_reverse.1 (List.mem_mergeSort.1 hr)
    exact Row.toRecord?_ofRecord_eq_self (hfits r hmem)
  refine Search.records_eq_ok hs hrows ?_
  rw [hall]
  exact hback

/-! ## The stores -/

/-- The ledger made anew from its rows. -/
def remake (l : Ledger) : Option Ledger :=
  some (.ofRows l.oldestFirst)

/-- The durable store closed and opened again. -/
def reopen (directory : Path) (route : Route) (s : DurableStore) : Option DurableStore :=
  (DurableStore.openRoute directory route s.disk).1.toOption

theorem keeps_ledger : Keeps remake fun (l : Ledger) log => Arranges l.rows log where
  serves h := serves_ledger h
  insertMany {l _} rows h := ⟨l.insertMany rows, Ledger.after?_insertMany rows l, h.insertMany rows⟩
  restart {l log} h := by
    have hsame : (Ledger.ofRows l.rows).rows = l.rows :=
      (arranges_ofRows l.rows).unique ⟨h.ascending, fun _ => rfl⟩
    refine ⟨.ofRows l.rows, rfl, ?_⟩
    rwa [hsame]

theorem keeps_durable {directory : Path} {route : Route} {s₀ : DurableStore}
    (ho : DurableStore.Opened directory route s₀) :
    Keeps (reopen directory route) fun s log =>
      ∃ l file, DurableStore.Tracks s₀ s l file ∧ Arranges l.rows log where
  serves := by
    rintro s log ⟨l, file, ht, ha⟩
    have hanswers := ht.answers ho
    have hserves := serves_ledger ha
    exact ⟨fun selection => (hanswers.select selection).trans (hserves.select selection),
      fun selection => (hanswers.count selection).trans (hserves.count selection),
      fun facet => ⟨_, rfl⟩⟩
  insertMany := by
    rintro s log rows ⟨l, file, ht, ha⟩
    obtain ⟨s', hs', ht'⟩ := ht.insertMany ho rows
    exact ⟨s', hs', _, _, ht', ha.insertMany rows⟩
  restart := by
    rintro s log ⟨l, file, ht, ha⟩
    obtain ⟨s', disk', hopen, ht'⟩ := ht.reopen ho
    exact ⟨s', congrArg (fun out => out.1.toOption) hopen, l, file, ht', ha⟩

/-- **What is taken in is read back.** Payloads that texts spell are taken in by a ledger without
rows, and by a durable store that was opened on a missing or empty file, with restarts anywhere in
between. Every intake and every restart succeeds, and a search without criteria shows the records
that the intakes returned, the newest first: none is missing, doubled or altered. For the row of a
record is made into that record again, if its attributes have each name once and do not nest too
deep. -/
theorem records_run (limits : ScanLimits) {events : List Event}
    (h : ∀ e ∈ events, e.Spelled) :
    (∃ rs l, run? remake events Ledger.empty = some (rs, l) ∧
      Search.records limits .everything l = .ok (Record.newestFirst rs)) ∧
    (∀ directory route disk s₀ disk',
      DurableStore.openRoute directory route disk = (.ok s₀, disk') →
      (disk.read? s₀.path).getD .empty = .empty →
      ∃ rs s, run? (reopen directory route) events s₀ = some (rs, s) ∧
        Search.records limits .everything s = .ok (Record.newestFirst rs)) ∧
    ∀ r : Record, r.Fits → (Row.ofRecord r).toRecord? = some r := by
  refine ⟨?_, fun directory route disk s₀ disk' hopen hempty => ?_,
    fun r hr => Row.toRecord?_ofRecord_eq_self hr⟩
  · obtain ⟨rs, l, hrun, ha, hfits⟩ := keeps_ledger.run (s := Ledger.empty) Arranges.nil h
    rw [List.nil_append] at ha
    exact ⟨rs, l, hrun, records_everything (serves_ledger ha) hfits limits⟩
  · obtain ⟨ho, -⟩ := DurableStore.openRoute_spec hopen
    have hk := keeps_durable ho
    have hstart := DurableStore.tracks_open hopen hempty
    obtain ⟨rs, s, hrun, hknown, hfits⟩ := hk.run ⟨.empty, [], hstart, Arranges.nil⟩ h
    rw [List.nil_append] at hknown
    exact ⟨rs, s, hrun, records_everything (hk.serves hknown) hfits limits⟩

/-- A payload that nests, a restart and a payload with two records. -/
theorem records_run_nested :
    (∃ rs l, run? remake
        [.arrival (fun _ => ⟨"1", 0⟩) none (.object [("tags", .array [.object [], .bool true])]),
          .restart, .arrival (fun _ => ⟨"2", 0⟩) none (.array [.string "a\"b", .object []])]
        Ledger.empty = some (rs, l) ∧
      Search.records ⟨5000, 1000⟩ .everything l = .ok (Record.newestFirst rs)) ∧
    (∃ s₀ disk' rs s, DurableStore.openRoute [] ⟨true, [.into "logs.jsonl"], false, 11, 1⟩
        ⟨[(["logs.jsonl"], .file .empty)]⟩ = (.ok s₀, disk') ∧
      run? (reopen [] ⟨true, [.into "logs.jsonl"], false, 11, 1⟩)
        [.arrival (fun _ => ⟨"1", 0⟩) none (.object [("tags", .array [.object [], .bool true])]),
          .restart, .arrival (fun _ => ⟨"2", 0⟩) none (.array [.string "a\"b", .object []])]
        s₀ = some (rs, s) ∧
      Search.records ⟨5000, 1000⟩ .everything s = .ok (Record.newestFirst rs)) ∧
    (Row.ofRecord ⟨⟨"1", ⟨"2024"⟩, "up", "info", "api"⟩, [("tags", .array [.null])]⟩).toRecord? =
      some ⟨⟨"1", ⟨"2024"⟩, "up", "info", "api"⟩, [("tags", .array [.null])]⟩ := by
  have hspelled : ∀ e ∈
      [Event.arrival (fun _ => ⟨"1", 0⟩) none
          (.object [("tags", .array [.object [], .bool true])]),
        .restart, .arrival (fun _ => ⟨"2", 0⟩) none (.array [.string "a\"b", .object []])],
      e.Spelled := by
    simp only [List.forall_mem_cons, Event.Spelled, Json.exists_read?_iff]
    simp [Json.Distinct, Json.DistinctItems, Json.DistinctMembers, Entries.names, Json.depth,
      Json.itemDepth, Json.memberDepth, Json.maxDepth]
  obtain ⟨hledger, hdurable, hrow⟩ := records_run ⟨5000, 1000⟩ hspelled
  have hopen := DurableStore.openRoute_root DurableStore.decode_empty
  obtain ⟨rs, s, hrun, hrecords⟩ := hdurable _ _ _ _ _ hopen rfl
  refine ⟨hledger, ⟨_, _, rs, s, hopen, hrun, hrecords⟩, hrow _ ⟨?_, ?_⟩⟩
  · simp [Json.Distinct, Json.DistinctItems, Json.DistinctMembers, Entries.names]
  · simp [Json.depth, Json.itemDepth, Json.memberDepth, Json.maxDepth]

end Intake

end Logbook
