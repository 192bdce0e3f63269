import Logbook.Feed
import Logbook.Proofs.Store.Holds

/-!
# What a feed leaves in a store

A stream is cut into lines, and each line brings values: none if it is blank, one for each item if
it is a JSON array, and otherwise one, the line itself if it is JSON and a wrapped line if not.
Every value becomes one record. Nothing else happens: whatever store takes the stream in, it holds
the rows that it held before and behind them those of the values, in the order of the lines and of
the items in a line.

Results:

* `Payload.records_eq`: a payload gives a record for each of its items.
* `flatMap_items_deliveries`: the values of a stream are those of its lines.
* `store_of_holds`: storing deliveries adds a row for each of their items.
* `store_deliveries`: what a stream leaves in a store.
-/

namespace Logbook

namespace Payload

/-- The values of a payload that become records: the items of an array, or the payload itself. -/
def items : Json → List Json
  | .array items => items
  | v => [v]

theorem records_eq (stamps : Stamp.Supply) (transport : Option Transport) (v : Json) :
    records stamps transport v =
      (items v).mapIdx fun i item => record (stamps i) transport item := by
  cases v <;> rfl

end Payload

namespace Feed

/-! ## Lines -/

/-- The values that a line brings. An object that lacks a service gets that of the feed. -/
def valuesOfLine (now : Int) (service : String) (line : List Char) : List Json :=
  if Text.allBlank line then []
  else
    match Json.read? (String.ofList (stripEnds line)) with
    | some (.array items) => items
    | some v => [fillService service v]
    | none => [wrapped now service (stripEnds line)]

/-- The number of values that a line brings. -/
def valueCount (line : List Char) : Nat :=
  if Text.allBlank line then 0
  else
    match Json.read? (String.ofList (stripEnds line)) with
    | some (.array items) => items.length
    | _ => 1

theorem length_valuesOfLine (now : Int) (service : String) (line : List Char) :
    (valuesOfLine now service line).length = valueCount line := by
  unfold valuesOfLine valueCount
  by_cases hblank : Text.allBlank line = true
  · rw [if_pos hblank, if_pos hblank]
    rfl
  · rw [if_neg hblank, if_neg hblank]
    cases Json.read? (String.ofList (stripEnds line)) with
    | none => rfl
    | some v => cases v <;> rfl

/-- Line ends are blank, so a line without those at its end is blank if the line is. -/
theorem allBlank_stripEnds (line : List Char) :
    Text.allBlank (stripEnds line) = Text.allBlank line := by
  have hends : ∀ cs : List Char, (cs.dropWhile fun c => c == '\r' || c == '\n').all Text.isBlank =
      cs.all Text.isBlank := by
    intro cs
    induction cs with
    | nil => rfl
    | cons c cs ih =>
      by_cases hc : (c == '\r' || c == '\n') = true
      · have hblank : Text.isBlank c = true := by
          rw [Bool.or_eq_true, beq_iff_eq, beq_iff_eq] at hc
          rcases hc with rfl | rfl <;> decide
        rw [List.dropWhile_cons, if_pos hc, ih, List.all_cons, hblank, Bool.true_and]
      · rw [List.dropWhile_cons, if_neg hc]
  rw [Text.allBlank, stripEnds, List.all_reverse, hends, List.all_reverse]
  rfl

theorem fillService_wrapped (now : Int) (service : String) (line : List Char) :
    fillService service (wrapped now service line) = wrapped now service line := by
  have hservice : Entries.get? [("timestamp", Json.ofInt now),
      ("level", .string Payload.defaultLevel), ("message", .string (String.ofList line)),
      ("service", .string service)] "service" = some (.string service) := rfl
  simp only [wrapped, fillService, lacksService, hservice]
  by_cases h : service = ""
  · simp [h]
  · simp [h]

theorem items_payload? (now : Int) (service : String) (line : List Char) :
    (payload? now service line).toList.flatMap Payload.items = valuesOfLine now service line := by
  rw [payload?, allBlank_stripEnds, valuesOfLine]
  by_cases hblank : Text.allBlank line = true
  · rw [if_pos hblank, if_pos hblank]
    rfl
  · rw [if_neg hblank, if_neg hblank, Option.toList_some, List.flatMap_singleton]
    cases Json.read? (String.ofList (stripEnds line)) with
    | none => rw [Option.getD_none, fillService_wrapped]; rfl
    | some v => cases v <;> rfl

/-! ## Streams -/

/-- The values that a stream brings, line by line. -/
def values (clock : Nat → Int) (service : String) (bytes : List UInt8) : List Json :=
  ((Text.lines isLineEnd bytes).mapIdx fun i line =>
    valuesOfLine (clock i) service (Text.Utf8.decode line)).flatten

theorem flatMap_items_deliveries (clock : Nat → Int) (origin : Origin) (o : Options)
    (bytes : List UInt8) :
    ((deliveries clock origin o bytes).flatMap fun d => Payload.items d.payload) =
      values clock o.service bytes := by
  have hline : ∀ line ∈ (Text.lines isLineEnd bytes).zipIdx,
      ((id ((payload? (clock line.2) o.service (Text.Utf8.decode line.1)).map
        fun v => (⟨v, o.transport, origin⟩ : Delivery))).toList.flatMap
          fun d => Payload.items d.payload) =
        valuesOfLine (clock line.2) o.service (Text.Utf8.decode line.1) := by
    intro line _
    rw [← items_payload?]
    cases payload? (clock line.2) o.service (Text.Utf8.decode line.1) <;> rfl
  rw [deliveries, values, List.mapIdx_eq_zipIdx_map, List.mapIdx_eq_zipIdx_map,
    List.filterMap_eq_flatMap_toList, List.flatMap_assoc, List.flatMap_map, ← List.flatMap_def]
  exact List.flatMap_congr hline

theorem length_values (clock : Nat → Int) (service : String) (bytes : List UInt8) :
    (values clock service bytes).length =
      ((Text.lines isLineEnd bytes).map fun line => valueCount (Text.Utf8.decode line)).sum := by
  have hlines : (((Text.lines isLineEnd bytes).mapIdx fun i line =>
      valuesOfLine (clock i) service (Text.Utf8.decode line)).map List.length) =
        (Text.lines isLineEnd bytes).map fun line => valueCount (Text.Utf8.decode line) := by
    apply List.ext_getElem
    · simp
    · intro i _ _
      simp [length_valuesOfLine]
  rw [values, List.length_flatten, hlines]

/-! ## Storing -/

/-- The records of values, each with a stamp of its own. The first `used` stamps are taken. -/
def recordsOf (stamps : Stamp.Supply) (used : Nat) (transport : Option Transport) (vs : List Json) :
    List Record :=
  vs.mapIdx fun k v => Payload.record (stamps (used + k)) transport v

theorem recordsOf_append (stamps : Stamp.Supply) (used : Nat) (transport : Option Transport)
    (vs ws : List Json) :
    recordsOf stamps used transport (vs ++ ws) =
      recordsOf stamps used transport vs ++
        recordsOf stamps (used + vs.length) transport ws := by
  rw [recordsOf, List.mapIdx_append]
  congr 1
  rw [recordsOf]
  congr 1
  funext k v
  rw [Nat.add_comm k, ← Nat.add_assoc]

variable {σ : Type} [Store σ] {s : σ} {log : Log}

/-- **Storing deliveries adds a row for each of their items**, in order, and gives their number. -/
theorem store_of_holds (h : Holds s log) (stamps : Stamp.Supply) (used : Nat)
    {transport : Option Transport} {ds : List Delivery} (hds : ∀ d ∈ ds, d.transport = transport) :
    ∃ s', store stamps used ds s = (.ok (ds.flatMap fun d => Payload.items d.payload).length, s') ∧
      Holds s' (log ++ (recordsOf stamps used transport
        (ds.flatMap fun d => Payload.items d.payload)).map Row.ofRecord) := by
  induction ds generalizing s log used with
  | nil =>
    refine ⟨s, rfl, ?_⟩
    rw [List.flatMap_nil, recordsOf, List.mapIdx_nil, List.map_nil, List.append_nil]
    exact h
  | cons d rest ih =>
    have hd : d.transport = transport := hds d List.mem_cons_self
    have hrecords : Payload.records (stamps.drop used) d.transport d.payload =
        recordsOf stamps used transport (Payload.items d.payload) := by
      rw [Payload.records_eq, hd]
      rfl
    obtain ⟨s₁, h₁, hholds₁⟩ := h.ingest (stamps.drop used) d.transport d.payload
    have hlength : (Payload.records (stamps.drop used) d.transport d.payload).length =
        (Payload.items d.payload).length := by
      rw [hrecords, recordsOf, List.length_mapIdx]
    obtain ⟨s', hrest, hholds'⟩ := ih hholds₁ (used + (Payload.items d.payload).length)
      fun d' hd' => hds d' (List.mem_cons_of_mem d hd')
    refine ⟨s', ?_, ?_⟩
    · simp only [store, h₁, hlength, hrest, List.flatMap_cons,
        List.length_append]
      rfl
    · rw [hrecords, List.append_assoc, ← List.map_append, ← recordsOf_append] at hholds'
      exact hholds'

/-- Of the rows that a store shows newest first, those of any one timestamp are in the opposite
    order of their arrival. -/
theorem filter_isAt_newestFirst (log : Log) (t : Timestamp) :
    log.newestFirst.filter (Row.isAt t) = (log.filter (Row.isAt t)).reverse := by
  rw [← reverse_oldestFirst, List.filter_reverse, (arranges_oldestFirst log).ties]

/-- The records of a stream. The first `used` stamps are taken. -/
def records (stamps : Stamp.Supply) (used : Nat) (clock : Nat → Int) (o : Options)
    (bytes : List UInt8) : List Record :=
  recordsOf stamps used o.transport (values clock o.service bytes)

/-- **A feed run loses and invents nothing.** Any stream is stored without failure in a store that
holds some log. Afterwards the store holds that log and behind it a row for each value that the
lines of the stream bring, in their order. The number that is told is the number of these rows, and
of the rows that the store then shows those with equal timestamps are in the opposite order of their
arrival. -/
theorem store_deliveries (h : Holds s log) (stamps : Stamp.Supply) (used : Nat) (clock : Nat → Int)
    (origin : Origin) (o : Options) (bytes : List UInt8) :
    ∃ s', store stamps used (deliveries clock origin o bytes) s =
        (.ok (records stamps used clock o bytes).length, s') ∧
      (records stamps used clock o bytes).length =
        ((Text.lines isLineEnd bytes).map fun line => valueCount (Text.Utf8.decode line)).sum ∧
      Holds s' (log ++ (records stamps used clock o bytes).map Row.ofRecord) ∧
      ∃ rows, Store.select ⟨.none, none, none, none⟩ s' = .ok rows ∧
        rows.Perm (log ++ (records stamps used clock o bytes).map Row.ofRecord) ∧
        ∀ t, rows.filter (Row.isAt t) =
          ((log ++ (records stamps used clock o bytes).map Row.ofRecord).filter
            (Row.isAt t)).reverse := by
  have htransport : ∀ d ∈ deliveries clock origin o bytes, d.transport = o.transport :=
    fun d hd => (deliveries_transport hd).1
  obtain ⟨s', hstore, hholds⟩ := store_of_holds h stamps used htransport
  rw [flatMap_items_deliveries] at hstore hholds
  have hlength : (records stamps used clock o bytes).length =
      (values clock o.service bytes).length := by
    rw [records, recordsOf, List.length_mapIdx]
  have hall : ∀ rows : List Row, rows.filter (Selection.admits ⟨.none, none, none, none⟩) = rows :=
    fun rows => List.filter_eq_self.2 fun _ _ => rfl
  refine ⟨s', by rw [hlength, hstore], by rw [hlength, length_values], hholds, _,
    hholds.serves.select _, ?_, fun t => ?_⟩
  · rw [hall]
    exact (List.mergeSort_perm _ _).trans (List.reverse_perm _)
  · rw [hall]
    exact filter_isAt_newestFirst _ t

/-- A line with two items, a blank line, and a line that is not JSON, has no line end and breaks off
    inside a character. -/
def mixedStream : List UInt8 :=
  "[1,{}]\r\n \nup".toUTF8.toList ++ [0xE2]

/-- Three rows are stored behind the one that was there. -/
theorem store_deliveries_mixed :
    ∃ l l' : Ledger, Reached [.insert ⟨⟨"0", ⟨"2024"⟩, "old", "info", "api"⟩, []⟩] l ∧
      store (fun _ => ⟨"1", 0⟩) 0 (deliveries (fun _ => 0) .stdin ⟨"edge", true⟩ mixedStream) l =
        (.ok 3, l') ∧
      Holds l' (⟨⟨"0", ⟨"2024"⟩, "old", "info", "api"⟩, "{}"⟩ ::
        ["1", "{}", "up\uFFFD"].map fun message =>
          ⟨⟨"1", ⟨"1970-01-01T00:00:00.000Z"⟩, message, "info", "edge"⟩, "{}"⟩) := by
  obtain ⟨l, hl⟩ := exists_reached_ledger [.insert ⟨⟨"0", ⟨"2024"⟩, "old", "info", "api"⟩, []⟩]
  obtain ⟨l', hstore, -, hholds, -⟩ := store_deliveries hl.holds (fun _ => ⟨"1", 0⟩) 0 (fun _ => 0)
    .stdin ⟨"edge", true⟩ mixedStream
  have hlength : (records (fun _ => ⟨"1", 0⟩) 0 (fun _ => 0) ⟨"edge", true⟩ mixedStream).length =
      3 := by
    decide +kernel
  have hlog : Request.logOf [.insert ⟨⟨"0", ⟨"2024"⟩, "old", "info", "api"⟩, []⟩] ++
      (records (fun _ => ⟨"1", 0⟩) 0 (fun _ => 0) ⟨"edge", true⟩ mixedStream).map Row.ofRecord =
        ⟨⟨"0", ⟨"2024"⟩, "old", "info", "api"⟩, "{}"⟩ ::
          ["1", "{}", "up\uFFFD"].map fun message =>
            ⟨⟨"1", ⟨"1970-01-01T00:00:00.000Z"⟩, message, "info", "edge"⟩, "{}"⟩ := by
    decide +kernel
  rw [hlength] at hstore
  rw [hlog] at hholds
  exact ⟨l, l', hl, hstore, hholds⟩

end Feed

end Logbook
