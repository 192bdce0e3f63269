import Logbook.Search
import Logbook.Proofs.Query.ReadBack
import Logbook.Proofs.Requests

/-!
# What a search retrieves

The meaning of criteria is a list of rows, said without plans, selections and stores: the rows of
the log that lie within the bounds, newest first, and among them those that mention the query or,
if the query is advanced, those of the first few that its terms hold of. A search of any store that
requests have led to gives the records of a page of that list.

Results:

* `Criteria.admits_restriction`: what a store is asked for are the bounds, an empty one being none.
* `records_of_loaded`, `records_unreadable`: what a search of a store gives that answers as its log
  says, and when it fails.
* `records_meaning`: what a search of a store gives that requests have led to.
-/

namespace Logbook

/-! ## Meaning -/

/-- Whether a bound, if there is one and it is not empty, is met. -/
def Criteria.passes (bound : Option String) (test : String → Bool) : Bool :=
  match bound with
  | none => true
  | some text => text == "" || test text

namespace Criteria

/-- Whether the level and the service of a row are those asked for and its time lies between the
    first and the last one asked for. -/
def inBounds (c : Criteria) (row : Row) : Bool :=
  passes c.level (row.level == ·) && passes c.service (row.service == ·) &&
    passes c.startDate (fun t => decide (t ≤ row.timestamp.text)) &&
    passes c.endDate (fun t => decide (row.timestamp.text ≤ t))

/-- The rows of the log within the bounds, newest first. -/
def candidates (c : Criteria) (log : Log) : List Row :=
  log.newestFirst.filter c.inBounds

end Criteria

/-- The row mentions a piece of text if it occurs in one of its texts when case is ignored. -/
def Row.Mentions (query : String) (row : Row) : Prop :=
  ∃ text ∈ [row.message, row.service, row.level, row.data],
    Text.folded query <:+: Text.folded text

instance (query : String) (row : Row) : Decidable (row.Mentions query) :=
  inferInstanceAs (Decidable (∃ text ∈ _, _))

/-- Whether all terms of a query hold of the record of a row. -/
def Row.satisfies (query : String) (row : Row) : Bool :=
  row.toRecord?.any (Query.holds (Query.terms query))

namespace Criteria

/-- The rows that the terms of a query hold of, among the first few within the bounds. -/
def scanned (c : Criteria) (query : String) (window : Nat) (log : Log) : List Row :=
  ((c.candidates log).take window).filter (Row.satisfies query)

/-- The rows that the criteria ask for, on all pages. -/
def meaning (limits : ScanLimits) (c : Criteria) (log : Log) : List Row :=
  match c.query with
  | none => c.candidates log
  | some query =>
    if query = "" then c.candidates log
    else if ':' ∉ query.toList ∧ '-' ∉ query.toList ∧ '*' ∉ query.toList ∧ '"' ∉ query.toList then
      (c.candidates log).filter fun row => decide (row.Mentions query)
    else c.scanned query (max (c.limit.getD limits.fallback) limits.floor) log

/-- The rows that a search makes into records: the window of a scan, or else the page itself. -/
def loaded (limits : ScanLimits) (c : Criteria) (log : Log) : List Row :=
  if c.isAdvanced then (c.candidates log).take (limits.budget c.limit)
  else page (c.offset.getD 0) c.limit (c.meaning limits log)

/-! ## What a store is asked for -/

theorem passes_eq (bound : Option String) (test : String → Bool) :
    passes bound test = (nonEmpty bound).all test := by
  cases bound with
  | none => rfl
  | some text =>
    by_cases h : text = ""
    · rw [h]
      rfl
    · have hempty : (text == "") = false := beq_eq_false_iff_ne.2 h
      simp [passes, nonEmpty, hempty, Option.filter, bne]

theorem admits_restriction (c : Criteria) (row : Row) :
    c.restriction.admits row = c.inBounds row := by
  simp only [inBounds, passes_eq, Restriction.admits, restriction, Option.all_map]
  rfl

end Criteria

theorem Row.mentions_iff {query : String} {row : Row} :
    row.Mentions query ↔ Selection.rowContains query row = true := by
  simp [Mentions, Selection.rowContains, Text.occursFolded, Text.occurs_iff, or_assoc]

/-- Advanced queries are those with one of the four marks. -/
theorem isAdvanced_iff {query : String} : isAdvanced query = true ↔
    ¬(':' ∉ query.toList ∧ '-' ∉ query.toList ∧ '*' ∉ query.toList ∧ '"' ∉ query.toList) := by
  simp only [isAdvanced, List.any_eq_true, Bool.or_eq_true, beq_iff_eq]
  constructor
  · rintro ⟨c, hc, ((rfl | rfl) | rfl) | rfl⟩ ⟨hcolon, hminus, hstar, hquote⟩
    · exact hcolon hc
    · exact hminus hc
    · exact hstar hc
    · exact hquote hc
  · intro h
    by_contra hno
    push Not at hno
    refine h ⟨fun hc => ?_, fun hc => ?_, fun hc => ?_, fun hc => ?_⟩
    · exact (hno _ hc).1.1.1 rfl
    · exact (hno _ hc).1.1.2 rfl
    · exact (hno _ hc).1.2 rfl
    · exact (hno _ hc).2 rfl

/-! ## Rows and their records -/

/-- The records are those of the rows, one for each. -/
def Rebuilds (rows : List Row) (rs : List Record) : Prop :=
  rs.map some = rows.map Row.toRecord?

namespace Rebuilds

variable {rows : List Row} {rs : List Record}

theorem length_eq (h : Rebuilds rows rs) : rs.length = rows.length := by
  have hlen := congrArg List.length h
  rwa [List.length_map, List.length_map] at hlen

theorem unique {ts : List Record} (h : Rebuilds rows rs) (h' : Rebuilds rows ts) : rs = ts :=
  List.map_injective_iff.2 (Option.some_injective _) (h.trans h'.symm)

theorem of_records (h : ∀ r ∈ rs, (Row.ofRecord r).toRecord? = some r) :
    Rebuilds (rs.map Row.ofRecord) rs := by
  rw [Rebuilds, List.map_map]
  exact (List.map_congr_left h).symm

theorem page (h : Rebuilds rows rs) (offset : Nat) (limit : Option Nat) :
    Rebuilds (page offset limit rows) (page offset limit rs) := by
  rw [Rebuilds] at h ⊢
  cases limit with
  | none => simp only [Logbook.page, List.map_drop, h]
  | some limit => simp only [Logbook.page, List.map_take, List.map_drop, h]

theorem filter (h : Rebuilds rows rs) (query : String) :
    Rebuilds (rows.filter (Row.satisfies query)) (Query.filter (Query.terms query) rs) := by
  have hrecords : (Query.filter (Query.terms query) rs).map some =
      (rs.map some).filter (Option.any (Query.holds (Query.terms query))) := by
    rw [List.filter_map]
    rfl
  rw [Rebuilds, hrecords, h, List.filter_map]
  rfl

end Rebuilds

theorem exists_rebuilds {rows : List Row} (h : ∀ row ∈ rows, ∃ r, row.toRecord? = some r) :
    ∃ rs, Rebuilds rows rs := by
  induction rows with
  | nil => exact ⟨[], rfl⟩
  | cons row rows ih =>
    obtain ⟨r, hr⟩ := h row List.mem_cons_self
    obtain ⟨rs, hrs⟩ := ih fun row' hrow' => h row' (List.mem_cons_of_mem row hrow')
    refine ⟨r :: rs, ?_⟩
    rw [Rebuilds, List.map_cons, List.map_cons, hr, hrs]

namespace Search

theorem recordsOfRows_of_rebuilds {rows : List Row} {rs : List Record} (h : Rebuilds rows rs) :
    recordsOfRows rows = .ok rs := by
  induction rows generalizing rs with
  | nil =>
    obtain rfl := List.map_eq_nil_iff.1 h
    rfl
  | cons row rows ih =>
    cases rs with
    | nil => cases h
    | cons r rs =>
      obtain ⟨hr, hrs⟩ := List.cons.inj h
      have hrest : recordsOfRows rows = .ok rs := ih hrs
      rw [recordsOfRows] at hrest ⊢
      rw [List.mapM_cons, hrest, ← hr]
      rfl

theorem exists_unreadable {rows : List Row} (h : ¬∀ row ∈ rows, ∃ r, row.toRecord? = some r) :
    ∃ row ∈ rows, row.toRecord? = none := by
  push Not at h
  obtain ⟨row, hrow, hnone⟩ := h
  exact ⟨row, hrow, Option.eq_none_iff_forall_ne_some.2 hnone⟩

theorem recordsOfRows_unreadable {rows : List Row} (h : ∃ row ∈ rows, row.toRecord? = none) :
    recordsOfRows rows = .error .serialization := by
  induction rows with
  | nil =>
    obtain ⟨row, hrow, -⟩ := h
    exact absurd hrow List.not_mem_nil
  | cons row rows ih =>
    rw [recordsOfRows, List.mapM_cons]
    cases hfirst : row.toRecord? with
    | none => rfl
    | some r =>
      have hrest : recordsOfRows rows = .error .serialization := by
        obtain ⟨bad, hbad, hnone⟩ := h
        rcases List.mem_cons.1 hbad with rfl | hbad
        · rw [hfirst] at hnone
          cases hnone
        · exact ih ⟨bad, hbad, hnone⟩
      rw [recordsOfRows] at hrest
      rw [hrest]
      rfl

/-! ## Searching -/

theorem admits_eq (c : Criteria) (contains : Option String) (limit offset : Option Nat) :
    Selection.admits ⟨c.restriction, contains, limit, offset⟩ =
      fun row => c.inBounds row && contains.all (Selection.rowContains · row) := by
  funext row
  rw [Selection.admits, c.admits_restriction]

/-- Without an advanced query the store is asked for exactly what the criteria mean. -/
theorem meaning_direct (limits : ScanLimits) {c : Criteria} (h : c.isAdvanced = false) (log : Log) :
    c.meaning limits log =
      log.newestFirst.filter (Selection.admits ⟨c.restriction, c.query?, c.limit, c.offset⟩) := by
  rw [admits_eq]
  unfold Criteria.meaning
  unfold Criteria.isAdvanced at h
  split
  · rename_i hquery
    have hnone : c.query? = none := by rw [Criteria.query?, hquery]; rfl
    simp only [hnone, Option.all_none, Bool.and_true]
    rfl
  · rename_i query hquery
    split
    · rename_i hempty
      have hnone : c.query? = none := by rw [Criteria.query?, hquery, hempty]; rfl
      simp only [hnone, Option.all_none, Bool.and_true]
      rfl
    · rename_i hempty
      have hsome : c.query? = some query := nonEmpty_eq_some_iff.2 ⟨hquery, hempty⟩
      rw [hsome, Option.any_some] at h
      have hplain : ':' ∉ query.toList ∧ '-' ∉ query.toList ∧ '*' ∉ query.toList ∧
          '"' ∉ query.toList := by
        by_contra hmark
        rw [isAdvanced_iff.2 hmark] at h
        cases h
      rw [if_pos hplain, Criteria.candidates, List.filter_filter, hsome]
      refine List.filter_congr fun row _ => ?_
      rw [Option.all_some, Bool.and_comm]
      congr 1
      rw [Bool.eq_iff_iff, decide_eq_true_iff]
      exact Row.mentions_iff

theorem exists_advanced {c : Criteria} (h : c.isAdvanced = true) :
    ∃ query, c.query? = some query ∧ isAdvanced query = true := by
  unfold Criteria.isAdvanced at h
  cases hquery : c.query? with
  | none =>
    rw [hquery] at h
    cases h
  | some query =>
    rw [hquery] at h
    exact ⟨query, rfl, h⟩

/-- With an advanced query the criteria mean what its terms hold of within a window. -/
theorem meaning_scan (limits : ScanLimits) {c : Criteria} {query : String}
    (hquery : c.query? = some query) (h : isAdvanced query = true) (log : Log) :
    c.meaning limits log = c.scanned query (limits.budget c.limit) log := by
  obtain ⟨hq, hempty⟩ := nonEmpty_eq_some_iff.1 hquery
  simp only [Criteria.meaning, hq, if_neg hempty, if_neg (isAdvanced_iff.1 h)]
  rfl

/-- What a scan finds where the rows of the log are made into their records again: the records among
    the first few within the bounds that the terms hold of. -/
theorem rebuilds_scanned {rs : List Record} {log : Log}
    (hnewest : log.newestFirst = rs.map Row.ofRecord)
    (hback : ∀ r ∈ rs, (Row.ofRecord r).toRecord? = some r) (c : Criteria) (query : String)
    (window : Nat) :
    Rebuilds (c.scanned query window log) (Query.filter (Query.terms query)
      ((rs.filter fun r => c.inBounds (Row.ofRecord r)).take window)) := by
  rw [Criteria.scanned, Criteria.candidates, hnewest, List.filter_map, ← List.map_take]
  refine (Rebuilds.of_records fun r hr => hback r ?_).filter query
  exact (List.mem_filter.1 (List.mem_of_mem_take hr)).1

variable {σ : Type} [Store σ] {s : σ} {log : Log}

theorem ok_of_answered {α : Type} {answer : Except StoreError α} {a : α}
    (h : answered answer = .ok a) : answer = .ok a := by
  cases answer with
  | error e => cases h
  | ok b =>
    cases h
    rfl

theorem mem_of_mem_page {α : Type} {x : α} {offset : Nat} {limit : Option Nat} {items : List α}
    (h : x ∈ page offset limit items) : x ∈ items := by
  cases limit with
  | none => exact List.mem_of_mem_drop h
  | some limit => exact List.mem_of_mem_drop (List.mem_of_mem_take h)

theorem loaded_direct (limits : ScanLimits) {c : Criteria} (h : c.isAdvanced = false) (log : Log) :
    c.loaded limits log = page (c.offset.getD 0) c.limit (c.meaning limits log) :=
  if_neg (Bool.eq_false_iff.1 h)

theorem loaded_scan (limits : ScanLimits) {c : Criteria} (h : c.isAdvanced = true) (log : Log) :
    c.loaded limits log = (c.candidates log).take (limits.budget c.limit) :=
  if_pos h

theorem records_direct (limits : ScanLimits) {c : Criteria} (h : c.isAdvanced = false) (s : σ) :
    records limits c s =
      answered (Store.select ⟨c.restriction, c.query?, c.limit, c.offset⟩ s >>= recordsOfRows) := by
  rw [records, Plan.build_direct limits h, execute]
  simp only [Plan.selection, bind_pure]

/-- **What a store gives** for a search of it. -/
theorem select_build (hs : Serves s log) (limits : ScanLimits) (c : Criteria) :
    Store.select (Plan.build limits c).selection s = .ok (c.loaded limits log) := by
  rw [hs.select]
  cases hadvanced : c.isAdvanced with
  | false =>
    rw [loaded_direct limits hadvanced, meaning_direct limits hadvanced,
      Plan.build_direct limits hadvanced]
    rfl
  | true =>
    obtain ⟨query, hquery, hmark⟩ := exists_advanced hadvanced
    rw [loaded_scan limits hadvanced, Plan.build_scan limits hquery hmark]
    simp only [Plan.selection, admits_eq, Option.all_none, Bool.and_true]
    rfl

theorem mem_of_mem_loaded {limits : ScanLimits} {c : Criteria} {row : Row}
    (h : row ∈ c.loaded limits log) : row ∈ log := by
  have hnewest : row ∈ log.newestFirst := by
    unfold Criteria.loaded at h
    split at h
    · exact (List.mem_filter.1 (List.mem_of_mem_take h)).1
    · rename_i hadvanced
      rw [meaning_direct limits (Bool.eq_false_of_not_eq_true hadvanced)] at h
      exact (List.mem_filter.1 (mem_of_mem_page h)).1
  exact Log.mem_newestFirst.1 hnewest

/-- **A search gives the records of a page of what the criteria mean**, if the rows that it loads
for it can all be made into records. -/
theorem records_of_loaded (hs : Serves s log) {limits : ScanLimits} {c : Criteria}
    (hr : ∀ row ∈ c.loaded limits log, ∃ r, row.toRecord? = some r) :
    ∃ rs, records limits c s = .ok rs ∧
      Rebuilds (page (c.offset.getD 0) c.limit (c.meaning limits log)) rs := by
  obtain ⟨found, hfound⟩ := exists_rebuilds hr
  have hselect := select_build hs limits c
  rw [records, execute, hselect]
  simp only [bind, Except.bind, recordsOfRows_of_rebuilds hfound]
  cases hadvanced : c.isAdvanced with
  | false =>
    rw [loaded_direct limits hadvanced] at hfound
    rw [Plan.build_direct limits hadvanced]
    exact ⟨found, rfl, hfound⟩
  | true =>
    obtain ⟨query, hquery, hmark⟩ := exists_advanced hadvanced
    rw [loaded_scan limits hadvanced] at hfound
    rw [Plan.build_scan limits hquery hmark, meaning_scan limits hquery hmark]
    exact ⟨_, rfl, (hfound.filter query).page (c.offset.getD 0) c.limit⟩

/-- A row among them that cannot be made into a record fails the search. -/
theorem records_unreadable (hs : Serves s log) {limits : ScanLimits} {c : Criteria}
    (h : ∃ row ∈ c.loaded limits log, row.toRecord? = none) :
    records limits c s = .error ⟨.serialization⟩ := by
  rw [records, execute, select_build hs]
  simp only [bind, Except.bind, recordsOfRows_unreadable h]
  rfl

/-- A search succeeds only if the rows that it loads can all be made into records. -/
theorem loaded_of_records (hs : Serves s log) {limits : ScanLimits} {c : Criteria}
    {rs : List Record} (h : records limits c s = .ok rs) :
    ∀ row ∈ c.loaded limits log, ∃ r, row.toRecord? = some r := by
  by_contra hno
  rw [records_unreadable hs (exists_unreadable hno)] at h
  cases h

/-- The count of a search is the number of rows that the criteria mean without limit and offset, if
    the rows that a scan loads for it can all be made into records. -/
theorem count_of_loaded (hs : Serves s log) {limits : ScanLimits} {c : Criteria}
    (hr : c.isAdvanced = true →
      ∀ row ∈ c.unpaginated.loaded limits log, ∃ r, row.toRecord? = some r) :
    count limits c s = .ok (c.unpaginated.meaning limits log).length := by
  cases hadvanced : c.unpaginated.isAdvanced with
  | false =>
    rw [count, Plan.build_direct limits hadvanced, meaning_direct limits hadvanced]
    simp only [hs.count]
    rfl
  | true =>
    obtain ⟨rs, hrs, hmeaning⟩ := records_of_loaded hs (hr hadvanced)
    obtain ⟨query, hquery, hmark⟩ := exists_advanced hadvanced
    rw [records, Plan.build_scan limits hquery hmark] at hrs
    rw [count, Plan.build_scan limits hquery hmark]
    simp only [ok_of_answered hrs, Except.map, hmeaning.length_eq]
    rfl

/-- **A search gives the records of a page of what the criteria mean**, of any store that answers
as its log says and whose rows can all be made into records. -/
theorem records_of_serves (hs : Serves s log) (hr : ∀ row ∈ log, ∃ r, row.toRecord? = some r)
    (limits : ScanLimits) (c : Criteria) :
    ∃ rs, records limits c s = .ok rs ∧
      Rebuilds (page (c.offset.getD 0) c.limit (c.meaning limits log)) rs :=
  records_of_loaded hs fun row hrow => hr row (mem_of_mem_loaded hrow)

theorem records_eq_ok (hs : Serves s log) (hr : ∀ row ∈ log, ∃ r, row.toRecord? = some r)
    {limits : ScanLimits} {c : Criteria} {rs : List Record}
    (h : Rebuilds (page (c.offset.getD 0) c.limit (c.meaning limits log)) rs) :
    records limits c s = .ok rs := by
  obtain ⟨found, hfound, hmeaning⟩ := records_of_serves hs hr limits c
  rw [hfound, hmeaning.unique h]

/-- The count of a search is the number of rows that the criteria mean without limit and offset. -/
theorem count_of_serves (hs : Serves s log) (hr : ∀ row ∈ log, ∃ r, row.toRecord? = some r)
    (limits : ScanLimits) (c : Criteria) :
    count limits c s = .ok (c.unpaginated.meaning limits log).length :=
  count_of_loaded hs fun _ row hrow => hr row (mem_of_mem_loaded hrow)

/-- **What a search retrieves.** Of every ledger and every durable store that requests have led to,
whose records nest no deeper than a reader admits, every search succeeds. Its records are those of
the page of the rows that the criteria mean, one for each and in order, and its count is the number
of rows that they mean on all pages. -/
theorem records_meaning {requests : List Request} (h : Reached requests s)
    (hshallow : ∀ request ∈ requests, request.Shallow) (limits : ScanLimits) (c : Criteria) :
    ∃ rs, records limits c s = .ok rs ∧
      rs.map some = (page (c.offset.getD 0) c.limit
        (c.meaning limits (Request.logOf requests))).map Row.toRecord? ∧
      count limits c s = .ok (c.unpaginated.meaning limits (Request.logOf requests)).length := by
  obtain ⟨rs, hrs, hmeaning⟩ := records_of_serves h.serves (exists_record hshallow) limits c
  exact ⟨rs, hrs, hmeaning, count_of_serves h.serves (exists_record hshallow) limits c⟩

/-! ## A log of a few records -/

/-- A record of the service `api` without attributes. -/
def note (id time level message : String) : Record :=
  ⟨⟨id, ⟨time⟩, message, level, "api"⟩, []⟩

theorem toRecord?_note (id time level message : String) :
    (Row.ofRecord (note id time level message)).toRecord? = some (note id time level message) := by
  have hdepth : Json.depth (.object []) ≤ Json.maxDepth := by
    rw [Json.depth]
    decide
  exact Row.toRecord?_ofRecord (r := note id time level message) hdepth

/-- Records in the order of their arrival. Three of them have one timestamp, one has another level,
    and the last one to arrive is older than all others. -/
def notes : List Record :=
  [note "1" "2024-02" "info" "disk full", note "2" "2024-03" "info" "disk slow",
    note "3" "2024-03" "info" "net down", note "4" "2024-03" "info" "disk gone",
    note "5" "2024-04" "debug" "disk found", note "6" "2024-01" "info" "disk new"]

/-- The same records with the newest first. -/
def notesShown : List Record :=
  [note "5" "2024-04" "debug" "disk found", note "4" "2024-03" "info" "disk gone",
    note "3" "2024-03" "info" "net down", note "2" "2024-03" "info" "disk slow",
    note "1" "2024-02" "info" "disk full", note "6" "2024-01" "info" "disk new"]

theorem newestFirst_notes :
    Log.newestFirst (Request.logOf (notes.map .insert)) = notesShown.map Row.ofRecord := by
  rw [← Ledger.reverse_rows (arranges_ofRows _)]
  decide +kernel

theorem rebuilds_notes (c : Criteria) (query : String) (window : Nat) :
    Rebuilds (c.scanned query window (Request.logOf (notes.map .insert)))
      (Query.filter (Query.terms query)
        ((notesShown.filter fun r => c.inBounds (Row.ofRecord r)).take window)) := by
  refine rebuilds_scanned newestFirst_notes ?_ c query window
  simp [notesShown, toRecord?_note]

/-- The second and the third of the records of one level that do not mention a word. -/
def secondAndThird : Criteria :=
  { Criteria.everything with
    query := some "-net", level := some "info", limit := some 2, offset := some 1 }

/-- A page of an advanced query within bounds: of records with equal timestamps the latest arrival
    comes first, and what the query excludes is neither shown nor counted. -/
theorem records_meaning_tied :
    ∃ l : Ledger, Reached (notes.map Request.insert) l ∧
      records ⟨5000, 1000⟩ secondAndThird l =
        .ok [note "2" "2024-03" "info" "disk slow", note "1" "2024-02" "info" "disk full"] ∧
      count ⟨5000, 1000⟩ secondAndThird l = .ok 4 := by
  obtain ⟨l, hl⟩ := exists_reached_ledger (notes.map Request.insert)
  have hshallow : ∀ request ∈ notes.map Request.insert, request.Shallow := by
    simp [notes, note, Request.Shallow, Request.stored, Json.depth, Json.memberDepth,
      Json.maxDepth]
  obtain ⟨rs, hrs, hpage, hcount⟩ := records_meaning hl hshallow ⟨5000, 1000⟩ secondAndThird
  have hterms : Query.terms "-net" = [⟨.text, "net", true⟩] :=
    Query.termsOf_single (show Term.Writable .bare ⟨.text, "net", true⟩ by decide)
  have hfound := rebuilds_notes secondAndThird "-net" 5000
  rw [hterms] at hfound
  refine ⟨l, hl, hrs.trans (congrArg Except.ok ?_), hcount.trans (congrArg Except.ok ?_)⟩
  · rw [meaning_scan _ (by rfl) (by decide)] at hpage
    exact Rebuilds.unique hpage (hfound.page 1 (some 2))
  · rw [meaning_scan _ (by rfl) (by decide)]
    exact hfound.length_eq.symm

end Search

end Logbook
