import Logbook.Proofs.Search.Paging
import Logbook.Proofs.Store.Holds

/-!
# Searching a store with rows that cannot be read

A file may hold rows whose data spell no object. They are loaded like any other, are counted, and
have a place among the rows that criteria ask for. Only where a record is to be made of one does a
search fail, and then as a whole: no record of another row is given.

**Which rows these are.** A search for a piece of text makes the rows of its page into records and
no others. A search with an advanced query makes records of all rows of its window, whether or not
its terms hold of them, and does so again for its total, in a window that the limit does not reach.

Results:

* `Criteria.forall_mem_searched`: the rows that a search with its total makes into records.
* `query_of_open`: exactly when a search of a store succeeds that was opened on any file.
-/

namespace Logbook

/-- The rows that a search with its total makes into records: those of the larger window of a scan,
    or else those of the page. -/
def Criteria.searched (limits : ScanLimits) (c : Criteria) (log : Log) : List Row :=
  if c.isAdvanced then
    (c.candidates log).take (max (limits.budget c.limit) (limits.budget none))
  else page (c.offset.getD 0) c.limit (c.meaning limits log)

namespace Criteria

variable {limits : ScanLimits} {c : Criteria} {log : Log}

/-- They are those of the search without its total and, if there is a scan, those of the scan for
    the total. -/
theorem forall_mem_searched {P : Row → Prop} :
    (∀ row ∈ c.searched limits log, P row) ↔
      (∀ row ∈ c.loaded limits log, P row) ∧
        (c.isAdvanced = true → ∀ row ∈ c.unpaginated.loaded limits log, P row) := by
  cases hadvanced : c.isAdvanced with
  | false => simp [searched, loaded, hadvanced]
  | true =>
    have hall : c.unpaginated.isAdvanced = true := hadvanced
    have hsame : c.unpaginated.candidates log = c.candidates log := rfl
    have hmem : ∀ (a b : Nat) (row : Row), row ∈ (c.candidates log).take (max a b) ↔
        row ∈ (c.candidates log).take a ∨ row ∈ (c.candidates log).take b := by
      intro a b row
      rcases Nat.le_total a b with h | h
      · rw [Nat.max_eq_right h, or_iff_right_of_imp]
        exact fun hrow => (List.take_prefix_take_left h).subset hrow
      · rw [Nat.max_eq_left h, or_iff_left_of_imp]
        exact fun hrow => (List.take_prefix_take_left h).subset hrow
    simp only [searched, loaded, hadvanced, hall, hsame, if_true, hmem, true_implies]
    exact ⟨fun h => ⟨fun row hrow => h row (.inl hrow), fun row hrow => h row (.inr hrow)⟩,
      fun h row hrow => hrow.elim (h.1 row) (h.2 row)⟩

end Criteria

namespace Search

variable {σ : Type} [Store σ] {s : σ} {log : Log} {limits : ScanLimits} {c : Criteria}

theorem query_of_searched (hs : Serves s log)
    (hr : ∀ row ∈ c.searched limits log, ∃ r, row.toRecord? = some r) :
    ∃ result, query limits c s = .ok result ∧
      Rebuilds (page (c.offset.getD 0) c.limit (c.meaning limits log)) result.records ∧
      result.total = (c.unpaginated.meaning limits log).length := by
  obtain ⟨hloaded, htotal⟩ := Criteria.forall_mem_searched.1 hr
  obtain ⟨rs, hrs, hpage⟩ := records_of_loaded hs hloaded
  have hcount := count_of_loaded hs htotal
  obtain ⟨levels, hlevels⟩ := hs.distinct .level
  obtain ⟨services, hservices⟩ := hs.distinct .service
  refine ⟨⟨rs, _, levels, services⟩, ?_, hpage, rfl⟩
  rw [query, hrs, hcount, Search.levels, hlevels, Search.services, hservices]
  rfl

theorem error_of_answered {α : Type} {answer : Except StoreError α} {e : StoreError}
    (h : answered answer = .error ⟨e⟩) : answer = .error e := by
  cases answer with
  | error e' =>
    cases h
    rfl
  | ok a => cases h

theorem count_unreadable (hs : Serves s log) (hadvanced : c.isAdvanced = true)
    (h : ∃ row ∈ c.unpaginated.loaded limits log, row.toRecord? = none) :
    count limits c s = .error ⟨.serialization⟩ := by
  have hall : c.unpaginated.isAdvanced = true := hadvanced
  obtain ⟨text, htext, hmark⟩ := exists_advanced hall
  have hfails := records_unreadable hs h
  rw [records, Plan.build_scan limits htext hmark] at hfails
  rw [count, Plan.build_scan limits htext hmark]
  simp only [error_of_answered hfails, Except.map]
  rfl

/-- A search with its total fails if a row that it makes into a record cannot be. -/
theorem query_unreadable (hs : Serves s log)
    (h : ∃ row ∈ c.searched limits log, row.toRecord? = none) :
    query limits c s = .error ⟨.serialization⟩ := by
  by_cases hloaded : ∀ row ∈ c.loaded limits log, ∃ r, row.toRecord? = some r
  · obtain ⟨rs, hrs, -⟩ := records_of_loaded hs hloaded
    -- The rows of the page are all read, so the row is one of the scan for the total.
    have htotal : ¬(c.isAdvanced = true →
        ∀ row ∈ c.unpaginated.loaded limits log, ∃ r, row.toRecord? = some r) := by
      intro htotal
      obtain ⟨row, hrow, hnone⟩ := h
      obtain ⟨r, hr⟩ := Criteria.forall_mem_searched.2 ⟨hloaded, htotal⟩ row hrow
      rw [hnone] at hr
      cases hr
    rw [Classical.not_imp] at htotal
    rw [query, hrs, count_unreadable hs htotal.1 (exists_unreadable htotal.2)]
    rfl
  · rw [query, records_unreadable hs (exists_unreadable hloaded)]
    rfl

/-- **Exactly when a search of a store succeeds that was opened on any file.** If all rows that the
search makes into records can be, it gives the records of its page, and its total is the number of
rows that the criteria mean on all pages, which is also the length of the answer without limit and
offset if there is one. If one of these rows cannot be, the search fails. -/
theorem query_of_open {directory : Path} {route : Route} {disk disk' : Disk} {s : DurableStore}
    (h : DurableStore.openRoute directory route disk = (.ok s, disk')) (limits : ScanLimits)
    (c : Criteria) :
    ∃ log, DurableStore.decode ((disk.read? s.path).getD .empty) = .ok log ∧
      ((∀ row ∈ c.searched limits log, ∃ r, row.toRecord? = some r) →
        ∃ result, query limits c s = .ok result ∧
          result.records.map some =
            (page (c.offset.getD 0) c.limit (c.meaning limits log)).map Row.toRecord? ∧
          result.total = (c.unpaginated.meaning limits log).length ∧
          ∀ full, records limits c.unpaginated s = .ok full → result.total = full.length) ∧
      ((∃ row ∈ c.searched limits log, row.toRecord? = none) →
        query limits c s = .error ⟨.serialization⟩) := by
  obtain ⟨log, hlog, hholds⟩ := DurableStore.holds_of_open h
  refine ⟨log, hlog, fun hr => ?_, query_unreadable hholds.serves⟩
  obtain ⟨result, hresult, hpage, htotal⟩ := query_of_searched hholds.serves hr
  refine ⟨result, hresult, hpage, htotal, fun full hfull => ?_⟩
  by_cases hall : ∀ row ∈ c.unpaginated.loaded limits log, ∃ r, row.toRecord? = some r
  · obtain ⟨rs, hrs, hmeaning⟩ := records_of_loaded hholds.serves hall
    rw [hfull] at hrs
    obtain rfl := Except.ok.inj hrs
    exact htotal.trans hmeaning.length_eq.symm
  · rw [records_unreadable hholds.serves (exists_unreadable hall)] at hfull
    cases hfull

/-- A row whose data spell no object. -/
def unreadable : Row := ⟨⟨"1", ⟨"2024"⟩, "down", "error", "db"⟩, "?"⟩

/-- A row that can be made into a record. -/
def readable : Row := ⟨⟨"2", ⟨"2024"⟩, "up", "info", "api"⟩, "{}"⟩

theorem newestFirst_both : Log.newestFirst [unreadable, readable] = [readable, unreadable] :=
  List.mergeSort_of_pairwise (by decide)

theorem exists_unreadable_searched :
    ∃ row ∈ Criteria.searched ⟨5000, 1000⟩
      { Criteria.everything with query := some "service:api" } [unreadable, readable],
        row.toRecord? = none := by
  have hrows : Criteria.searched ⟨5000, 1000⟩
      { Criteria.everything with query := some "service:api" } [unreadable, readable] =
        [readable, unreadable] := by
    rw [Criteria.searched, Criteria.candidates, newestFirst_both]
    decide +kernel
  have hnone : unreadable.toRecord? = none := by cbv
  rw [hrows]
  exact ⟨unreadable, List.mem_cons_of_mem _ List.mem_cons_self, hnone⟩

theorem eq_of_decode_both {log : Log}
    (h : DurableStore.decode (DurableStore.encode [unreadable, readable]) = .ok log) :
    log = [unreadable, readable] := by
  rw [DurableStore.decode_encode] at h
  exact (Except.ok.inj h).symm

/-- The page that shows the readable row alone is given, and its total counts both rows. The search
    for the service of that row fails. -/
theorem query_of_open_both :
    ∃ s disk', DurableStore.openRoute [] ⟨true, [.into "logs.jsonl"], false, 11, 1⟩
        ⟨[(["logs.jsonl"], .file (DurableStore.encode [unreadable, readable]))]⟩ = (.ok s, disk') ∧
      (∃ result, query ⟨5000, 1000⟩ { Criteria.everything with limit := some 1 } s = .ok result ∧
        result.records = [⟨⟨"2", ⟨"2024"⟩, "up", "info", "api"⟩, []⟩] ∧ result.total = 2) ∧
      query ⟨5000, 1000⟩ { Criteria.everything with query := some "service:api" } s =
        .error ⟨.serialization⟩ := by
  have hopen := DurableStore.openRoute_root (DurableStore.decode_encode [unreadable, readable])
  refine ⟨_, _, hopen, ?_, ?_⟩
  · obtain ⟨log, hlog, hok, -⟩ :=
      query_of_open hopen ⟨5000, 1000⟩ { Criteria.everything with limit := some 1 }
    obtain rfl := eq_of_decode_both hlog
    have hpage : Criteria.searched ⟨5000, 1000⟩ { Criteria.everything with limit := some 1 }
        [unreadable, readable] = [readable] := by
      change page 0 (some 1) ((Log.newestFirst _).filter _) = _
      rw [newestFirst_both]
      decide
    have hrecord : readable.toRecord? = some ⟨⟨"2", ⟨"2024"⟩, "up", "info", "api"⟩, []⟩ := by
      cbv
    have htwo : (Criteria.meaning ⟨5000, 1000⟩
        { Criteria.everything with limit := some 1 }.unpaginated
          [unreadable, readable]).length = 2 := by
      change ((Log.newestFirst _).filter _).length = 2
      rw [newestFirst_both]
      decide
    obtain ⟨result, hresult, hrecords, htotal, -⟩ := hok fun row hrow => by
      rw [hpage, List.mem_singleton] at hrow
      exact ⟨_, hrow ▸ hrecord⟩
    refine ⟨result, hresult, ?_, htotal.trans htwo⟩
    change result.records.map some = (Criteria.searched ⟨5000, 1000⟩
      { Criteria.everything with limit := some 1 } [unreadable, readable]).map _ at hrecords
    rw [hpage, List.map_singleton, hrecord] at hrecords
    exact List.map_injective_iff.2 (Option.some_injective _) hrecords
  · obtain ⟨log, hlog, -, herror⟩ :=
      query_of_open hopen ⟨5000, 1000⟩ { Criteria.everything with query := some "service:api" }
    obtain rfl := eq_of_decode_both hlog
    exact herror exists_unreadable_searched

/-- A search fails for a row that it does not ask for: the criteria mean the readable row alone. -/
theorem query_fails_on_other_row :
    ∃ s disk', DurableStore.openRoute [] ⟨true, [.into "logs.jsonl"], false, 11, 1⟩
        ⟨[(["logs.jsonl"], .file (DurableStore.encode [unreadable, readable]))]⟩ = (.ok s, disk') ∧
      Criteria.meaning ⟨5000, 1000⟩ { Criteria.everything with query := some "service:api" }
        [unreadable, readable] = [readable] ∧
      query ⟨5000, 1000⟩ { Criteria.everything with query := some "service:api" } s =
        .error ⟨.serialization⟩ := by
  have hopen := DurableStore.openRoute_root (DurableStore.decode_encode [unreadable, readable])
  obtain ⟨log, hlog, hholds⟩ := DurableStore.holds_of_open hopen
  obtain rfl := eq_of_decode_both hlog
  refine ⟨_, _, hopen, ?_, query_unreadable hholds.serves exists_unreadable_searched⟩
  change ((Criteria.candidates _ _).take _).filter _ = [readable]
  rw [Criteria.candidates, newestFirst_both]
  decide +kernel

end Search

end Logbook
