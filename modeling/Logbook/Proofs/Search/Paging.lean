import Mathlib.Data.List.Infix
import Logbook.Proofs.Search.Retrieval

/-!
# Pages of a search

A page should be a piece of the answer without limit and offset, and the total its length. The total
always is. The page is, for a query that is not advanced. With an advanced query the page is cut
from the matches in a window that grows with its limit, and the whole answer from the matches in a
window that the limit does not reach, so the page is a piece of the whole answer exactly if both
windows hold as many matches for it.

Results:

* `query_page_iff`: exactly when the page of a search is a piece of the whole answer.
* `Criteria.samePage_of_le_floor`: it is where no window exceeds the least one.
* `page_exceeds_total`: a page may show more records than its total counts.
-/

namespace Logbook

/-! ## Windows -/

/-- The window of the page holds as many matches for it as the window of the whole answer. -/
def Criteria.SamePage (limits : ScanLimits) (c : Criteria) (log : Log) : Prop :=
  ∀ query limit, c.query? = some query → Logbook.isAdvanced query = true → c.limit = some limit →
    min limit ((c.scanned query (max limit limits.floor) log).length - c.offset.getD 0) =
      min limit ((c.scanned query (max limits.fallback limits.floor) log).length - c.offset.getD 0)

theorem page_length {α : Type} (offset limit : Nat) (items : List α) :
    (page offset (some limit) items).length = min limit (items.length - offset) := by
  rw [page, List.length_take, List.length_drop]

/-- Pages of two lists of which one continues the other are equal if they are equally long. -/
theorem page_eq_iff_of_prefix {α : Type} {xs ys : List α} (h : xs <+: ys ∨ ys <+: xs)
    (offset limit : Nat) :
    page offset (some limit) xs = page offset (some limit) ys ↔
      min limit (xs.length - offset) = min limit (ys.length - offset) := by
  constructor
  · intro heq
    rw [← page_length, heq, page_length]
  · intro hlen
    rw [← page_length, ← page_length] at hlen
    rcases h with h | h
    · exact ((h.drop offset).take limit).eq_of_length hlen
    · exact (((h.drop offset).take limit).eq_of_length hlen.symm).symm

namespace Criteria

theorem scanned_prefix (c : Criteria) (query : String) {small large : Nat} (h : small ≤ large)
    (log : Log) : c.scanned query small log <+: c.scanned query large log :=
  (List.take_prefix_take_left h).filter _

theorem scanned_comparable (c : Criteria) (query : String) (a b : Nat) (log : Log) :
    c.scanned query a log <+: c.scanned query b log ∨
      c.scanned query b log <+: c.scanned query a log :=
  (Nat.le_total a b).imp (fun h => c.scanned_prefix query h log)
    fun h => c.scanned_prefix query h log

/-- Where neither the limit nor what stands in for a missing one exceeds the least window, all
    windows are the same. -/
theorem samePage_of_le_floor {limits : ScanLimits} {c : Criteria}
    (hlimit : ∀ limit, c.limit = some limit → limit ≤ limits.floor)
    (hfallback : limits.fallback ≤ limits.floor) (log : Log) : c.SamePage limits log := by
  intro query limit _ _ hc
  rw [Nat.max_eq_right (hlimit limit hc), Nat.max_eq_right hfallback]

end Criteria

namespace Search

variable {σ : Type} [Store σ] {s : σ} {log : Log}

theorem meaning_unpaginated (limits : ScanLimits) {c : Criteria} (h : c.isAdvanced = false)
    (log : Log) : c.unpaginated.meaning limits log = c.meaning limits log := by
  have hall : c.unpaginated.isAdvanced = false := h
  rw [meaning_direct limits h, meaning_direct limits hall]
  rfl

/-- A search with its total and facets succeeds, and so does the one for all pages. -/
theorem query_of_serves (hs : Serves s log) (hr : ∀ row ∈ log, ∃ r, row.toRecord? = some r)
    (limits : ScanLimits) (c : Criteria) :
    ∃ full result, records limits c.unpaginated s = .ok full ∧ query limits c s = .ok result ∧
      Rebuilds (c.unpaginated.meaning limits log) full ∧ result.total = full.length ∧
      Rebuilds (page (c.offset.getD 0) c.limit (c.meaning limits log)) result.records := by
  obtain ⟨full, hfull, hall⟩ := records_of_serves hs hr limits c.unpaginated
  obtain ⟨rs, hrs, hpage⟩ := records_of_serves hs hr limits c
  have htotal := count_of_serves hs hr limits c
  obtain ⟨levels, hlevels⟩ := hs.distinct .level
  obtain ⟨services, hservices⟩ := hs.distinct .service
  refine ⟨full, ⟨rs, full.length, levels, services⟩, hfull, ?_, hall, rfl, hpage⟩
  rw [query, hrs, htotal, Search.levels, hlevels, Search.services, hservices, hall.length_eq]
  rfl

/-- A window of rows that all satisfy the query is as long as there are rows. -/
theorem length_scanned_of_all {c : Criteria} {text : String} {window : Nat}
    (h : ∀ row ∈ log, c.inBounds row = true ∧ row.satisfies text = true) :
    (c.scanned text window log).length = min window log.length := by
  have hrow : ∀ row ∈ log.newestFirst, c.inBounds row = true ∧ row.satisfies text = true :=
    fun row hmem => h row (Log.mem_newestFirst.1 hmem)
  have hlength : log.newestFirst.length = log.length := by
    rw [Log.newestFirst, List.length_mergeSort, List.length_reverse]
  have hbounds := List.filter_eq_self.2 fun row hmem => (hrow row hmem).1
  have hsatisfies := List.filter_eq_self.2 fun row (hmem : row ∈ log.newestFirst.take window) =>
    (hrow row (List.mem_of_mem_take hmem)).2
  rw [Criteria.scanned, Criteria.candidates, hbounds, hsatisfies, List.length_take, hlength]

/-- Where every row satisfies an advanced query, the windows alone decide how many records the whole
    answer and the page have. -/
theorem lengths_of_all (hs : Serves s log) (hr : ∀ row ∈ log, ∃ r, row.toRecord? = some r)
    (limits : ScanLimits) {c : Criteria} {text : String} {limit : Nat}
    (htext : c.query? = some text) (hmark : isAdvanced text = true) (hlimit : c.limit = some limit)
    (hall : ∀ row ∈ log, c.inBounds row = true ∧ row.satisfies text = true) :
    ∃ full result, records limits c.unpaginated s = .ok full ∧ query limits c s = .ok result ∧
      result.total = full.length ∧ full.length = min (limits.budget none) log.length ∧
      result.records.length =
        min limit (min (limits.budget (some limit)) log.length - c.offset.getD 0) := by
  obtain ⟨full, result, hfull, hresult, hmeaning, htotal, hpage⟩ := query_of_serves hs hr limits c
  have htext' : c.unpaginated.query? = some text := htext
  rw [meaning_scan limits htext' hmark] at hmeaning
  rw [meaning_scan limits htext hmark, hlimit] at hpage
  refine ⟨full, result, hfull, hresult, htotal, ?_, ?_⟩
  · rw [hmeaning.length_eq]
    exact length_scanned_of_all hall
  · rw [hpage.length_eq, page_length, length_scanned_of_all hall]

/-- **Exactly when a page is a piece of the whole answer.** Of every ledger and every durable store
that requests have led to, whose records nest no deeper than a reader admits, every search and its
answer without limit and offset succeed, and the total is the length of that answer. The page is the
piece of it at the offset, cut to the limit, exactly if the query is not advanced, or there is no
limit, or the window of the page holds as many matches for it as the window of the whole answer. -/
theorem query_page_iff {requests : List Request} (h : Reached requests s)
    (hshallow : ∀ request ∈ requests, request.Shallow) (limits : ScanLimits) (c : Criteria) :
    ∃ full result, records limits c.unpaginated s = .ok full ∧ query limits c s = .ok result ∧
      result.total = full.length ∧
      (result.records = page (c.offset.getD 0) c.limit full ↔
        c.SamePage limits (Request.logOf requests)) := by
  obtain ⟨full, result, hfull, hresult, hall, htotal, hpage⟩ :=
    query_of_serves h.serves (exists_record hshallow) limits c
  refine ⟨full, result, hfull, hresult, htotal, ?_⟩
  have hcut := hall.page (c.offset.getD 0) c.limit
  cases hadvanced : c.isAdvanced with
  | false =>
    rw [meaning_unpaginated limits hadvanced] at hcut
    refine iff_of_true (hpage.unique hcut) fun query limit hquery hmark _ => ?_
    rw [Criteria.isAdvanced, hquery, Option.any_some, hmark] at hadvanced
    cases hadvanced
  | true =>
    obtain ⟨text, htext, hmark⟩ := exists_advanced hadvanced
    have htext' : c.unpaginated.query? = some text := htext
    rw [meaning_scan limits htext hmark] at hpage
    rw [meaning_scan limits htext' hmark] at hcut hall
    change Rebuilds (c.scanned text (limits.budget none) _) full at hall
    change Rebuilds (page _ _ (c.scanned text (limits.budget none) _)) _ at hcut
    cases hlimit : c.limit with
    | none =>
      rw [hlimit] at hpage hcut
      refine iff_of_true (hpage.unique hcut) fun query limit _ _ hsome => ?_
      rw [hlimit] at hsome
      cases hsome
    | some limit =>
      rw [hlimit] at hpage hcut
      have hcompare := page_eq_iff_of_prefix (c.scanned_comparable text
        (limits.budget (some limit)) (limits.budget none) (Request.logOf requests))
        (c.offset.getD 0) limit
      constructor
      · rintro heq query limit' hquery _ hlimit'
        obtain rfl := Option.some.inj (htext.symm.trans hquery)
        obtain rfl := Option.some.inj (hlimit.symm.trans hlimit')
        have hlen := congrArg List.length heq
        rwa [hpage.length_eq, page_length, page_length, hall.length_eq] at hlen
      · intro hsame
        rw [← hcompare.2 (hsame text limit htext hmark hlimit)] at hcut
        exact hpage.unique hcut

theorem satisfies_note : (Row.ofRecord (note "1" "2024" "info" "up")).satisfies "-down" = true := by
  have hterms : Query.terms "-down" = [⟨.text, "down", true⟩] :=
    Query.termsOf_single (show Term.Writable .bare ⟨.text, "down", true⟩ by decide)
  rw [Row.satisfies, toRecord?_note, Option.any_some, hterms]
  decide

/-- With the windows that no setting changes, the second record of two is the page behind the first
    one. -/
theorem query_page_iff_usual_windows :
    ∃ (l : Ledger) (full : List Record) (result : SearchResult),
      Reached (List.replicate 2 (.insert (note "1" "2024" "info" "up"))) l ∧
      records ⟨5000, 1000⟩ { Criteria.everything with query := some "-down" } l = .ok full ∧
      query ⟨5000, 1000⟩
        { Criteria.everything with query := some "-down", limit := some 3, offset := some 1 } l =
        .ok result ∧
      full.length = 2 ∧ result.total = 2 ∧ result.records = page 1 (some 3) full := by
  obtain ⟨l, hl⟩ := exists_reached_ledger
    (List.replicate 2 (.insert (note "1" "2024" "info" "up")))
  have hshallow : ∀ request ∈ List.replicate 2
      (Request.insert (note "1" "2024" "info" "up")), request.Shallow := by
    intro request hrequest r hr
    rw [List.eq_of_mem_replicate hrequest] at hr
    rw [List.mem_singleton.1 hr, note, Json.depth]
    decide
  obtain ⟨full, result, hfull, hresult, htotal, hpage⟩ := query_page_iff hl hshallow ⟨5000, 1000⟩
    { Criteria.everything with query := some "-down", limit := some 3, offset := some 1 }
  obtain ⟨full', -, hfull', -, -, hlength, -⟩ := lengths_of_all hl.serves
    (exists_record hshallow) ⟨5000, 1000⟩
    (c := { Criteria.everything with query := some "-down", limit := some 3, offset := some 1 })
    (by rfl) (by decide) rfl
    (fun row hrow => by
      rw [List.eq_of_mem_replicate (n := 2) hrow]
      exact ⟨rfl, satisfies_note⟩)
  obtain rfl : full' = full := Except.ok.inj (hfull'.symm.trans hfull)
  change full'.length = 2 at hlength
  refine ⟨l, full', result, hl, hfull, hresult, hlength, htotal.trans hlength, hpage.2 ?_⟩
  refine Criteria.samePage_of_le_floor (fun limit hlimit => ?_) (by decide) _
  rw [← Option.some.inj hlimit]
  decide

/-- A page may show more records than its total counts: of three records that a query with a minus
    sign selects, where the least window and what stands in for a missing limit are one, a page of
    three shows three and the total is one. -/
theorem page_exceeds_total :
    ∃ (l : Ledger) (full : List Record) (result : SearchResult),
      Reached (List.replicate 3 (.insert ⟨⟨"1", ⟨"2024"⟩, "up", "info", "api"⟩, []⟩)) l ∧
      records ⟨1, 1⟩ { Criteria.everything with query := some "-down" } l = .ok full ∧
      query ⟨1, 1⟩ { Criteria.everything with query := some "-down", limit := some 3 } l =
        .ok result ∧
      result.total = 1 ∧ result.records.length = 3 ∧ result.records ≠ page 0 (some 3) full := by
  obtain ⟨l, hl⟩ := exists_reached_ledger
    (List.replicate 3 (.insert ⟨⟨"1", ⟨"2024"⟩, "up", "info", "api"⟩, []⟩))
  obtain ⟨full, result, hfull, hresult, htotal, hone, hthree⟩ := lengths_of_all hl.serves
    (fun row hrow => by
      rw [List.eq_of_mem_replicate (n := 3) hrow]
      exact ⟨_, toRecord?_note "1" "2024" "info" "up"⟩)
    ⟨1, 1⟩ (c := { Criteria.everything with query := some "-down", limit := some 3 })
    (by rfl) (by decide) rfl
    (fun row hrow => by
      rw [List.eq_of_mem_replicate (n := 3) hrow]
      exact ⟨rfl, satisfies_note⟩)
  change result.records.length = 3 at hthree
  change full.length = 1 at hone
  refine ⟨l, full, result, hl, hfull, hresult, htotal.trans hone, hthree, fun heq => ?_⟩
  have hlen := congrArg List.length heq
  rw [hthree, page_length, hone] at hlen
  exact absurd hlen (by decide)

end Search

end Logbook
