import Logbook.Proofs.Search.Refinement
import Logbook.Proofs.Store.Holds

/-!
# Searches with a larger limit

A larger limit shows more, but what a smaller one showed stays where it is. That is plain where the
limit only cuts the page. A scan also takes its window from the limit, so two limits may filter
different windows before the offset applies; but the smaller window is the beginning of the larger
one, and what is filtered from a beginning is the beginning of what is filtered. A search with a
larger limit makes more rows into records, so it may fail where one with a smaller limit succeeds,
and never the other way round.

Results:

* `meaning_upTo_mono`: what the criteria mean with a smaller limit is the beginning of what they
  mean with a larger one.
* `loaded_upTo_mono`: so are the rows that are made into records.
* `records_upTo_mono`: and so is the answer.
-/

namespace Logbook

/-- The criteria with a limit. -/
def Criteria.upTo (limit : Nat) (c : Criteria) : Criteria :=
  { c with limit := some limit }

theorem ScanLimits.budget_mono (limits : ScanLimits) {small large : Nat} (h : small ≤ large) :
    limits.budget (some small) ≤ limits.budget (some large) :=
  max_le_max_right limits.floor h

/-- A page of the beginning of a list is the beginning of a page that is cut later. -/
theorem page_mono {α : Type} {xs ys : List α} (h : xs <+: ys) (offset : Nat) {small large : Nat}
    (hle : small ≤ large) : page offset (some small) xs <+: page offset (some large) ys :=
  ((h.drop offset).take small).trans (List.take_prefix_take_left hle)

theorem Rebuilds.prefix_of {rows rows' : List Row} {rs rs' : List Record} (h : Rebuilds rows rs)
    (h' : Rebuilds rows' rs') (hrows : rows <+: rows') : rs <+: rs' := by
  rw [h.eq_filterMap, h'.eq_filterMap]
  exact hrows.filterMap Row.toRecord?

namespace Search

variable {σ : Type} [Store σ] {s : σ} {log : Log} {c : Criteria} {small large : Nat}

/-- **With a smaller limit the criteria mean the beginning** of what they mean with a larger one. -/
theorem meaning_upTo_mono (limits : ScanLimits) (c : Criteria) (hle : small ≤ large)
    (log : Log) : (c.upTo small).meaning limits log <+: (c.upTo large).meaning limits log := by
  cases hadvanced : c.isAdvanced with
  | false =>
    have hsmall := meaning_unpaginated limits (c := c.upTo small) hadvanced log
    have hlarge := meaning_unpaginated limits (c := c.upTo large) hadvanced log
    rw [← hsmall, ← hlarge]
    exact List.prefix_rfl
  | true =>
    obtain ⟨query, hquery, hmark⟩ := exists_advanced hadvanced
    rw [meaning_scan limits (c := c.upTo small) hquery hmark,
      meaning_scan limits (c := c.upTo large) hquery hmark]
    exact c.scanned_prefix query (limits.budget_mono hle) log

/-- **With a smaller limit a search makes fewer rows into records**, those at the beginning. -/
theorem loaded_upTo_mono (limits : ScanLimits) (c : Criteria) (hle : small ≤ large)
    (log : Log) : (c.upTo small).loaded limits log <+: (c.upTo large).loaded limits log := by
  cases hadvanced : c.isAdvanced with
  | false =>
    rw [loaded_direct limits (c := c.upTo small) hadvanced,
      loaded_direct limits (c := c.upTo large) hadvanced]
    exact page_mono (meaning_upTo_mono limits c hle log) (c.offset.getD 0) hle
  | true =>
    rw [loaded_scan limits (c := c.upTo small) hadvanced,
      loaded_scan limits (c := c.upTo large) hadvanced]
    exact List.take_prefix_take_left (limits.budget_mono hle)

/-- **A larger limit only extends the answer.** Take a store in any state, any criteria and two
limits, whatever windows they make a scan look at. If the search with the larger limit succeeds,
then so does the one with the smaller limit, and its records are the beginning of the other ones.
Both succeed if the rows of the store can all be made into records. -/
theorem records_upTo_mono (h : Holds s log) (limits : ScanLimits) (c : Criteria)
    (hle : small ≤ large) :
    (∀ more, records limits (c.upTo large) s = .ok more →
      ∃ fewer, records limits (c.upTo small) s = .ok fewer ∧ fewer <+: more) ∧
    ((∀ row ∈ log, ∃ r, row.toRecord? = some r) →
      ∃ fewer more, records limits (c.upTo small) s = .ok fewer ∧
        records limits (c.upTo large) s = .ok more ∧ fewer <+: more) := by
  have extends_of_ok : ∀ more, records limits (c.upTo large) s = .ok more →
      ∃ fewer, records limits (c.upTo small) s = .ok fewer ∧ fewer <+: more := by
    intro more hmore
    have hlarge := loaded_of_records h.serves hmore
    have hsmall : ∀ row ∈ (c.upTo small).loaded limits log, ∃ r, row.toRecord? = some r :=
      fun row hrow => hlarge row ((loaded_upTo_mono limits c hle log).subset hrow)
    obtain ⟨fewer, hfewer, hpage⟩ := records_of_loaded h.serves hsmall
    obtain ⟨more', hmore', hpage'⟩ := records_of_loaded h.serves hlarge
    obtain rfl : more' = more := Except.ok.inj (hmore'.symm.trans hmore)
    refine ⟨fewer, hfewer, hpage.prefix_of hpage' ?_⟩
    exact page_mono (meaning_upTo_mono limits c hle log) (c.offset.getD 0) hle
  refine ⟨extends_of_ok, fun hr => ?_⟩
  obtain ⟨more, hmore, -⟩ := records_of_serves h.serves hr limits (c.upTo large)
  obtain ⟨fewer, hfewer, hprefix⟩ := extends_of_ok more hmore
  exact ⟨fewer, more, hfewer, hmore, hprefix⟩

/-- Two arrivals of one record. -/
def arrivals : List Request :=
  List.replicate 2 (.insert ⟨⟨"1", ⟨"2024"⟩, "up", "info", "api"⟩, []⟩)

/-- Criteria with an advanced query that both arrivals satisfy. -/
def lacking : Criteria :=
  { Criteria.everything with query := some "-x" }

theorem toRecord?_arrivals :
    ∀ row ∈ Request.logOf arrivals,
      row.toRecord? = some ⟨⟨"1", ⟨"2024"⟩, "up", "info", "api"⟩, []⟩ := by
  intro row hrow
  rw [List.eq_of_mem_replicate (n := 2) hrow]
  exact toRecord?_note "1" "2024" "info" "up"

theorem satisfies_arrivals :
    ∀ row ∈ Request.logOf arrivals, lacking.inBounds row = true ∧ row.satisfies "-x" = true := by
  intro row hrow
  have hterms : Query.terms "-x" = [⟨.text, "x", true⟩] :=
    Query.termsOf_single (show Term.Writable .bare ⟨.text, "x", true⟩ by decide)
  refine ⟨rfl, ?_⟩
  rw [Row.satisfies, toRecord?_arrivals row hrow, Option.any_some, hterms]
  decide

/-- The answer grows with the window: where a scan looks at no more than its limit, a limit of one
    shows the first of the two records that a limit of two shows. -/
theorem records_upTo_mono_one_two :
    ∃ (l : Ledger) (fewer more : List Record), Reached arrivals l ∧
      records ⟨1, 1⟩ (lacking.upTo 1) l = .ok fewer ∧
      records ⟨1, 1⟩ (lacking.upTo 2) l = .ok more ∧
      fewer <+: more ∧ fewer.length = 1 ∧ more.length = 2 := by
  obtain ⟨l, hl⟩ := exists_reached_ledger arrivals
  have hrecords : ∀ row ∈ Request.logOf arrivals, ∃ r, row.toRecord? = some r :=
    fun row hrow => ⟨_, toRecord?_arrivals row hrow⟩
  have hlength : ∀ n rs, records ⟨1, 1⟩ (lacking.upTo n) l = .ok rs →
      rs.length = min n (min (max n 1) 2) := by
    intro n rs hrs
    obtain ⟨rs', hrs', hpage⟩ := records_of_serves hl.serves hrecords ⟨1, 1⟩ (lacking.upTo n)
    obtain rfl := Except.ok.inj (hrs'.symm.trans hrs)
    have hquery : (lacking.upTo n).query? = some "-x" := rfl
    rw [meaning_scan _ hquery (by decide)] at hpage
    rw [hpage.length_eq]
    change (page 0 (some n) _).length = _
    rw [page_length]
    exact congrArg (min n) (length_scanned_of_all satisfies_arrivals)
  obtain ⟨fewer, more, hfewer, hmore, hprefix⟩ :=
    (records_upTo_mono hl.holds ⟨1, 1⟩ lacking (Nat.le_succ 1)).2 hrecords
  exact ⟨l, fewer, more, hl, hfewer, hmore, hprefix, hlength 1 fewer hfewer, hlength 2 more hmore⟩

end Search

end Logbook
