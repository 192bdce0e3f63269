import Logbook.Proofs.Upkeep
import Logbook.Proofs.Search.Unreadable

/-!
# Facets of a store

A search gives the levels and services of the whole store along with its page. They are those of
the rows that are there at that moment, whatever the search asks for, each once and in ascending
order. So one appears with its first row and disappears with its last one, through any changes of
the store and also if it is closed and opened again.

Results:

* `Ledger.lists_distinct`: the values of a facet are those of the rows, each once and in order.
* `History.holds`: a store holds its log through any history of changes and restarts.
* `Search.query_facets`: the facets of a search, and when a value disappears from them.
-/

namespace Logbook

/-- The values are those that a facet has in the rows: each once, in ascending order. -/
structure Facet.Lists (f : Facet) (rows : List Row) (values : List String) : Prop where
  ascending : values.Pairwise (· < ·)
  mem_iff (v : String) : v ∈ values ↔ ∃ row ∈ rows, f.of row = v

/-! ## Texts in ascending order -/

namespace Ledger

theorem mem_insertText {s v : String} {texts : List String} :
    v ∈ insertText s texts ↔ v = s ∨ v ∈ texts := by
  induction texts with
  | nil => rw [insertText, List.mem_singleton, or_iff_left List.not_mem_nil]
  | cons t rest ih =>
    rw [insertText]
    split
    · exact List.mem_cons
    · rename_i hst
      split
      · rw [List.mem_cons, ih, List.mem_cons]
        exact or_left_comm
      · rename_i hts
        -- Neither text comes before the other, so the new one is there already.
        obtain rfl : s = t := String.le_antisymm (String.not_lt.1 hts) (String.not_lt.1 hst)
        rw [List.mem_cons, or_self_left]

theorem ascending_insertText {s : String} {texts : List String} (h : texts.Pairwise (· < ·)) :
    (insertText s texts).Pairwise (· < ·) := by
  induction texts with
  | nil => exact List.pairwise_singleton _ _
  | cons t rest ih =>
    obtain ⟨hfirst, hrest⟩ := List.pairwise_cons.1 h
    rw [insertText]
    split
    · rename_i hst
      refine List.pairwise_cons.2 ⟨fun v hv => ?_, h⟩
      rcases List.mem_cons.1 hv with rfl | hv
      · exact hst
      · exact String.lt_trans hst (hfirst v hv)
    · split
      · rename_i hts
        refine List.pairwise_cons.2 ⟨fun v hv => ?_, ih hrest⟩
        rcases mem_insertText.1 hv with rfl | hv
        · exact hts
        · exact hfirst v hv
      · exact h

/-- **The values of a facet** are those of the rows, each once and in ascending order. -/
theorem lists_distinct (l : Ledger) (f : Facet) : f.Lists l.rows (l.distinct f) := by
  rw [distinct]
  induction l.rows with
  | nil => exact ⟨List.Pairwise.nil, fun v => by simp⟩
  | cons row rows ih =>
    refine ⟨ascending_insertText ih.ascending, fun v => ?_⟩
    rw [List.foldr_cons, mem_insertText, ih.mem_iff, List.exists_mem_cons_iff, eq_comm]

theorem lists_of_arranges {l : Ledger} {log : Log} (h : Arranges l.rows log) (f : Facet) :
    f.Lists log (l.distinct f) := by
  have hlists := l.lists_distinct f
  refine ⟨hlists.ascending, fun v => ?_⟩
  rw [hlists.mem_iff]
  simp only [h.mem_iff]

end Ledger

theorem Holds.distinct {σ : Type} [Store σ] {s : σ} {log : Log} (h : Holds s log) (f : Facet) :
    ∃ values, Store.distinct f s = .ok values ∧ f.Lists log values := by
  cases h with
  | ledger ha => exact ⟨_, rfl, Ledger.lists_of_arranges ha f⟩
  | durable ha _ => exact ⟨_, rfl, Ledger.lists_of_arranges ha f⟩

/-! ## The log through a history -/

/-- A store and its log become others in the course of changes. A durable store may also be closed,
    and opened on what is then on the disk. -/
inductive History : {σ : Type} → [Store σ] → σ → Log → σ → Log → Prop
  | refl {σ : Type} [Store σ] (s : σ) (log : Log) : History s log s log
  | update {σ : Type} [Store σ] {s s' s'' : σ} {log log' : Log} {u : Store.Update} :
    History s log s' log' → u.after? s' = some s'' → History s log s'' (u.log log')
  | reopen {s s' s'' : DurableStore} {log log' rows : Log} {directory : Path} {route : Route}
    {disk : Disk} :
    History s log s' log' → DurableStore.openRoute directory route s'.disk = (.ok s'', disk) →
    DurableStore.decode ((s'.disk.read? s''.path).getD .empty) = .ok rows →
    History s log s'' rows

/-- **A store holds its log through any history.** -/
theorem History.holds {σ : Type} [Store σ] {s s' : σ} {log log' : Log}
    (hhistory : History s log s' log') (h : Holds s log) : Holds s' log' := by
  induction hhistory with
  | refl s log => exact h
  | update _ hu ih => exact (ih h).update hu
  | reopen _ hopen hrows ih =>
    obtain ⟨rows', hrows', hholds⟩ := DurableStore.holds_of_open hopen
    obtain rfl := Except.ok.inj (hrows.symm.trans hrows')
    exact hholds

/-! ## The facets of a search -/

namespace Search

variable {σ : Type} [Store σ] {s s' : σ} {log log' : Log}

/-- The facets that a store shows: the values that it has for levels and services are those of the
    rows of the log, which are the rows that it shows, and every search gives just these values. -/
structure Shows (s : σ) (log : Log) (values : Facet → List String) : Prop where
  rows : ∃ rows, Store.select .everything s = .ok rows ∧ rows.Perm log
  levels : Search.levels s = .ok (values .level)
  services : Search.services s = .ok (values .service)
  lists (f : Facet) : f.Lists log (values f)
  query {limits : ScanLimits} {c : Criteria} {result : SearchResult} :
    query limits c s = .ok result →
      result.levels = values .level ∧ result.services = values .service

/-- The facets in the result of a search are those that the store gives at once. -/
theorem facets_of_query {limits : ScanLimits} {c : Criteria} {result : SearchResult}
    {levels services : List String} (hlevels : Search.levels s = .ok levels)
    (hservices : Search.services s = .ok services) (h : query limits c s = .ok result) :
    result.levels = levels ∧ result.services = services := by
  rw [Search.query, hlevels, hservices] at h
  cases hrecords : Search.records limits c s with
  | error e =>
    rw [hrecords] at h
    cases h
  | ok found =>
    cases hcount : Search.count limits c s with
    | error e =>
      rw [hrecords, hcount] at h
      cases h
    | ok total =>
      rw [hrecords, hcount] at h
      cases h
      exact ⟨rfl, rfl⟩

theorem exists_shows (h : Holds s log) : ∃ values, Shows s log values := by
  choose values hvalues hlists using h.distinct
  have hlevels : Search.levels s = .ok (values .level) := congrArg answered (hvalues .level)
  have hservices : Search.services s = .ok (values .service) :=
    congrArg answered (hvalues .service)
  refine ⟨values, ⟨_, h.serves.select_everything, ?_⟩, hlevels, hservices, hlists,
    facets_of_query hlevels hservices⟩
  exact (List.mergeSort_perm _ _).trans log.reverse_perm

/-- **The facets of a search.** Take a store in any state, such as one that requests have led to
(`Reached.holds`) or that was opened on any file (`DurableStore.holds_of_run`). It shows the levels
and services of its rows, each once and in ascending order, and every search that succeeds gives
just these, whatever it asks for; every search does succeed if all rows can be made into records.
After any history of changes and restarts the same holds again, and a value that was shown has
disappeared exactly if none of the rows has it any more. -/
theorem query_facets (h : Holds s log) :
    ∃ values, Shows s log values ∧
      ((∀ row ∈ log, ∃ r, row.toRecord? = some r) →
        ∀ limits c, ∃ result, query limits c s = .ok result) ∧
      ∀ s' log', History s log s' log' → ∃ values', Shows s' log' values' ∧
        ∀ f, ∀ v ∈ values f, v ∉ values' f ↔ ∀ row ∈ log', f.of row ≠ v := by
  obtain ⟨values, hshows⟩ := exists_shows h
  refine ⟨values, hshows, fun hrecords limits c => ?_, fun s' log' hhistory => ?_⟩
  · obtain ⟨-, result, -, hresult, -⟩ := query_of_serves h.serves hrecords limits c
    exact ⟨result, hresult⟩
  · obtain ⟨values', hshows'⟩ := exists_shows (hhistory.holds h)
    refine ⟨values', hshows', fun f v _ => ?_⟩
    rw [(hshows'.lists f).mem_iff]
    simp

open Upkeep (older newer) in
/-- A file that holds a row of each of two services: after a restart and a deletion the service of
    the row that went is not shown any more. -/
theorem query_facets_last_row :
    ∃ (s s' : DurableStore) (values values' : Facet → List String),
      History s [older, newer] s' [newer] ∧ Shows s [older, newer] values ∧
      Shows s' [newer] values' ∧ "api" ∈ values .service ∧ "api" ∉ values' .service ∧
      "db" ∈ values' .service := by
  obtain ⟨s, disk, hopen, rfl, hdecode, heditable⟩ : ∃ (s : DurableStore) (disk : Disk),
      DurableStore.openRoute [] ⟨true, [.into "logs.jsonl"], false, 11, 1⟩ disk =
        (.ok s, disk) ∧ s.disk = disk ∧
      DurableStore.decode ((s.disk.read? s.path).getD .empty) = .ok [older, newer] ∧
      Editable s [older, newer] := by
    have hdecode := DurableStore.decode_encode [older, newer]
    have hopen := DurableStore.openRoute_root hdecode
    obtain ⟨log, hlog, ha⟩ := DurableStore.arranges_of_open hopen
    obtain rfl : [older, newer] = log := Except.ok.inj (hdecode.symm.trans hlog)
    exact ⟨_, _, hopen, rfl, hdecode, .durable ha (by rfl) (by rfl)⟩
  obtain ⟨values, hshows, -, hlater⟩ := query_facets heditable.holds
  obtain ⟨n, s', hdelete⟩ := heditable.delete_succeeds ⟨some "api", none⟩
  have hafter : (Store.Update.delete ⟨some "api", none⟩).after? s = some s' := by
    rw [Store.Update.after?, hdelete]
    rfl
  have hhistory := ((History.refl s [older, newer]).reopen hopen hdecode).update hafter
  have hleft : (Store.Update.delete ⟨some "api", none⟩).log [older, newer] = [newer] := by decide
  rw [hleft] at hhistory
  obtain ⟨values', hshows', hgone⟩ := hlater s' [newer] hhistory
  have hshown : "api" ∈ values .service :=
    ((hshows.lists .service).mem_iff "api").2 ⟨older, by decide⟩
  refine ⟨s, s', values, values', hhistory, hshows, hshows', hshown, ?_, ?_⟩
  · exact (hgone .service "api" hshown).2 (by decide)
  · exact ((hshows'.lists .service).mem_iff "db").2 ⟨newer, by decide⟩

end Search

end Logbook
