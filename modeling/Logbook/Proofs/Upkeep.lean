import Logbook.Proofs.Search.Retrieval
import Logbook.Proofs.Store.Holds

/-!
# Removing rows

A cleanup names rows by their service and by a date that they are older than. Removing them takes
them away from what a store shows and leaves the others as they are and where they are, whether the
store keeps its rows in memory alone or writes the ones that stay to a file. A date divides the rows
in two: those before it are removed, and those from it on are what a search from that date shows.

Results:

* `Cleanup.hits_deletion`: what a store is asked to remove are the rows that a cleanup names.
* `Upkeep.delete_removes`: a cleanup removes the rows that it names.
-/

namespace Logbook

/-! ## What a cleanup names -/

/-- The criteria that ask for everything from a date on. -/
def Criteria.since (date : String) : Criteria :=
  { everything with startDate := some date }

namespace Cleanup

/-- Whether a cleanup names a row: the row has the service that is asked for, and is older than the
    date that is asked for. An empty text asks for nothing. -/
def names (c : Cleanup) (row : Row) : Bool :=
  Criteria.passes c.service (row.service == ·) &&
    Criteria.passes c.endDate fun t => decide (row.timestamp.text < t)

theorem hits_deletion (c : Cleanup) (row : Row) : c.deletion.hits row = c.names row := by
  simp only [names, Criteria.passes_eq, Deletion.hits, deletion, Option.all_map]
  rfl

theorem names_of_ne {c : Cleanup} {service : String} (h : nonEmpty c.service = some service)
    {row : Row} (hrow : row.service ≠ service) : c.names row = false := by
  have hother : (row.service == service) = false := beq_eq_false_iff_ne.2 hrow
  rw [names, Criteria.passes_eq, h, Option.all_some, hother, Bool.false_and]

/-- Where only a date is asked for, a row is named exactly if it is not from that date on. -/
theorem names_eq_not_inBounds {c : Cleanup} {t : String} (hservice : nonEmpty c.service = none)
    (hdate : nonEmpty c.endDate = some t) (row : Row) :
    c.names row = !(Criteria.since t).inBounds row := by
  obtain ⟨-, hne⟩ := nonEmpty_eq_some_iff.1 hdate
  have hdeletion : c.deletion = ⟨none, some ⟨t⟩⟩ := by rw [deletion, hservice, hdate]; rfl
  have hrestriction : (Criteria.since t).restriction =
      { Restriction.none with start := some ⟨t⟩ } := by
    have hstart : nonEmpty (Criteria.since t).startDate = some t :=
      nonEmpty_eq_some_iff.2 ⟨rfl, hne⟩
    rw [Criteria.restriction, hstart]
    rfl
  rw [← hits_deletion, hdeletion, Deletion.hits_before, ← Criteria.admits_restriction, hrestriction]

end Cleanup

/-! ## Cleanups -/

/-- The selection of all rows. -/
def Selection.everything : Selection := ⟨.none, none, none, none⟩

theorem Serves.select_everything {σ : Type} [Store σ] {s : σ} {log : Log} (h : Serves s log) :
    Store.select .everything s = .ok log.newestFirst := by
  rw [h.select]
  exact congrArg Except.ok (List.filter_eq_self.2 fun _ _ => rfl)

namespace Upkeep

variable {σ : Type} [Store σ] {s s' : σ} {log : Log} {c : Cleanup} {n : Nat}

/-- A cleanup goes through exactly if the deletion that it asks for does. -/
theorem delete_eq_ok_iff :
    delete c s = (.ok n, s') ↔ (Store.delete c.deletion).apply s = (.ok n, s') := by
  rw [delete, changed]
  obtain ⟨outcome, t⟩ := (Store.delete c.deletion).apply s
  constructor
  · intro h
    obtain ⟨houtcome, rfl⟩ := Prod.mk.inj h
    rw [Search.ok_of_answered houtcome]
  · intro h
    cases h
    rfl

/-- A selection after a cleanup is answered like one before it that admits the same rows except for
    those that the cleanup names. -/
theorem select_of_left (h : Serves s log)
    (h' : Serves s' (log.filter fun row => !c.names row)) {selection selection' : Selection}
    (hlimit : selection'.limit = selection.limit) (hoffset : selection'.offset = selection.offset)
    (hadmits : ∀ row, selection.admits row = (selection'.admits row && !c.names row)) :
    Store.select selection' s' = Store.select selection s := by
  rw [h.select, h'.select, Log.newestFirst_filter, List.filter_filter, hlimit, hoffset,
    ← show selection.admits = _ from funext hadmits]

/-- **A cleanup removes the rows that it names.** Take a store in any state. Where nothing keeps
rows from being removed, a cleanup goes through. One that does gives the number of the rows that it
names, and takes exactly these from what the store shows: the others stay as they are, in their
order. The same cleanup again names no more rows and changes nothing. After a cleanup that asks for
a date alone, a search without criteria answers as a search from that date did before. After one
that asks for a service, every selection of another service is answered as before. -/
theorem delete_removes (h : Holds s log) (c : Cleanup) :
    (Editable s log → ∃ n s', delete c s = (.ok n, s')) ∧
    ∀ n s', delete c s = (.ok n, s') →
      (∃ rows, Store.select .everything s = .ok rows ∧ n = (rows.filter c.names).length ∧
        Store.select .everything s' = .ok (rows.filter fun row => !c.names row)) ∧
      delete c s' = (.ok 0, s') ∧
      (∀ t, nonEmpty c.service = none → nonEmpty c.endDate = some t → ∀ limits,
        Search.records limits .everything s' =
          Search.records limits (.since t) s) ∧
      ∀ service other selection, nonEmpty c.service = some service → other ≠ service →
        selection.restriction.service = some other →
        Store.select selection s' = Store.select selection s := by
  refine ⟨fun heditable => ?_, fun n s' hdelete => ?_⟩
  · obtain ⟨n, s', hs'⟩ := heditable.delete_succeeds c.deletion
    exact ⟨n, s', delete_eq_ok_iff.2 hs'⟩
  obtain ⟨hn, h'⟩ := h.delete (delete_eq_ok_iff.1 hdelete)
  have hnames : c.deletion.hits = c.names := funext c.hits_deletion
  rw [hnames] at hn h'
  refine ⟨⟨log.newestFirst, h.serves.select_everything, hn, ?_⟩, ?_, ?_, ?_⟩
  · rw [h'.serves.select_everything, Log.newestFirst_filter]
  · refine delete_eq_ok_iff.2 (h'.delete_none fun row hrow => ?_)
    rw [hnames]
    exact (Bool.not_eq_true' _).mp (List.mem_filter.1 hrow).2
  · intro t hservice hdate limits
    rw [Search.records_direct limits (c := .everything) rfl,
      Search.records_direct limits (c := .since t) rfl]
    refine congrArg (fun rows => answered (rows >>= Search.recordsOfRows)) ?_
    refine select_of_left h.serves h'.serves rfl rfl fun row => ?_
    rw [Search.admits_eq, Search.admits_eq, Cleanup.names_eq_not_inBounds hservice hdate,
      Bool.not_not]
    exact Bool.and_true _
  · intro service other selection hservice hne hselection
    refine select_of_left h.serves h'.serves rfl rfl fun row => ?_
    by_cases hrow : row.service = service
    · have hrefused : selection.admits row = false := by
        simp [Selection.admits, Restriction.admits, hselection, hrow, hne.symm]
      rw [hrefused, Bool.false_and]
    · rw [Cleanup.names_of_ne hservice hrow, Bool.not_false, Bool.and_true]

/-- A row of one service. -/
def older : Row := ⟨⟨"1", ⟨"2023"⟩, "up", "info", "api"⟩, "{}"⟩

/-- A later row of another service. -/
def newer : Row := ⟨⟨"2", ⟨"2024"⟩, "up", "info", "db"⟩, "{}"⟩

/-- A file that holds both rows: a cleanup up to the date of the newer one takes the older one, and
    so does a cleanup of its service. -/
theorem delete_removes_older :
    ∃ (s dated served : DurableStore) (disk : Disk),
      DurableStore.openRoute [] ⟨true, [.into "logs.jsonl"], false, 11, 1⟩ disk = (.ok s, disk) ∧
      Store.select .everything s = .ok [newer, older] ∧
      delete ⟨some "", some "2024"⟩ s = (.ok 1, dated) ∧
      Store.select .everything dated = .ok [newer] ∧
      delete ⟨some "", some "2024"⟩ dated = (.ok 0, dated) ∧
      Search.records ⟨5000, 1000⟩ .everything dated =
        Search.records ⟨5000, 1000⟩ (.since "2024") s ∧
      delete ⟨some "api", none⟩ s = (.ok 1, served) ∧
      Store.select ⟨{ Restriction.none with service := some "db" }, none, none, none⟩ served =
        .ok [newer] := by
  have hopen := DurableStore.openRoute_root (DurableStore.decode_encode [older, newer])
  obtain ⟨log, hlog, ha⟩ := DurableStore.arranges_of_open hopen
  obtain rfl : [older, newer] = log :=
    Except.ok.inj ((DurableStore.decode_encode [older, newer]).symm.trans hlog)
  have hshown : Log.newestFirst [older, newer] = [newer, older] :=
    List.mergeSort_of_pairwise (by decide)
  have heditable := Editable.durable ha (by rfl) (by rfl)
  have hselect := heditable.holds.serves.select_everything
  rw [hshown] at hselect
  obtain ⟨hgoes, hleft⟩ := delete_removes heditable.holds ⟨some "", some "2024"⟩
  obtain ⟨n, dated, hdated⟩ := hgoes heditable
  obtain ⟨⟨rows, hrows, hn, hstay⟩, hagain, hsince, -⟩ := hleft n dated hdated
  obtain rfl : [newer, older] = rows := Except.ok.inj (hselect.symm.trans hrows)
  obtain rfl : n = 1 := hn.trans (by decide)
  obtain ⟨hgoes', hleft'⟩ := delete_removes heditable.holds ⟨some "api", none⟩
  obtain ⟨n, served, hserved⟩ := hgoes' heditable
  obtain ⟨⟨rows, hrows, hn, -⟩, -, -, hother⟩ := hleft' n served hserved
  obtain rfl : [newer, older] = rows := Except.ok.inj (hselect.symm.trans hrows)
  obtain rfl : n = 1 := hn.trans (by decide)
  refine ⟨_, dated, served, _, hopen, hselect, hdated, ?_, hagain, ?_, hserved, ?_⟩
  · exact hstay.trans (congrArg Except.ok (by decide))
  · exact hsince "2024" (by decide) (by decide) ⟨5000, 1000⟩
  · rw [hother "api" "db" _ (by decide) (by decide) rfl, heditable.holds.serves.select, hshown]
    exact congrArg Except.ok (by decide)

end Upkeep

end Logbook
