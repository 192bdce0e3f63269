import Logbook.Store.Ledger

/-!
# The order of rows

Rows arrive in some order, their log, and a store shows them in the order of their timestamps.
Sorting is stable, so rows with equal timestamps stay in the order of their arrival when the oldest
come first, and come in the opposite order when the newest do.

`Arranges rows log` says that `rows` is the log in that order without mentioning an algorithm: the
timestamps ascend, and the rows of any one timestamp are those of the log, in its order. This is
what inserting, deleting and reading back are shown to preserve.

Results:

* `arranges_iff`: a log has one arrangement, its stable sort.
* `Arranges.insertRow`, `Arranges.filter`: what inserting and deleting do to an arrangement.
* `reverse_oldestFirst`: read backwards, the stable sort is the stable sort of the latest arrivals
  by descending timestamp.
* `Log.newestFirst_filter`: rows that stay keep their order.
-/

namespace Logbook

/-- Rows in the order of their arrival. -/
abbrev Log := List Row

namespace Log

/-- A log with the oldest rows first; of rows with equal timestamps the earliest arrival comes
    first. -/
def oldestFirst (log : Log) : List Row :=
  log.mergeSort Row.notNewer

/-- A log with the newest rows first; of rows with equal timestamps the latest arrival comes
    first. -/
def newestFirst (log : Log) : List Row :=
  log.reverse.mergeSort fun a b => Row.notNewer b a

end Log

/-- Whether a row has a timestamp. -/
def Row.isAt (t : Timestamp) (row : Row) : Bool :=
  decide (row.timestamp = t)

/-- The rows are those of the log, the oldest first and those with equal timestamps in the order of
    their arrival. -/
structure Arranges (rows : List Row) (log : Log) : Prop where
  ascending : rows.Pairwise fun a b => a.timestamp ≤ b.timestamp
  ties : ∀ t, rows.filter (Row.isAt t) = log.filter (Row.isAt t)

/-! ## There is one arrangement -/

theorem Row.notNewer_iff {a b : Row} : Row.notNewer a b = true ↔ a.timestamp ≤ b.timestamp :=
  decide_eq_true_iff

theorem Row.notNewer_trans (a b c : Row) (h : Row.notNewer a b = true)
    (h' : Row.notNewer b c = true) : Row.notNewer a c = true := by
  rw [Row.notNewer_iff] at *
  exact Timestamp.le_trans h h'

theorem Row.notNewer_total (a b : Row) : (Row.notNewer a b || Row.notNewer b a) = true := by
  rw [Bool.or_eq_true, Row.notNewer_iff, Row.notNewer_iff]
  exact Timestamp.le_total _ _

theorem Row.isAt_self (row : Row) : row.isAt row.timestamp = true :=
  decide_eq_true rfl

theorem Arranges.nil : Arranges [] [] :=
  ⟨List.Pairwise.nil, fun _ => rfl⟩

theorem Arranges.mem_iff {rows : List Row} {log : Log} (h : Arranges rows log) {row : Row} :
    row ∈ rows ↔ row ∈ log := by
  have key : ∀ l : List Row, row ∈ l ↔ row ∈ l.filter (Row.isAt row.timestamp) := by
    intro l
    rw [List.mem_filter]
    exact ⟨fun hm => ⟨hm, Row.isAt_self row⟩, And.left⟩
  rw [key rows, h.ties, ← key log]

theorem Arranges.head_le {r : Row} {rows : List Row} {log : Log} (h : Arranges (r :: rows) log)
    {x : Row} (hx : x ∈ log) : r.timestamp ≤ x.timestamp := by
  rcases List.mem_cons.1 (h.mem_iff.2 hx) with rfl | hx
  · exact Timestamp.le_refl _
  · exact (List.pairwise_cons.1 h.ascending).1 x hx

theorem Arranges.unique {a b : List Row} {log : Log} (ha : Arranges a log) (hb : Arranges b log) :
    a = b := by
  induction a generalizing b log with
  | nil =>
    refine (List.eq_nil_iff_forall_not_mem.2 fun x hx => ?_).symm
    exact List.not_mem_nil (ha.mem_iff.2 (hb.mem_iff.1 hx))
  | cons x a ih =>
    cases b with
    | nil => exact absurd (hb.mem_iff.2 (ha.mem_iff.1 List.mem_cons_self)) List.not_mem_nil
    | cons y b =>
      have ht : x.timestamp = y.timestamp :=
        Timestamp.le_antisymm (ha.head_le (hb.mem_iff.1 List.mem_cons_self))
          (hb.head_le (ha.mem_iff.1 List.mem_cons_self))
      -- Both heads are the first row of the log with that timestamp.
      have hxy : x = y := by
        have h := (ha.ties x.timestamp).trans (hb.ties x.timestamp).symm
        rw [List.filter_cons_of_pos (Row.isAt_self x),
          List.filter_cons_of_pos (by rw [ht]; exact Row.isAt_self y)] at h
        exact (List.cons.inj h).1
      subst hxy
      have htail : ∀ t, b.filter (Row.isAt t) = a.filter (Row.isAt t) := by
        intro t
        have h := (hb.ties t).trans (ha.ties t).symm
        rw [List.filter_cons, List.filter_cons] at h
        split at h
        · exact (List.cons.inj h).2
        · exact h
      have haa : Arranges a a := ⟨(List.pairwise_cons.1 ha.ascending).2, fun _ => rfl⟩
      rw [ih haa ⟨(List.pairwise_cons.1 hb.ascending).2, htail⟩]

/-- A stable sort keeps the rows of any one timestamp in their order. -/
theorem filter_isAt_mergeSort {le : Row → Row → Bool}
    (trans : ∀ a b c : Row, le a b = true → le b c = true → le a c = true)
    (total : ∀ a b : Row, (le a b || le b a) = true)
    (tied : ∀ a b : Row, a.timestamp = b.timestamp → le a b = true) (t : Timestamp)
    (log : List Row) :
    (log.mergeSort le).filter (Row.isAt t) = log.filter (Row.isAt t) := by
  have hlen : ((log.mergeSort le).filter (Row.isAt t)).length = (log.filter (Row.isAt t)).length :=
    ((List.mergeSort_perm log le).filter _).length_eq
  have htied : (log.filter (Row.isAt t)).Pairwise fun a b => le a b = true := by
    refine List.pairwise_of_forall_mem_list fun a ha b hb => tied a b ?_
    have ha' := of_decide_eq_true (List.mem_filter.1 ha).2
    have hb' := of_decide_eq_true (List.mem_filter.1 hb).2
    rw [ha', hb']
  have hsub : (log.filter (Row.isAt t)).Sublist (log.mergeSort le) :=
    List.sublist_mergeSort trans total htied List.filter_sublist
  have hfil := hsub.filter (Row.isAt t)
  rw [List.filter_filter] at hfil
  simp only [Bool.and_self] at hfil
  exact (hfil.eq_of_length hlen.symm).symm

theorem Row.notNewer_of_eq {a b : Row} (h : a.timestamp = b.timestamp) :
    Row.notNewer a b = true := by
  rw [Row.notNewer_iff, h]
  exact Timestamp.le_refl _

theorem arranges_oldestFirst (log : Log) : Arranges log.oldestFirst log where
  ascending := by
    have h := List.pairwise_mergeSort Row.notNewer_trans Row.notNewer_total log
    exact h.imp fun hab => Row.notNewer_iff.1 hab
  ties t :=
    filter_isAt_mergeSort Row.notNewer_trans Row.notNewer_total
      (fun _ _ => Row.notNewer_of_eq) t log

/-- **A log has one arrangement, its stable sort.** -/
theorem arranges_iff {rows : List Row} {log : Log} :
    Arranges rows log ↔ rows = log.oldestFirst := by
  constructor
  · intro h
    exact h.unique (arranges_oldestFirst log)
  · rintro rfl
    exact arranges_oldestFirst log

/-- Read backwards, the oldest-first order is the newest-first order. -/
theorem reverse_oldestFirst (log : Log) : log.oldestFirst.reverse = log.newestFirst := by
  have htrans : ∀ a b c : Row, Row.notNewer b a = true → Row.notNewer c b = true →
      Row.notNewer c a = true := fun a b c h h' => Row.notNewer_trans c b a h' h
  have htotal : ∀ a b : Row, (Row.notNewer b a || Row.notNewer a b) = true :=
    fun a b => Row.notNewer_total b a
  have h : Arranges log.newestFirst.reverse log := by
    constructor
    · rw [List.pairwise_reverse]
      exact (List.pairwise_mergeSort htrans htotal log.reverse).imp
        fun hab => Row.notNewer_iff.1 hab
    · intro t
      have hties := filter_isAt_mergeSort htrans htotal
        (fun _ _ hab => Row.notNewer_of_eq hab.symm) t log.reverse
      rw [List.filter_reverse, Log.newestFirst, hties, List.filter_reverse, List.reverse_reverse]
  rw [← arranges_iff.1 h, List.reverse_reverse]

theorem Log.mem_newestFirst {log : Log} {row : Row} : row ∈ log.newestFirst ↔ row ∈ log :=
  List.mem_mergeSort.trans List.mem_reverse

/-! ## Inserting and deleting -/

/-- Behind the rows that are not newer than a given one, ordered rows are newer. -/
theorem newer_of_mem_dropWhile {rows : List Row} {row r : Row}
    (h : rows.Pairwise fun a b => a.timestamp ≤ b.timestamp)
    (hr : r ∈ rows.dropWhile (Row.notNewer · row)) : row.timestamp < r.timestamp := by
  induction rows with
  | nil => exact absurd hr List.not_mem_nil
  | cons x rest ih =>
    rw [List.pairwise_cons] at h
    rw [List.dropWhile_cons] at hr
    split at hr
    · exact ih h.2 hr
    · rename_i hx
      rw [Row.notNewer_iff] at hx
      rcases List.mem_cons.1 hr with rfl | hr
      · exact Timestamp.not_le.1 hx
      · exact Timestamp.not_le.1 fun hle => hx (Timestamp.le_trans (h.1 r hr) hle)

/-- Among ordered rows, bisection puts a new row behind exactly those that are not newer. -/
theorem insertRow_eq {rows : List Row} (h : rows.Pairwise fun a b => a.timestamp ≤ b.timestamp)
    (row : Row) :
    Ledger.insertRow row rows =
      rows.takeWhile (Row.notNewer · row) ++ row :: rows.dropWhile (Row.notNewer · row) := by
  have hmono : rows.Pairwise fun a b => Row.notNewer b row = true → Row.notNewer a row = true :=
    h.imp fun hab hb => Row.notNewer_trans _ _ _ (Row.notNewer_iff.2 hab) hb
  rw [Ledger.insertRow, bisect_eq_length_takeWhile hmono]
  induction rows with
  | nil => rfl
  | cons x rest ih =>
    rw [List.takeWhile_cons, List.dropWhile_cons]
    split
    · rw [List.length_cons, List.insertIdx_succ_cons, List.cons_append,
        ih (List.pairwise_cons.1 h).2 (List.pairwise_cons.1 hmono).2]
    · rfl

/-- Inserting a row arranges the log with that row as its latest arrival. -/
theorem Arranges.insertRow {rows : List Row} {log : Log} (h : Arranges rows log) (row : Row) :
    Arranges (Ledger.insertRow row rows) (log ++ [row]) := by
  have hsplit := List.takeWhile_append_dropWhile (p := (Row.notNewer · row)) (l := rows)
  have hbefore : ∀ r ∈ rows.takeWhile (Row.notNewer · row), r.timestamp ≤ row.timestamp :=
    fun r hr => Row.notNewer_iff.1 (List.all_eq_true.1 List.all_takeWhile r hr)
  have hafter : ∀ r ∈ rows.dropWhile (Row.notNewer · row), row.timestamp < r.timestamp :=
    fun r hr => newer_of_mem_dropWhile h.ascending hr
  rw [insertRow_eq h.ascending]
  constructor
  · have hasc := h.ascending
    rw [← hsplit, List.pairwise_append] at hasc
    obtain ⟨htake, hdrop, hacross⟩ := hasc
    rw [List.pairwise_append, List.pairwise_cons]
    refine ⟨htake, ⟨fun r hr => ?_, hdrop⟩, fun a ha b hb => ?_⟩
    · exact (Timestamp.le_total _ _).resolve_right (Timestamp.not_le.2 (hafter r hr))
    · rcases List.mem_cons.1 hb with rfl | hb
      · exact hbefore a ha
      · exact hacross a ha b hb
  · intro t
    have hrows : rows.filter (Row.isAt t) =
        (rows.takeWhile (Row.notNewer · row)).filter (Row.isAt t) ++
          (rows.dropWhile (Row.notNewer · row)).filter (Row.isAt t) := by
      rw [← List.filter_append, hsplit]
    rw [List.filter_append, List.filter_append, ← h.ties t, hrows, List.append_assoc]
    congr 1
    by_cases ht : row.isAt t = true
    · -- The rows behind the new one are newer, so none of them has its timestamp.
      have hnone : (rows.dropWhile (Row.notNewer · row)).filter (Row.isAt t) = [] := by
        rw [List.filter_eq_nil_iff]
        intro r hr hat
        have hrow : row.timestamp = r.timestamp :=
          (of_decide_eq_true ht).trans (of_decide_eq_true hat).symm
        exact Timestamp.not_le.2 (hafter r hr) (hrow ▸ Timestamp.le_refl _)
      rw [List.filter_cons_of_pos ht, hnone, List.nil_append, List.filter_cons_of_pos ht,
        List.filter_nil]
    · rw [List.filter_cons_of_neg ht, List.filter_cons_of_neg ht, List.filter_nil, List.append_nil]

theorem Arranges.filter {rows : List Row} {log : Log} (h : Arranges rows log) (p : Row → Bool) :
    Arranges (rows.filter p) (log.filter p) where
  ascending := h.ascending.sublist List.filter_sublist
  ties t := by
    have swap : ∀ l : List Row,
        (l.filter p).filter (Row.isAt t) = (l.filter (Row.isAt t)).filter p := by
      intro l
      simp only [List.filter_filter, Bool.and_comm]
    rw [swap, swap, h.ties t]

/-- **Rows that stay keep their order.** -/
theorem Log.newestFirst_filter (log : Log) (p : Row → Bool) :
    Log.newestFirst (log.filter p) = log.newestFirst.filter p := by
  have hsorted : log.oldestFirst.filter p = Log.oldestFirst (log.filter p) :=
    arranges_iff.1 ((arranges_oldestFirst log).filter p)
  rw [← reverse_oldestFirst, ← hsorted, ← List.filter_reverse, reverse_oldestFirst]

theorem Arranges.insertMany {l : Ledger} {log : Log} (h : Arranges l.rows log)
    (rows : List Row) : Arranges (l.insertMany rows).rows (log ++ rows) := by
  induction rows generalizing l log with
  | nil => rwa [List.append_nil]
  | cons row rest ih =>
    have := ih (l := l.insert row) (h.insertRow row)
    rwa [List.append_assoc] at this

theorem arranges_ofRows (rows : List Row) : Arranges (Ledger.ofRows rows).rows rows :=
  Arranges.insertMany (l := .empty) Arranges.nil rows

end Logbook
