import Logbook.Proofs.Json.Occurrence
import Logbook.Proofs.Query.Findable
import Logbook.Proofs.Query.Join
import Logbook.Proofs.Search.Paging

/-!
# Searches refined by further text

A query grows by a space and more text. As long as both queries are advanced, or neither is, the
longer one finds no more: the terms of the shorter one are among its terms, or the shorter one is a
piece of it. The step from a query that is not advanced to one that is changes what is looked for.
The words of a phrase become terms of their own, and they may occur in any field, while a phrase is
looked for in the message, the level, the service and the attributes as they are stored. So the
longer query may then find records that the shorter one does not find, but only for a phrase, or for
a word that stands where no phrase is looked for.

Results:

* `Row.mentions_of_hits`: a row mentions the word that its record contains, unless it hides it.
* `Row.mentions_of_longer`, `Row.satisfies_of_longer`: what a longer query finds.
* `records_refine`: when a longer query finds no more.
* `records_refine_adds`: a query that finds more than its beginning.
-/

namespace Logbook

/-! ## Where no phrase is looked for -/

/-- A record contains a piece of text where a store does not find it: in the identifier or the
    timestamp, or in a string that is written with escapes, unless these change nothing for that
    piece. -/
def Record.Hides (piece : String) (r : Record) : Prop :=
  Text.folded piece <:+: Text.folded r.id ∨ Text.folded piece <:+: Text.folded r.timestamp.text ∨
    ∃ name s, (name, Json.string s) ∈ r.attributes ∧ Text.folded piece <:+: Text.folded s ∧
      ¬ Json.Literal s.toList ∧ ¬ Json.Steady (Text.folded piece)

namespace Row

variable {r : Record} {row : Row} {a b : String}

/-- A term for all fields hits a record by what one of them shows. -/
theorem occurs_of_hits {negated : Bool} (h : Term.hits ⟨.text, a, negated⟩ r = true) :
    ∃ m ∈ r.fields, Text.folded a <:+: Text.folded m.2.display := by
  obtain ⟨m, hm, hvalue⟩ := List.any_eq_true.1 h
  refine ⟨m, hm, Text.occurs_iff.1 ?_⟩
  split at hvalue
  · cases hvalue
  · exact hvalue

/-- **A row mentions the piece of text that its record contains**, unless the record hides it. -/
theorem mentions_of_hits {negated : Bool} (h : Term.hits ⟨.text, a, negated⟩ r = true)
    (hshown : ¬ r.Hides a) : (ofRecord r).Mentions a := by
  rw [Record.Hides, not_or, not_or] at hshown
  obtain ⟨hid, htime, hstrings⟩ := hshown
  obtain ⟨m, hm, hin⟩ := occurs_of_hits h
  rcases List.mem_append.1 hm with hheader | hattribute
  · simp only [Header.members, List.mem_cons, List.not_mem_nil, or_false] at hheader
    rcases hheader with rfl | rfl | rfl | rfl | rfl
    · exact absurd hin hid
    · exact absurd hin htime
    · exact ⟨r.message, by simp [ofRecord], hin⟩
    · exact ⟨r.level, by simp [ofRecord], hin⟩
    · exact ⟨r.service, by simp [ofRecord], hin⟩
  · obtain ⟨hmem, -⟩ := List.mem_filter.1 hattribute
    refine ⟨(ofRecord r).data, by simp, Json.infix_folded_object hmem hin ?_⟩
    intro s hs
    by_contra hescaped
    rw [not_or] at hescaped
    obtain ⟨name, v⟩ := m
    obtain rfl : v = .string s := hs
    exact hstrings ⟨name, s, hmem, hin, hescaped⟩

/-! ## Longer queries -/

theorem mentions_of_longer (h : row.Mentions (a ++ " " ++ b)) : row.Mentions a := by
  obtain ⟨text, htext, hin⟩ := h
  have hfolded : Text.folded (a ++ " " ++ b) = Text.folded a ++ ' ' :: Text.folded b := by
    rw [Text.folded, String.toList_append, String.toList_append, List.append_assoc]
    exact Text.lower_append_edge Text.edge_space a.toList b.toList
  rw [hfolded] at hin
  exact ⟨text, htext, (List.prefix_append _ _).isInfix.trans hin⟩

theorem satisfies_of_longer (hquote : '"' ∉ a.toList) (h : row.satisfies (a ++ " " ++ b) = true) :
    row.satisfies a = true := by
  rw [satisfies, Option.any_eq_true] at h ⊢
  obtain ⟨r, hr, hholds⟩ := h
  rw [Query.terms_append_space hquote, Query.holds_append, Bool.and_eq_true] at hholds
  exact ⟨r, hr, hholds.1⟩

/-- A row that satisfies a query that begins with a word mentions the word, unless its record hides
    it. -/
theorem mentions_of_satisfies (hword : Term.Writable .bare ⟨.text, a, false⟩) (hfits : r.Fits)
    (h : (ofRecord r).satisfies (a ++ " " ++ b) = true) (hshown : ¬ r.Hides a) :
    (ofRecord r).Mentions a := by
  have hterms : Query.terms a = [⟨.text, a, false⟩] := Query.termsOf_single hword
  have hholds := satisfies_of_longer hword.2.2.2.1 h
  rw [satisfies, toRecord?_ofRecord_eq_self hfits, Option.any_some, hterms] at hholds
  have hhits : Term.hits ⟨.text, a, false⟩ r = true := by
    simpa [Query.holds, Term.holds] using hholds
  exact mentions_of_hits hhits hshown

end Row

namespace Rebuilds

variable {rows rows' : List Row} {rs rs' : List Record}

theorem mem_iff (h : Rebuilds rows rs) {r : Record} :
    r ∈ rs ↔ ∃ row ∈ rows, row.toRecord? = some r := by
  rw [← List.mem_map, ← h, List.mem_map_of_injective (Option.some_injective _)]

theorem eq_filterMap (h : Rebuilds rows rs) : rs = rows.filterMap Row.toRecord? := by
  have hfound := congrArg (List.filterMap id) h
  rwa [List.filterMap_map, List.filterMap_map, Function.id_comp, List.filterMap_some] at hfound

theorem sublist (h : Rebuilds rows rs) (h' : Rebuilds rows' rs') (hsub : rows.Sublist rows') :
    rs.Sublist rs' := by
  rw [h.eq_filterMap, h'.eq_filterMap]
  exact hsub.filterMap _

end Rebuilds

theorem isAdvanced_of_longer {a : String} (h : isAdvanced a = true) (b : String) :
    isAdvanced (a ++ " " ++ b) = true := by
  rw [isAdvanced, String.toList_append, String.toList_append, List.any_append, List.any_append]
  rw [isAdvanced] at h
  rw [h]
  rfl

theorem writable_word {a : String} (hne : a ≠ "") (hspace : ' ' ∉ a.toList)
    (hquote : '"' ∉ a.toList) (hplain : isAdvanced a = false) :
    Term.Writable .bare ⟨.text, a, false⟩ := by
  obtain ⟨hcolon, hminus, -, -⟩ :=
    Classical.not_not.1 (mt isAdvanced_iff.2 (Bool.eq_false_iff.1 hplain))
  refine ⟨hne, hspace, hcolon, hquote, ?_⟩
  intro hhead
  exact hminus (List.mem_of_mem_head? hhead)

/-- The criteria with another query and without limit and offset. -/
def Criteria.asking (query : String) (c : Criteria) : Criteria :=
  { c.unpaginated with query := some query }

namespace Search

variable {σ : Type} [Store σ] {s : σ} {log : Log}

/-- With a query that is not advanced the criteria mean what mentions it. -/
theorem meaning_plain (limits : ScanLimits) {c : Criteria} {query : String}
    (hquery : c.query? = some query) (h : isAdvanced query = false) (log : Log) :
    c.meaning limits log =
      (c.candidates log).filter fun row => decide (row.Mentions query) := by
  obtain ⟨hq, hempty⟩ := nonEmpty_eq_some_iff.1 hquery
  have hplain := Classical.not_not.1 (mt isAdvanced_iff.2 (Bool.eq_false_iff.1 h))
  simp only [Criteria.meaning, hq, if_neg hempty, if_pos hplain]

variable {a : String}

theorem query?_asking (c : Criteria) (hne : a ≠ "") : (c.asking a).query? = some a :=
  nonEmpty_eq_some_iff.2 ⟨rfl, hne⟩

theorem longer_ne_empty (a b : String) : a ++ " " ++ b ≠ "" := by
  intro h
  have hchars := congrArg String.toList h
  simp at hchars

theorem mem_of_mem_meaning {limits : ScanLimits} {c : Criteria} {row : Row}
    (h : row ∈ c.meaning limits log) : row ∈ log := by
  have hcandidates : row ∈ c.candidates log := by
    unfold Criteria.meaning at h
    split at h
    · exact h
    · split at h
      · exact h
      · split at h
        · exact (List.mem_filter.1 h).1
        · exact List.mem_of_mem_take (List.mem_filter.1 h).1
  obtain ⟨hnewest, -⟩ := List.mem_filter.1 hcandidates
  exact Log.mem_newestFirst.1 hnewest

/-- **A longer query means no more**, if both are advanced or neither is. -/
theorem meaning_longer (limits : ScanLimits) (c : Criteria) (hne : a ≠ "") (hquote : '"' ∉ a.toList)
    (b : String) (hsame : isAdvanced a = true ∨ isAdvanced (a ++ " " ++ b) = false) (log : Log) :
    ((c.asking (a ++ " " ++ b)).meaning limits log).Sublist ((c.asking a).meaning limits log) := by
  have hshort := query?_asking c hne
  have hlong := query?_asking c (longer_ne_empty a b)
  cases hadvanced : isAdvanced a with
  | true =>
    rw [meaning_scan limits hshort hadvanced,
      meaning_scan limits hlong (isAdvanced_of_longer hadvanced b)]
    exact List.monotone_filter_right _ fun row h => Row.satisfies_of_longer hquote h
  | false =>
    have hplain : isAdvanced (a ++ " " ++ b) = false := by
      rw [hadvanced] at hsame
      exact hsame.resolve_left Bool.false_ne_true
    rw [meaning_plain limits hshort hadvanced, meaning_plain limits hlong hplain]
    apply List.monotone_filter_right
    intro row h
    rw [decide_eq_true_iff] at h ⊢
    exact Row.mentions_of_longer h

/-- **What a query means that begins with a word** mentions the word, unless its record hides it. -/
theorem mem_meaning_of_longer (limits : ScanLimits) (c : Criteria) (hne : a ≠ "")
    (hquote : '"' ∉ a.toList) (hspace : ' ' ∉ a.toList) (b : String) {r : Record} (hfits : r.Fits)
    (hshown : ¬ r.Hides a)
    (h : Row.ofRecord r ∈ (c.asking (a ++ " " ++ b)).meaning limits log) :
    Row.ofRecord r ∈ (c.asking a).meaning limits log := by
  by_cases hsame : isAdvanced a = true ∨ isAdvanced (a ++ " " ++ b) = false
  · exact (meaning_longer limits c hne hquote b hsame log).subset h
  · rw [not_or, Bool.not_eq_true, Bool.not_eq_false] at hsame
    obtain ⟨hplain, hadvanced⟩ := hsame
    rw [meaning_scan limits (query?_asking c (longer_ne_empty a b)) hadvanced] at h
    rw [meaning_plain limits (query?_asking c hne) hplain]
    obtain ⟨hfound, hsatisfies⟩ := List.mem_filter.1 h
    have hword := writable_word hne hspace hquote hplain
    refine List.mem_filter.2 ⟨List.mem_of_mem_take hfound, decide_eq_true ?_⟩
    exact Row.mentions_of_satisfies hword hfits hsatisfies hshown

/-- **When a longer query finds no more.** Take any ledger and any durable store that requests have
led to, whose records have each name once and nest no deeper than a reader admits. A search for a
query without quotation marks, and one for that query, a space and any further text, both succeed,
with the same other criteria and without limit and offset. If the shorter query is advanced, or the
longer one is not, then the records of the longer one are among those of the shorter one, in the
same order. If the shorter query has no space, then any record that the longer one finds is found by
the shorter one, unless the record hides it. -/
theorem records_refine {requests : List Request} (h : Reached requests s)
    (hfits : ∀ request ∈ requests, ∀ r ∈ request.stored, r.Fits) (limits : ScanLimits)
    (c : Criteria) (hne : a ≠ "") (hquote : '"' ∉ a.toList) (b : String) :
    ∃ short long, records limits (c.asking a) s = .ok short ∧
      records limits (c.asking (a ++ " " ++ b)) s = .ok long ∧
      (isAdvanced a = true ∨ isAdvanced (a ++ " " ++ b) = false → long.Sublist short) ∧
      (' ' ∉ a.toList → ∀ r ∈ long, ¬ r.Hides a → r ∈ short) := by
  have hrows : ∀ row ∈ Request.logOf requests, ∃ r : Record, r.Fits ∧ row = Row.ofRecord r :=
    Request.forall_mem_logOf fun request hrequest r hr => ⟨r, hfits request hrequest r hr, rfl⟩
  have hrecords : ∀ row ∈ Request.logOf requests, ∃ r, row.toRecord? = some r := by
    intro row hrow
    obtain ⟨r, hr, rfl⟩ := hrows row hrow
    exact ⟨r, Row.toRecord?_ofRecord_eq_self hr⟩
  obtain ⟨short, hshort, hmeans⟩ := records_of_serves h.serves hrecords limits (c.asking a)
  obtain ⟨long, hlong, hmeans'⟩ :=
    records_of_serves h.serves hrecords limits (c.asking (a ++ " " ++ b))
  change Rebuilds ((c.asking a).meaning limits _) short at hmeans
  change Rebuilds ((c.asking (a ++ " " ++ b)).meaning limits _) long at hmeans'
  refine ⟨short, long, hshort, hlong, ?_, ?_⟩
  · intro hsame
    exact hmeans'.sublist hmeans (meaning_longer limits c hne hquote b hsame _)
  · intro hspace r hr hshown
    obtain ⟨row, hrow, hback⟩ := hmeans'.mem_iff.1 hr
    obtain ⟨r', hr', rfl⟩ := hrows row (mem_of_mem_meaning hrow)
    rw [Row.toRecord?_ofRecord_eq_self hr'] at hback
    obtain rfl := Option.some.inj hback
    refine hmeans.mem_iff.2 ⟨Row.ofRecord r', ?_, Row.toRecord?_ofRecord_eq_self hr'⟩
    exact mem_meaning_of_longer limits c hne hquote hspace b hr' hshown hrow

theorem fits_bare (h : Header) : Record.Fits ⟨h, []⟩ := by
  constructor
  · simp [Json.Distinct, Json.DistinctMembers, Entries.names]
  · simp [Json.depth, Json.memberDepth, Json.maxDepth]

/-- The records of one level that mention a disk. -/
def diskNotes : List Record :=
  [note "4" "2024-03" "info" "disk gone", note "2" "2024-03" "info" "disk slow",
    note "1" "2024-02" "info" "disk full", note "6" "2024-01" "info" "disk new"]

theorem shown_diskNotes : ∀ r ∈ diskNotes, ¬ r.Hides "Disk" := by
  simp only [diskNotes, note, List.forall_mem_cons, Record.Hides, ← Text.occurs_iff,
    List.not_mem_nil, false_and, exists_const, or_false, false_imp_iff, implies_true, and_true]
  decide

theorem records_notes {l : Ledger} (hl : Reached (notes.map Request.insert) l) {query : String}
    (hne : query ≠ "") (hadvanced : isAdvanced query = true) :
    records ⟨5000, 1000⟩ (Criteria.everything.asking query) l =
      .ok (Query.filter (Query.terms query) notesShown) := by
  have hrecords : ∀ row ∈ Request.logOf (notes.map Request.insert), ∃ r, row.toRecord? = some r :=
    Request.forall_mem_logOf (by simp [notes, Request.stored, toRecord?_note])
  refine records_eq_ok hl.serves hrecords ?_
  rw [meaning_scan _ (query?_asking _ hne) hadvanced]
  exact rebuilds_notes _ query 5000

/-- With a level in addition, a word finds four of the records that it finds alone, and so does a
    query that leaves one out. -/
theorem records_refine_notes :
    ∃ (l : Ledger) (found kept : List Record), Reached (notes.map Request.insert) l ∧
      records ⟨5000, 1000⟩ (Criteria.everything.asking "Disk") l = .ok found ∧
      records ⟨5000, 1000⟩ (Criteria.everything.asking ("Disk" ++ " " ++ "level:info")) l =
        .ok diskNotes ∧
      (∀ r ∈ diskNotes, r ∈ found) ∧
      records ⟨5000, 1000⟩ (Criteria.everything.asking "-net") l = .ok kept ∧
      records ⟨5000, 1000⟩ (Criteria.everything.asking ("-net" ++ " " ++ "level:info")) l =
        .ok diskNotes ∧
      diskNotes.Sublist kept := by
  obtain ⟨l, hl⟩ := exists_reached_ledger (notes.map Request.insert)
  have hfits : ∀ request ∈ notes.map Request.insert, ∀ r ∈ request.stored, r.Fits := by
    have hnote : ∀ id time level message, (note id time level message).Fits :=
      fun _ _ _ _ => fits_bare _
    simp [notes, Request.stored, hnote]
  have hlevel : Query.terms "level:info" = [⟨.equals "level", "info", false⟩] :=
    Query.termsOf_single (show Term.Writable .bare ⟨.equals "level", "info", false⟩ by decide)
  have hdisk : Query.terms ("Disk" ++ " " ++ "level:info") =
      [⟨.text, "Disk", false⟩, ⟨.equals "level", "info", false⟩] := by
    rw [Query.terms_append_space (by decide), hlevel]
    exact congrArg (· ++ _)
      (Query.termsOf_single (show Term.Writable .bare ⟨.text, "Disk", false⟩ by decide))
  have hnet : Query.terms ("-net" ++ " " ++ "level:info") =
      [⟨.text, "net", true⟩, ⟨.equals "level", "info", false⟩] := by
    rw [Query.terms_append_space (by decide), hlevel]
    exact congrArg (· ++ _)
      (Query.termsOf_single (show Term.Writable .bare ⟨.text, "net", true⟩ by decide))
  obtain ⟨found, long, hfound, hlong, -, hword⟩ := records_refine hl hfits ⟨5000, 1000⟩ .everything
    (show "Disk" ≠ "" by decide) (by decide) "level:info"
  obtain ⟨kept, long', hkept, hlong', hsame, -⟩ := records_refine hl hfits ⟨5000, 1000⟩ .everything
    (show "-net" ≠ "" by decide) (by decide) "level:info"
  have hshown : records ⟨5000, 1000⟩
      (Criteria.everything.asking ("Disk" ++ " " ++ "level:info")) l = .ok diskNotes := by
    rw [records_notes hl (longer_ne_empty _ _) (by decide), hdisk]
    rfl
  have hshown' : records ⟨5000, 1000⟩
      (Criteria.everything.asking ("-net" ++ " " ++ "level:info")) l = .ok diskNotes := by
    rw [records_notes hl (longer_ne_empty _ _) (by decide), hnet]
    rfl
  obtain rfl : diskNotes = long := Except.ok.inj (hshown.symm.trans hlong)
  obtain rfl : diskNotes = long' := Except.ok.inj (hshown'.symm.trans hlong')
  refine ⟨l, found, kept, hl, hfound, hlong, ?_, hkept, hlong', hsame (Or.inl (by decide))⟩
  exact fun r hr => hword (by decide) r hr (shown_diskNotes r hr)

/-! ## Longer queries that find more -/

variable {r : Record}

theorem candidates_single (c : Criteria) (row : Row) (h : c.inBounds row = true) :
    c.candidates [row] = [row] := by
  rw [Criteria.candidates, Log.newestFirst, List.reverse_singleton, List.mergeSort_singleton]
  simp [h]

/-- A single record that does not mention a query that is not advanced, but satisfies a longer one
    that is, is shown to the longer one only. -/
theorem longer_finds_more (hfits : r.Fits) (hne : a ≠ "") (hplain : isAdvanced a = false)
    {b : String} (hadvanced : isAdvanced (a ++ " " ++ b) = true)
    (hsilent : ¬ (Row.ofRecord r).Mentions a)
    (hholds : Query.holds (Query.terms (a ++ " " ++ b)) r = true) :
    ∃ l : Ledger, Reached [.insert r] l ∧
      records ⟨5000, 1000⟩ (Criteria.everything.asking a) l = .ok [] ∧
      records ⟨5000, 1000⟩ (Criteria.everything.asking (a ++ " " ++ b)) l = .ok [r] := by
  obtain ⟨l, hl⟩ := exists_reached_ledger [.insert r]
  have hback := Row.toRecord?_ofRecord_eq_self hfits
  have hrecords : ∀ row ∈ [Row.ofRecord r], ∃ r, row.toRecord? = some r := by
    intro row hrow
    rw [List.mem_singleton.1 hrow]
    exact ⟨r, hback⟩
  have hserves : Serves l [Row.ofRecord r] := hl.serves
  refine ⟨l, hl, records_eq_ok hserves hrecords ?_, records_eq_ok hserves hrecords ?_⟩
  · change Rebuilds (Criteria.meaning _ (Criteria.everything.asking a) _) []
    rw [meaning_plain _ (query?_asking _ hne) hplain, candidates_single _ _ rfl]
    simp [hsilent, Rebuilds]
  · change Rebuilds (Criteria.meaning _ (Criteria.everything.asking (a ++ " " ++ b)) _) [r]
    rw [meaning_scan _ (query?_asking _ (longer_ne_empty a b)) hadvanced, Criteria.scanned,
      candidates_single _ _ rfl]
    have hsatisfies : (Row.ofRecord r).satisfies (a ++ " " ++ b) = true := by
      rw [Row.satisfies, hback, Option.any_some, hholds]
    show Rebuilds ([Row.ofRecord r].filter _) [r]
    rw [List.filter_singleton, hsatisfies]
    simp [Rebuilds, hback]

theorem ofRecord_bare (h : Header) : Row.ofRecord ⟨h, []⟩ = ⟨h, "\x7b\x7d"⟩ := by
  simp [Row.ofRecord, Json.text, Json.chars, Json.memberChars]

theorem ofRecord_path (h : Header) : Row.ofRecord ⟨h, [("path", .string "a\\b")]⟩ =
    ⟨h, "\x7b\"path\":\"a\\\\b\"\x7d"⟩ := by
  simp [Row.ofRecord, Json.text, Json.chars, Json.memberChars, Json.stringText, Json.escaped]

/-- A longer query may find more: a phrase becomes two words, a word that stands in an identifier
    becomes a term for all fields, and so does a word that is stored with an escape. -/
theorem records_refine_adds :
    (∃ l : Ledger, Reached [.insert ⟨⟨"1", ⟨"2024"⟩, "beta alpha", "info", "api"⟩, []⟩] l ∧
      records ⟨5000, 1000⟩ (Criteria.everything.asking "alpha beta") l = .ok [] ∧
      records ⟨5000, 1000⟩ (Criteria.everything.asking ("alpha beta" ++ " " ++ "-x")) l =
        .ok [⟨⟨"1", ⟨"2024"⟩, "beta alpha", "info", "api"⟩, []⟩]) ∧
    (∃ l : Ledger, Reached [.insert ⟨⟨"job7", ⟨"2024"⟩, "up", "info", "api"⟩, []⟩] l ∧
      records ⟨5000, 1000⟩ (Criteria.everything.asking "job7") l = .ok [] ∧
      records ⟨5000, 1000⟩ (Criteria.everything.asking ("job7" ++ " " ++ "-x")) l =
        .ok [⟨⟨"job7", ⟨"2024"⟩, "up", "info", "api"⟩, []⟩]) ∧
    ∃ l : Ledger,
      Reached [.insert ⟨⟨"1", ⟨"2024"⟩, "up", "info", "api"⟩, [("path", .string "a\\b")]⟩] l ∧
      records ⟨5000, 1000⟩ (Criteria.everything.asking "a\\b") l = .ok [] ∧
      records ⟨5000, 1000⟩ (Criteria.everything.asking ("a\\b" ++ " " ++ "-x")) l =
        .ok [⟨⟨"1", ⟨"2024"⟩, "up", "info", "api"⟩, [("path", .string "a\\b")]⟩] := by
  have hpath : ∀ h : Header, Record.Fits ⟨h, [("path", .string "a\\b")]⟩ := by
    intro h
    constructor
    · simp [Json.Distinct, Json.DistinctMembers, Entries.names]
    · simp [Json.depth, Json.memberDepth, Json.maxDepth]
  have hword : ∀ word : String, Term.Writable .bare ⟨.text, word, false⟩ →
      Query.terms word = [⟨.text, word, false⟩] := fun word h => Query.termsOf_single h
  have hnot : Query.terms "-x" = [⟨.text, "x", true⟩] :=
    Query.termsOf_single (show Term.Writable .bare ⟨.text, "x", true⟩ by decide)
  refine ⟨?_, ?_, ?_⟩
  · apply longer_finds_more (fits_bare _)
    · decide
    · decide
    · decide
    · rw [ofRecord_bare, Row.mentions_iff]
      decide
    · have hphrase := Query.terms_append_space (show '"' ∉ "alpha".toList by decide) "beta"
      rw [hword "alpha" (by decide), hword "beta" (by decide)] at hphrase
      rw [Query.terms_append_space (by decide), hnot]
      show Query.holds (Query.terms ("alpha" ++ " " ++ "beta") ++ _) _ = true
      rw [hphrase]
      decide
  · apply longer_finds_more (fits_bare _)
    · decide
    · decide
    · decide
    · rw [ofRecord_bare, Row.mentions_iff]
      decide
    · rw [Query.terms_append_space (by decide), hword "job7" (by decide), hnot]
      decide
  · apply longer_finds_more (hpath _)
    · decide
    · decide
    · decide
    · rw [ofRecord_path, Row.mentions_iff]
      decide
    · rw [Query.terms_append_space (by decide), hword "a\\b" (by decide), hnot]
      decide

end Search

end Logbook
