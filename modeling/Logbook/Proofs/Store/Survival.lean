import Mathlib.Data.List.DropRight
import Logbook.Proofs.Json.Prefixed
import Logbook.Proofs.Store.Durable

/-!
# What a restart keeps

A store may be opened on any text: blank lines and lines that spell no row are passed over, and the
rows of the other lines are there. From then on rows are added behind the last character, whatever
that is. If the text ends in a line end, or in blanks after one, a new row stands on a line of its
own and is there after a restart.

**The gap.** If anything else follows the last line end, be it a row or the beginning of one, the
first new row shares its line. The insertion succeeds and the row is shown, but the line spells no
row, and a restart loses the new row together with the one that stood there.

Results:

* `lines_wholeLines_append`: what follows the last line end of a text begins a new line.
* `rowOfLine?_append`: a row behind anything but blanks is lost.
* `Spells.step`: changing the store and opening it again keeps a text with a blank last line.
* `reopen_run_iff`: restarts keep the rows if and only if the text ends in blanks.
-/

namespace Logbook

/-! ## The last line -/

namespace Text

variable {α : Type} {isEnd : α → Bool}

/-- What follows the last line end. -/
def lastLine (isEnd : α → Bool) (xs : List α) : List α :=
  xs.rtakeWhile fun x => !isEnd x

/-- Everything up to the last line end. -/
def wholeLines (isEnd : α → Bool) (xs : List α) : List α :=
  xs.rdropWhile fun x => !isEnd x

theorem wholeLines_append_lastLine (isEnd : α → Bool) (xs : List α) :
    wholeLines isEnd xs ++ lastLine isEnd xs = xs :=
  List.rdropWhile_append_rtakeWhile

theorem isEnd_of_mem_lastLine {xs : List α} {x : α} (h : x ∈ lastLine isEnd xs) :
    isEnd x = false := by
  simpa using List.mem_rtakeWhile_imp h

theorem lastLine_concat {e : α} (he : isEnd e = true) (xs : List α) :
    lastLine isEnd (xs ++ [e]) = [] :=
  List.rtakeWhile_concat_neg _ xs e (by simp [he])

/-- What follows the whole lines begins a new line. -/
theorem lines_wholeLines_append (xs rest : List α) :
    lines isEnd (wholeLines isEnd xs ++ rest) =
      lines isEnd (wholeLines isEnd xs) ++ lines isEnd rest := by
  by_cases hne : wholeLines isEnd xs = []
  · rw [hne, lines, List.nil_append, List.nil_append]
  · have hend : isEnd ((wholeLines isEnd xs).getLast hne) = true := by
      have hnot := List.rdropWhile_last_not (fun x => !isEnd x) xs hne
      rwa [Bool.not_eq_true', Bool.not_eq_false] at hnot
    rw [← List.dropLast_append_getLast hne, List.append_assoc, List.singleton_append,
      lines_append_of_end hend]

end Text

namespace DurableStore

open Disk (SameDirectories)

/-! ## A row behind a last line -/

/-- **A row behind anything but blanks is lost**, and so is whatever stood there. -/
theorem rowOfLine?_append (before : List Char) (row : Row) :
    rowOfLine? (before ++ Json.chars row.json) =
      if before.all Json.isSpace then some row else none := by
  have hblank : Text.allBlank (before ++ Json.chars row.json) = false := by
    have hbrace : '\x7b' ∈ before ++ Json.chars row.json := by
      rw [Row.json, Json.chars]
      exact List.mem_append_right before List.mem_cons_self
    rw [Text.allBlank, List.all_eq_false]
    exact ⟨_, hbrace, by decide⟩
  rw [rowOfLine?, hblank, if_neg Bool.false_ne_true, Row.read?, String.toList_ofList]
  split
  · rename_i hspace
    have hrow := Row.read?_json row
    rw [Row.read?, Json.text, String.toList_ofList] at hrow
    rw [Json.Document.read?_append_of_blank (List.all_eq_true.1 hspace), hrow]
  · rename_i hspace
    obtain ⟨c, hc, hother⟩ : ∃ c ∈ before, Json.isSpace c = false := by simpa using hspace
    have hnone : Json.Document.read? (before ++ Json.chars row.json) = none :=
      Json.Document.read?_append_object rfl (Json.tokens?_i _) hc hother
    rw [hnone]
    rfl

/-- Whether nothing but blanks between tokens follows the last line end of a text. -/
def endsBlank (text : String) : Bool :=
  (Text.lastLine (· == '\n') text.toList).all Json.isSpace

/-- The rows of the lines of a text that are closed by a line end. -/
def closedRows (text : String) : List Row :=
  (Text.lines (· == '\n') (Text.wholeLines (· == '\n') text.toList)).filterMap rowOfLine?

/-- The last line of a text gives a row or none. -/
theorem rowsOfText_eq (text : String) :
    rowsOfText text = closedRows text ++
      (rowOfLine? (Text.lastLine (· == '\n') text.toList)).toList := by
  have hlast : (Text.lines (· == '\n') (Text.lastLine (· == '\n') text.toList)).filterMap
      rowOfLine? = (rowOfLine? (Text.lastLine (· == '\n') text.toList)).toList := by
    have hline : ∀ c ∈ Text.lastLine (· == '\n') text.toList, (c == '\n') = false :=
      fun c hc => (Text.isEnd_of_mem_lastLine hc :)
    generalize Text.lastLine (· == '\n') text.toList = last at hline
    cases last with
    | nil =>
      rw [Text.lines]
      rfl
    | cons c last =>
      rw [Text.lines_eq_singleton (List.cons_ne_nil c last) hline, List.filterMap_cons]
      cases rowOfLine? (c :: last) <;> rfl
  rw [closedRows, ← hlast, ← List.filterMap_append, ← Text.lines_wholeLines_append,
    Text.wholeLines_append_lastLine]
  rfl

/-- **What becomes of the rows of a text that goes on with a row.** -/
theorem rowsOfText_append_rowLine (text : String) (row : Row) :
    rowsOfText (text ++ rowLine row) =
      closedRows text ++ if endsBlank text then [row] else [] := by
  have hlist : (text ++ rowLine row).toList = Text.wholeLines (· == '\n') text.toList ++
      ((Text.lastLine (· == '\n') text.toList ++ Json.chars row.json) ++ '\n' :: []) := by
    rw [String.toList_append, toList_rowLine, List.append_assoc, ← List.append_assoc
      (Text.wholeLines _ _), Text.wholeLines_append_lastLine]
  have hline : ∀ c ∈ Text.lastLine (· == '\n') text.toList ++ Json.chars row.json,
      (c == '\n') = false := by
    intro c hc
    rcases List.mem_append.1 hc with hc | hc
    · exact (Text.isEnd_of_mem_lastLine hc :)
    · rw [beq_eq_false_iff_ne]
      rintro rfl
      exact Json.newline_not_mem_chars row.json hc
  have hrow : rowOfLine? (Text.lastLine (· == '\n') text.toList ++ Json.chars row.json) =
      if endsBlank text then some row else none :=
    rowOfLine?_append _ row
  rw [rowsOfText, hlist, Text.lines_wholeLines_append, List.filterMap_append,
    Text.lines_append hline (by decide), Text.lines, List.filterMap_cons, hrow]
  cases endsBlank text <;> rfl

/-- A blank last line gives no row. -/
theorem rowsOfText_of_endsBlank {text : String} (h : endsBlank text = true) :
    rowsOfText text = closedRows text := by
  have hblank : ∀ c, Json.isSpace c = true → Text.isBlank c = true := by
    intro c hc
    simp only [Json.isSpace, Bool.or_eq_true, beq_iff_eq] at hc
    rcases hc with ((rfl | rfl) | rfl) | rfl <;> decide
  have hlast : rowOfLine? (Text.lastLine (· == '\n') text.toList) = none :=
    if_pos (List.all_eq_true.2 fun c hc => hblank c (List.all_eq_true.1 h c hc))
  rw [rowsOfText_eq, hlast]
  exact List.append_nil _

theorem endsBlank_append_rowLine (text : String) (row : Row) :
    endsBlank (text ++ rowLine row) = true := by
  rw [endsBlank, String.toList_append, toList_rowLine, ← List.append_assoc,
    Text.lastLine_concat (by decide), List.all_nil]

/-- **Rows behind a blank last line** are read in order after the rows before them. -/
theorem rowsOfText_append {text : String} (h : endsBlank text = true) (rows : List Row) :
    rowsOfText (text ++ String.join (rows.map rowLine)) = rowsOfText text ++ rows ∧
      endsBlank (text ++ String.join (rows.map rowLine)) = true := by
  induction rows generalizing text with
  | nil =>
    rw [List.map_nil, String.join_nil, String.append_empty, List.append_nil]
    exact ⟨rfl, h⟩
  | cons row rows ih =>
    obtain ⟨hrows, hends⟩ := ih (endsBlank_append_rowLine text row)
    rw [rowsOfText_append_rowLine, if_pos h, ← rowsOfText_of_endsBlank h, List.append_assoc,
      List.singleton_append] at hrows
    rw [List.map_cons, String.join_cons, ← String.append_assoc]
    exact ⟨hrows, hends⟩

/-! ## Stores on a text -/

variable {directory : Path} {route : Route} {disk disk' : Disk} {s₀ s s' : DurableStore}
variable {text : String}

/-- The file of the store is a text that ends in blanks, the ledger arranges the rows of its lines,
    and nothing but files has come and gone on the disk since the store was first opened. -/
structure Spells (s₀ s : DurableStore) (text : String) : Prop where
  path_eq : s.path = s₀.path
  directories : SameDirectories s₀.disk s.disk
  read : s.disk.read? s₀.path = some text.toUTF8
  arranges : Arranges s.ledger.rows (rowsOfText text)
  endsBlank : DurableStore.endsBlank text = true

theorem openRoute_text (h : openRoute directory route disk = (.ok s₀, disk'))
    (hcontent : (disk.read? s₀.path).getD .empty = text.toUTF8) :
    s₀.disk.read? s₀.path = some text.toUTF8 ∧ s₀.ledger = .ofRows (rowsOfText text) := by
  obtain ⟨-, disk₁, hext, hopen⟩ := openRoute_spec h
  obtain ⟨-, hprepare, rows, hrows, hledger⟩ := openAt_spec hopen
  obtain ⟨-, -, -, -, -, hread⟩ := prepare?_spec hprepare
  rw [hext.read?_eq, hcontent] at hread hrows
  rw [decode_toUTF8] at hrows
  cases hrows
  exact ⟨hread, hledger⟩

theorem insertMany_text (ho : Opened directory route s₀) (hpath : s.path = s₀.path)
    (hdirs : SameDirectories s₀.disk s.disk) (hread : s.disk.read? s₀.path = some text.toUTF8)
    (rows : List Row) :
    ∃ s', (Store.Update.insertMany rows).after? s = some s' ∧ s'.path = s₀.path ∧
      SameDirectories s₀.disk s'.disk ∧ s'.ledger = s.ledger.insertMany rows ∧
      s'.disk.read? s₀.path = some (text ++ String.join (rows.map rowLine)).toUTF8 := by
  obtain ⟨s', hs', hpath', hledger, hsame, hread'⟩ :=
    insertMany_spec (ho.writable_at hpath hdirs) rows
  rw [hpath, hread, Option.getD_some] at hread'
  refine ⟨s', hs', hpath'.trans hpath, hdirs.trans hsame, hledger, ?_⟩
  rw [hread', encode, String.toUTF8_eq_toByteArray, String.toUTF8_eq_toByteArray,
    String.toUTF8_eq_toByteArray, String.toByteArray_append]

/-- **Opening a store again** on a text reads the rows of its lines. -/
theorem reopen_text (ho : Opened directory route s₀) (hdirs : SameDirectories s₀.disk disk)
    (hread : disk.read? s₀.path = some text.toUTF8) :
    ∃ s', openRoute directory route disk = (.ok s', s'.disk) ∧ s'.path = s₀.path ∧
      SameDirectories s₀.disk s'.disk ∧ s'.ledger = .ofRows (rowsOfText text) ∧
      s'.disk.read? s₀.path = some text.toUTF8 :=
  reopen_spec ho hdirs (by rw [hread, Option.getD_some]) (decode_toUTF8 text)

namespace Spells

theorem insertMany (h : Spells s₀ s text) (ho : Opened directory route s₀) (rows : List Row) :
    ∃ s', (Store.Update.insertMany rows).after? s = some s' ∧
      Spells s₀ s' (text ++ String.join (rows.map rowLine)) := by
  obtain ⟨s', hs', hpath, hdirs, hledger, hread⟩ :=
    insertMany_text ho h.path_eq h.directories h.read rows
  obtain ⟨hrows, hends⟩ := rowsOfText_append h.endsBlank rows
  refine ⟨s', hs', hpath, hdirs, hread, ?_, hends⟩
  rw [hrows, hledger]
  exact h.arranges.insertMany rows

theorem delete (h : Spells s₀ s text) (ho : Opened directory route s₀) {d : Deletion} {n : Nat}
    (hdelete : deleteCut d none s = (.ok n, s')) : ∃ text', Spells s₀ s' text' := by
  obtain ⟨-, hpath, hledger, hsame, hfile⟩ :=
    deleteCut_spec (ho.writable_at h.path_eq h.directories) hdelete
  rcases hfile with rfl | hread
  · exact ⟨text, h⟩
  · have hempty : DurableStore.endsBlank "" = true := rfl
    obtain ⟨hrows, hends⟩ := rowsOfText_append hempty (s.ledger.survivors d).oldestFirst
    rw [String.empty_append] at hrows hends
    rw [h.path_eq] at hread
    refine ⟨_, hpath.trans h.path_eq, h.directories.trans hsame, hread, ?_, hends⟩
    rw [hledger, rowsOfText_join]
    exact ⟨(h.arranges.filter fun row => !d.hits row).ascending, fun _ => rfl⟩

/-- **A restart changes no row**: the ledger arranges the rows of the text, and so does the one that
is read from it. -/
theorem reopen (h : Spells s₀ s text) (ho : Opened directory route s₀) :
    ∃ s', openRoute directory route s.disk = (.ok s', s'.disk) ∧ s'.ledger = s.ledger ∧
      Spells s₀ s' text := by
  obtain ⟨s', hopen, hpath, hdirs, hledger, hread⟩ := reopen_text ho h.directories h.read
  have hsame : s'.ledger = s.ledger := by
    rw [hledger]
    exact congrArg Ledger.mk ((arranges_ofRows _).unique h.arranges)
  exact ⟨s', hopen, hsame, hpath, hdirs, hread, hsame ▸ h.arranges, h.endsBlank⟩

/-- **A step keeps a text that ends in blanks.** -/
theorem step (h : Spells s₀ s text) (ho : Opened directory route s₀) {step : Step}
    (hstep : step.after? directory route s = some s') : ∃ text', Spells s₀ s' text' := by
  cases step with
  | update u =>
    cases u with
    | insert row =>
      obtain ⟨s₁, h₁, hs₁⟩ := h.insertMany ho [row]
      rw [Step.after?, after?_insert, h₁] at hstep
      obtain rfl := Option.some.inj hstep
      exact ⟨_, hs₁⟩
    | insertMany rows =>
      obtain ⟨s₁, h₁, hs₁⟩ := h.insertMany ho rows
      rw [Step.after?, h₁] at hstep
      obtain rfl := Option.some.inj hstep
      exact ⟨_, hs₁⟩
    | delete d =>
      obtain ⟨n, hn⟩ := (after?_delete_iff d).1 hstep
      exact h.delete ho hn
  | reopen =>
    obtain ⟨s₁, hopen, -, hs₁⟩ := h.reopen ho
    rw [Step.after?, hopen] at hstep
    obtain rfl := Option.some.inj hstep
    exact ⟨text, hs₁⟩

theorem run (h : Spells s₀ s text) (ho : Opened directory route s₀) {steps : List Step}
    (hrun : run? directory route steps s = some s') : ∃ text', Spells s₀ s' text' := by
  induction steps generalizing s text with
  | nil =>
    cases hrun
    exact ⟨text, h⟩
  | cons step rest ih =>
    rw [run?, List.foldlM_cons] at hrun
    obtain ⟨s₁, h₁, hrest⟩ := Option.bind_eq_some_iff.1 hrun
    obtain ⟨text₁, hs₁⟩ := h.step ho h₁
    exact ih hs₁ hrest

end Spells

/-! ## Restarts -/

theorem length_ofRows (rows : List Row) : (Ledger.ofRows rows).rows.length = rows.length := by
  rw [arranges_iff.1 (arranges_ofRows rows), Log.oldestFirst, List.length_mergeSort]

/-- **What a row that is inserted first becomes**: it is in memory, and after a restart it is there
if the text ends in blanks; if not, it is lost along with the row of the last line. -/
theorem insert_reopen (h : openRoute directory route disk = (.ok s₀, disk'))
    (hcontent : (disk.read? s₀.path).getD .empty = text.toUTF8) (row : Row) :
    ∃ s s', run? directory route [.update (.insert row)] s₀ = some s ∧
      openRoute directory route s.disk = (.ok s', s'.disk) ∧
      s.ledger = .ofRows (rowsOfText text ++ [row]) ∧
      s'.ledger = .ofRows (closedRows text ++ if endsBlank text then [row] else []) := by
  obtain ⟨ho, -⟩ := openRoute_spec h
  obtain ⟨hread, hledger⟩ := openRoute_text h hcontent
  obtain ⟨s, hs, -, hdirs, hinserted, hread'⟩ :=
    insertMany_text ho rfl (SameDirectories.refl _) hread [row]
  obtain ⟨s', hopen, -, -, hledger', -⟩ := reopen_text ho hdirs hread'
  refine ⟨s, s', ?_, hopen, ?_, ?_⟩
  · rw [run?, List.foldlM_cons, Step.after?, after?_insert, hs]
    rfl
  · rw [hinserted, hledger, Ledger.ofRows, Ledger.ofRows, Ledger.insertMany, Ledger.insertMany,
      Ledger.insertMany, List.foldl_append]
  · rw [hledger', List.map_singleton, String.join_cons, String.join_nil, String.append_empty,
      rowsOfText_append_rowLine]

/-- **Restarts keep the rows if and only if the text ends in blanks.** On a text of any lines,
closed or not, whatever runs of changes and restarts have led to a store, opening it again gives the
same rows in the same order if and only if nothing but blanks follows the last line end of the
text. -/
theorem reopen_run_iff (h : openRoute directory route disk = (.ok s₀, disk'))
    (hcontent : (disk.read? s₀.path).getD .empty = text.toUTF8) :
    (∀ steps s, run? directory route steps s₀ = some s →
      ∃ s', openRoute directory route s.disk = (.ok s', s'.disk) ∧ s'.ledger = s.ledger) ↔
    endsBlank text = true := by
  obtain ⟨ho, -⟩ := openRoute_spec h
  constructor
  · intro hkeeps
    obtain ⟨s, s', hrun, hopen, hrows, hrows'⟩ :=
      insert_reopen h hcontent ⟨⟨"", ⟨""⟩, "", "", ""⟩, ""⟩
    obtain ⟨s'', hopen', hsame⟩ := hkeeps _ s hrun
    rw [hopen] at hopen'
    cases hopen'
    by_contra hends
    -- A row that is lost leaves fewer rows than there were.
    rw [hrows, hrows', if_neg hends, List.append_nil] at hsame
    have hlength := congrArg (fun l : Ledger => l.rows.length) hsame
    simp only [length_ofRows, rowsOfText_eq, List.length_append, List.length_singleton] at hlength
    omega
  · intro hends steps s hrun
    obtain ⟨hread, hledger⟩ := openRoute_text h hcontent
    have hstart : Spells s₀ s₀ text :=
      ⟨rfl, SameDirectories.refl _, hread, hledger ▸ arranges_ofRows _, hends⟩
    obtain ⟨text', hs⟩ := hstart.run ho hrun
    obtain ⟨s', hopen, hsame, -⟩ := hs.reopen ho
    exact ⟨s', hopen, hsame⟩

/-- A file cut short inside its only line, and the same file with the line closed. -/
theorem reopen_run_iff_cut_short :
    (∃ s₀ disk', openRoute [] ⟨true, [.into "logs.jsonl"], false, 11, 1⟩
        ⟨[(["logs.jsonl"], .file "\x7b\"id\":\"a\"".toUTF8)]⟩ = (.ok s₀, disk') ∧
      ¬∀ steps s, run? [] ⟨true, [.into "logs.jsonl"], false, 11, 1⟩ steps s₀ = some s →
        ∃ s', openRoute [] ⟨true, [.into "logs.jsonl"], false, 11, 1⟩ s.disk = (.ok s', s'.disk) ∧
          s'.ledger = s.ledger) ∧
    ∃ s₀ disk', openRoute [] ⟨true, [.into "logs.jsonl"], false, 11, 1⟩
        ⟨[(["logs.jsonl"], .file "\x7b\"id\":\"a\"\n ".toUTF8)]⟩ = (.ok s₀, disk') ∧
      ∀ steps s, run? [] ⟨true, [.into "logs.jsonl"], false, 11, 1⟩ steps s₀ = some s →
        ∃ s', openRoute [] ⟨true, [.into "logs.jsonl"], false, 11, 1⟩ s.disk = (.ok s', s'.disk) ∧
          s'.ledger = s.ledger :=
  ⟨⟨_, _, openRoute_root (decode_toUTF8 _), fun h =>
      absurd ((reopen_run_iff (openRoute_root (decode_toUTF8 _)) rfl).1 h) (by decide)⟩,
    ⟨_, _, openRoute_root (decode_toUTF8 _),
      (reopen_run_iff (openRoute_root (decode_toUTF8 _)) rfl).2 (by decide)⟩⟩

/-- A row inserted behind a line that was cut short is gone after a restart. -/
theorem inserted_row_lost :
    ∃ s₀ disk' s s', openRoute [] ⟨true, [.into "logs.jsonl"], false, 11, 1⟩
        ⟨[(["logs.jsonl"], .file "\x7b\"id\":\"a\"".toUTF8)]⟩ = (.ok s₀, disk') ∧
      run? [] ⟨true, [.into "logs.jsonl"], false, 11, 1⟩
        [.update (.insert ⟨⟨"1", ⟨"2024"⟩, "up", "info", "api"⟩, "{}"⟩)] s₀ = some s ∧
      ⟨⟨"1", ⟨"2024"⟩, "up", "info", "api"⟩, "{}"⟩ ∈ s.ledger.oldestFirst ∧
      openRoute [] ⟨true, [.into "logs.jsonl"], false, 11, 1⟩ s.disk = (.ok s', s'.disk) ∧
      s'.ledger.oldestFirst = [] := by
  have hopen := openRoute_root (decode_toUTF8 "\x7b\"id\":\"a\"")
  obtain ⟨s, s', hrun, hagain, hrows, hrows'⟩ :=
    insert_reopen hopen rfl ⟨⟨"1", ⟨"2024"⟩, "up", "info", "api"⟩, "{}"⟩
  have hclosed : closedRows "\x7b\"id\":\"a\"" = [] := by
    have hwhole : Text.wholeLines (· == '\n') "\x7b\"id\":\"a\"".toList = [] := by decide
    rw [closedRows, hwhole, Text.lines]
    rfl
  refine ⟨_, _, s, s', hopen, hrun, ?_, hagain, ?_⟩
  · rw [hrows]
    exact (arranges_ofRows _).mem_iff.2 (List.mem_append_right _ List.mem_cons_self)
  · rw [hrows', hclosed, if_neg (by decide)]
    rfl

end DurableStore

end Logbook
