import Logbook.Command.Run
import Logbook.Proofs.Record.Line
import Logbook.Proofs.Text.Lines
import Logbook.Proofs.Text.Utf8

/-!
# Records on lines

A command prints each record followed by a line end. As a JSON object a record is a single line,
whatever it holds, since a written value has no control characters, and the line is read as that
object. The line for the eye shows the time, the service and the message as they are, and the level
in upper case, so it breaks wherever one of them does.

**Deviation** from the wording "a single line": a message of two lines, say a stack trace, is
printed for the eye as two lines.

Results:

* `Text.count_upper`: upper-casing neither adds nor removes a line break.
* `Record.count_line`: the line breaks on the line of a record are those of the texts that it shows.
* `Record.read?_line`: the line of a record as an object is read as that object.
* `Command.lines_of_records`: how many lines are printed for records.
-/

namespace Logbook

namespace Text

/-! ## Upper case -/

variable {d : Char}

theorem le_of_mapped? {runs : List MappedRun} {bound n m : Nat}
    (hruns : ∀ run ∈ runs, bound ≤ run.target) (h : mapped? runs n = some m) : bound ≤ m := by
  obtain ⟨run, hrun, rfl⟩ := Option.map_eq_some_iff.1 h
  exact (hruns run (List.mem_of_find?_eq_some hrun)).trans (Nat.le_add_right _ _)

theorem le_toNat_of_mem_upperChar {c : Char} (hc : 0x80 ≤ c.toNat) (hd : d ∈ upperChar c)
    (hnull : d ≠ '\x00') : 0x41 ≤ d.toNat := by
  have hruns : ∀ run ∈ upperRuns, 0x41 ≤ run.target := by decide +kernel
  have hexpansions : ∀ e ∈ upperExpansions, ∀ n ∈ e.2, 0x41 ≤ n := by decide +kernel
  rw [upperChar, if_neg (Nat.not_lt.2 hc)] at hd
  split at hd
  · rename_i ns hns
    obtain ⟨n, hn, hd⟩ := List.mem_map.1 hd
    rw [← Utf8.eq_toNat_of_ofNat_eq hd hnull]
    obtain ⟨before, after, hsplit, -⟩ := List.lookup_eq_some_iff.1 hns
    exact hexpansions (c.toNat, ns) (hsplit ▸ List.mem_append_right _ List.mem_cons_self) n hn
  · split at hd
    · rename_i m hm
      rw [← Utf8.eq_toNat_of_ofNat_eq (List.mem_singleton.1 hd).symm hnull]
      exact le_of_mapped? hruns hm
    · rw [List.mem_singleton.1 hd]
      omega

/-- A character below the letters stays itself in upper case, and is that of no other one. -/
theorem count_upperChar (hd : d.toNat < 0x41) (hnull : d ≠ '\x00') (c : Char) :
    (upperChar c).count d = [c].count d := by
  have other : ∀ cs : List Char, c ≠ d → d ∉ cs → cs.count d = [c].count d := by
    intro cs hc hcs
    rw [List.count_eq_zero.2 hcs, List.count_eq_zero.2 fun h => hc (List.mem_singleton.1 h).symm]
  by_cases hascii : c.toNat < 0x80
  · rw [upperChar, if_pos hascii]
    split_ifs with hletter
    · have hne : c ≠ d := by
        rintro rfl
        omega
      refine other _ hne fun hmem => ?_
      have := Utf8.eq_toNat_of_ofNat_eq (List.mem_singleton.1 hmem).symm hnull
      omega
    · rfl
  · have hne : c ≠ d := by
      rintro rfl
      omega
    refine other _ hne fun hmem => ?_
    have := le_toNat_of_mem_upperChar (Nat.not_lt.1 hascii) hmem hnull
    omega

/-- **Upper-casing neither adds nor removes a character below the letters**, such as a line
break. -/
theorem count_upper (hd : d.toNat < 0x41) (hnull : d ≠ '\x00') (cs : List Char) :
    (upper cs).count d = cs.count d := by
  induction cs with
  | nil => rfl
  | cons c cs ih =>
    have hfirst := count_upperChar hd hnull c
    rw [upper, List.flatMap_cons, List.count_append, hfirst, ← upper, ih, ← List.count_append,
      List.singleton_append]

end Text

namespace Record

/-! ## Lines -/

/-- The texts of a record that its line for the eye shows. -/
def shown (r : Record) : List String :=
  [r.timestamp.text, r.level, r.service, r.message]

/-- How often a character occurs in the texts that the line for the eye shows. -/
def countShown (d : Char) (r : Record) : Nat :=
  (r.shown.map fun s => s.toList.count d).sum

/-- **A line for the eye has the line breaks of the texts that it shows**, and no others. -/
theorem count_line {d : Char} (hd : d.toNat < 0x20) (hnull : d ≠ '\x00') (r : Record) :
    (r.line .raw).toList.count d = r.countShown d := by
  have hseparator : ∀ s : String, Json.Clear s.toList → s.toList.count d = 0 :=
    fun s hs => List.count_eq_zero.2 (hs.not_mem hd)
  have hupper := Text.count_upper (d := d) (by omega) hnull r.level.toList
  simp only [line, String.toList_append, String.toList_ofList, List.count_append, hupper,
    hseparator " [" (by decide), hseparator "] " (by decide), hseparator ": " (by decide)]
  simp only [countShown, shown, List.map_cons, List.map_nil, List.sum_cons, List.sum_nil]
  omega

theorem mem_line_iff {d : Char} (hd : d.toNat < 0x20) (hnull : d ≠ '\x00') (r : Record) :
    d ∈ (r.line .raw).toList ↔ ∃ s ∈ r.shown, d ∈ s.toList := by
  rw [← List.count_pos_iff, count_line hd hnull, countShown, List.sum_pos_iff_exists_pos_nat]
  simp [List.count_pos_iff]

theorem clear_line (r : Record) : Json.Clear (r.line .jsonl).toList := by
  rw [line, Json.text, String.toList_ofList]
  exact Json.clear_chars r.flat

/-- **The line of a record as an object is read as that object.** -/
theorem read?_line {r : Record} (h : r.Fits) : Json.read? (r.line .jsonl) = some r.flat :=
  Json.read?_text (flat_distinct h) (flat_depth_le h)

end Record

namespace Command

/-! ## Printed records -/

theorem toList_linesOf (f : LineFormat) (rs : List Record) :
    (linesOf f rs).toList = rs.flatMap fun r => (r.line f).toList ++ ['\n'] := by
  simp [linesOf, String.toList_join, List.flatMap_map]

theorem length_lines_raw (rs : List Record) :
    (Text.lines (· == '\n') (linesOf .raw rs).toList).length =
      rs.length + (rs.map (Record.countShown '\n')).sum := by
  rw [toList_linesOf, Text.lines_flatMap_concat rfl]
  induction rs with
  | nil => rfl
  | cons r rs ih =>
    have hfirst : (Text.lines (· == '\n') ((r.line .raw).toList ++ ['\n'])).length =
        r.countShown '\n' + 1 := by
      rw [Text.length_lines_concat rfl, ← List.count, r.count_line (by decide) (by decide)]
    rw [List.flatMap_cons, List.length_append, hfirst, ih, List.length_cons, List.map_cons,
      List.sum_cons]
    omega

theorem lines_jsonl (rs : List Record) :
    Text.lines (· == '\n') (linesOf .jsonl rs).toList =
      rs.map fun r => (r.line .jsonl).toList := by
  have hinside : ∀ r ∈ rs, ∀ c ∈ (r.line .jsonl).toList, (c == '\n') = false := by
    intro r _ c hc
    rw [beq_eq_false_iff_ne]
    rintro rfl
    exact r.clear_line.not_mem (by decide) hc
  rw [toList_linesOf, Text.lines_joined rfl hinside]

/-- **How records are printed.** As an object a record is a line without line breaks, whatever it
holds, so as many lines are printed as records, and each line is read as the flat object of its
record. For the eye a line breaks exactly where one of the texts does that it shows: the time, the
level, the service or the message. So besides a line for each record there is one for each line
break in these texts. -/
theorem lines_of_records (r : Record) (rs : List Record) :
    ('\n' ∉ (r.line .jsonl).toList ∧ '\r' ∉ (r.line .jsonl).toList ∧
      (r.Fits → Json.read? (r.line .jsonl) = some r.flat)) ∧
    Text.lines (· == '\n') (linesOf .jsonl rs).toList = (rs.map fun r => (r.line .jsonl).toList) ∧
    (∀ d, d = '\n' ∨ d = '\r' →
      (d ∈ (r.line .raw).toList ↔ ∃ s ∈ r.shown, d ∈ s.toList)) ∧
    (Text.lines (· == '\n') (linesOf .raw rs).toList).length =
      rs.length + (rs.map (Record.countShown '\n')).sum := by
  refine ⟨⟨?_, ?_, Record.read?_line⟩, lines_jsonl rs, ?_, length_lines_raw rs⟩
  · exact r.clear_line.not_mem (by decide)
  · exact r.clear_line.not_mem (by decide)
  · rintro d (rfl | rfl)
    · exact r.mem_line_iff (by decide) (by decide)
    · exact r.mem_line_iff (by decide) (by decide)

/-- A record with a message and an attribute of two lines each. -/
def twoLines : Record :=
  ⟨⟨"1", ⟨"2024"⟩, "up\ndown", "info", "api"⟩, [("trace", .string "in\nat")]⟩

/-- Printed twice for the eye it takes four lines, and two as an object, which is read back. -/
theorem lines_of_records_two_lines :
    Json.read? (twoLines.line .jsonl) = some twoLines.flat ∧
      (Text.lines (· == '\n') (linesOf .jsonl [twoLines, twoLines]).toList).length = 2 ∧
      (Text.lines (· == '\n') (linesOf .raw [twoLines, twoLines]).toList).length = 4 := by
  obtain ⟨⟨-, -, hread⟩, hobjects, -, hlength⟩ := lines_of_records twoLines [twoLines, twoLines]
  have hfits : twoLines.Fits := by
    constructor
    · simp [twoLines, Json.Distinct, Json.DistinctMembers, Entries.names]
    · decide
  refine ⟨hread hfits, ?_, hlength.trans (by decide)⟩
  rw [hobjects]
  rfl

/-- **A record may take more than one line**: printed once for the eye, a message of two lines takes
two. -/
theorem raw_line_breaks :
    '\n' ∈ (twoLines.line .raw).toList ∧
      (Text.lines (· == '\n') (linesOf .raw [twoLines]).toList).length = 2 := by
  refine ⟨(twoLines.mem_line_iff (by decide) (by decide)).2 ?_, ?_⟩
  · exact ⟨"up\ndown", by decide, by decide⟩
  · rw [length_lines_raw]
    decide

end Command

end Logbook
