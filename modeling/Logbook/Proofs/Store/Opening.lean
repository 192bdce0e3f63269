import Logbook.Proofs.Store.Durable

/-!
# Opening a file of any bytes

A file is read line by line, and a line gives a row or none, whatever the other lines hold: one that
is blank, that is not JSON or that spells something else gives none.

**The gap.** This is so as long as every line is UTF-8. The first line that is not, such as one that
was cut short inside a character, fails the whole opening, and with it the rows of all other lines.

Results:

* `isText_iff_lines`: bytes are UTF-8 if and only if each of their lines is.
* `decode_eq`: what a file of any bytes is read as.
* `openRoute_bytes`: what opening a store on such a file gives.
-/

namespace Logbook.DurableStore

open Disk (SameDirectories)

/-! ## Lines in bytes -/

/-- The lines of a file in bytes. -/
def byteLines (content : ByteArray) : List (List UInt8) :=
  Text.lines (· == 10) content.data.toList

/-- Whether a line is UTF-8. -/
def isText (line : List UInt8) : Bool :=
  (String.fromUTF8? line.toByteArray).isSome

/-- The row that a line in bytes spells, if it is UTF-8, not blank and spells one. -/
def rowOfBytes? (line : List UInt8) : Option Row :=
  (String.fromUTF8? line.toByteArray).bind fun text => rowOfLine? text.toList

/-- The rows of the lines of a file that spell one, in the order of the lines. -/
def rowsOfBytes (content : ByteArray) : List Row :=
  (byteLines content).filterMap rowOfBytes?

theorem fromUTF8?_utf8 (cs : List Char) :
    String.fromUTF8? (cs.flatMap String.utf8EncodeChar).toByteArray = some (String.ofList cs) :=
  fromUTF8?_toUTF8 (String.ofList cs)

theorem isText_iff {line : List UInt8} :
    isText line = true ↔ ∃ cs : List Char, line = cs.flatMap String.utf8EncodeChar := by
  constructor
  · intro h
    obtain ⟨s, hs⟩ := Option.isSome_iff_exists.1 h
    unfold String.fromUTF8? at hs
    split at hs
    · rename_i hvalid
      obtain ⟨cs, hcs⟩ := hvalid
      refine ⟨cs, ?_⟩
      rw [List.utf8Encode] at hcs
      simpa using congrArg (fun b : ByteArray => b.data.toList) hcs
    · cases hs
  · rintro ⟨cs, rfl⟩
    rw [isText, fromUTF8?_utf8]
    rfl

/-- **Bytes are UTF-8 if and only if each of their lines is.** -/
theorem isText_iff_lines (bytes : List UInt8) :
    isText bytes = true ↔ ∀ line ∈ Text.lines (· == 10) bytes, isText line = true := by
  constructor
  · intro h line hline
    obtain ⟨cs, rfl⟩ := isText_iff.1 h
    rw [Text.lines_utf8] at hline
    obtain ⟨cs', -, rfl⟩ := List.mem_map.1 hline
    exact isText_iff.2 ⟨cs', rfl⟩
  · intro h
    induction bytes using Text.lines_induction (· == (10 : UInt8)) with
    | last bytes hbytes =>
      by_cases hne : bytes = []
      · exact isText_iff.2 ⟨[], hne⟩
      · rw [Text.lines_eq_singleton hne hbytes] at h
        exact h bytes List.mem_cons_self
    | line bytes e rest hbytes he ih =>
      rw [Text.lines_append hbytes he, List.forall_mem_cons] at h
      obtain ⟨cs, hcs⟩ := isText_iff.1 h.1
      obtain ⟨cs', hcs'⟩ := isText_iff.1 (ih h.2)
      have he' : [e] = String.utf8EncodeChar '\n' := by
        rw [Text.utf8EncodeChar_newline, beq_iff_eq.1 he]
      refine isText_iff.2 ⟨cs ++ '\n' :: cs', ?_⟩
      rw [List.flatMap_append, List.flatMap_cons, ← he', ← hcs, ← hcs', List.singleton_append]

/-! ## Files in bytes -/

theorem toByteArray_data (content : ByteArray) : content.data.toList.toByteArray = content :=
  ByteArray.ext List.data_toByteArray

theorem toList_data_toUTF8 (text : String) :
    text.toUTF8.data.toList = text.toList.flatMap String.utf8EncodeChar := by
  conv_lhs => rw [← String.ofList_toList (s := text)]
  exact List.toList_data_toByteArray

theorem rowsOfBytes_toUTF8 (text : String) : rowsOfBytes text.toUTF8 = rowsOfText text := by
  have hrow : ∀ cs : List Char, rowOfBytes? (cs.flatMap String.utf8EncodeChar) = rowOfLine? cs := by
    intro cs
    rw [rowOfBytes?, fromUTF8?_utf8, Option.bind_some, String.toList_ofList]
  rw [rowsOfBytes, byteLines, toList_data_toUTF8, Text.lines_utf8, List.filterMap_map, rowsOfText]
  exact List.filterMap_congr fun cs _ => hrow cs

/-- **What a file of any bytes is read as**: the rows of its lines, if all of them are UTF-8. -/
theorem decode_eq (content : ByteArray) :
    decode content =
      if (byteLines content).all isText then .ok (rowsOfBytes content)
      else .error (.io .notUtf8) := by
  have hlines : (byteLines content).all isText = (String.fromUTF8? content).isSome := by
    rw [Bool.eq_iff_iff, List.all_eq_true, byteLines, ← isText_iff_lines, isText, toByteArray_data]
  rw [hlines]
  cases htext : String.fromUTF8? content with
  | none =>
    rw [decode, htext]
    rfl
  | some text =>
    have hcontent : content = text.toUTF8 := by
      unfold String.fromUTF8? at htext
      split at htext
      · rw [String.toUTF8_eq_toByteArray, ← Option.some.inj htext]
        rfl
      · cases htext
    rw [hcontent, decode_toUTF8, rowsOfBytes_toUTF8]
    rfl

/-- Rows that were written before any bytes are lines of their own. -/
theorem byteLines_encode_append (rows : List Row) (rest : ByteArray) :
    byteLines (encode rows ++ rest) =
      (rows.map fun row => (Json.chars row.json).flatMap String.utf8EncodeChar) ++
        byteLines rest := by
  have hbytes : (encode rows).data.toList = rows.flatMap fun row =>
      (Json.chars row.json).flatMap String.utf8EncodeChar ++ [10] := by
    rw [encode, toList_data_toUTF8, toList_join_rowLine, List.flatMap_assoc]
    simp only [List.flatMap_append, List.flatMap_singleton, Text.utf8EncodeChar_newline]
  have hinside : ∀ row ∈ rows, ∀ b ∈ (Json.chars row.json).flatMap String.utf8EncodeChar,
      (b == (10 : UInt8)) = false := by
    intro row _ b hb
    obtain ⟨c, hc, hb⟩ := List.mem_flatMap.1 hb
    rw [beq_eq_false_iff_ne]
    rintro rfl
    refine Text.newline_not_mem_utf8EncodeChar ?_ hb
    rintro rfl
    exact Json.newline_not_mem_chars row.json hc
  rw [byteLines, ByteArray.toList_data_append, hbytes, Text.lines_joined_append rfl hinside,
    byteLines]

theorem rowsOfBytes_encode_append (rows : List Row) (rest : ByteArray) :
    rowsOfBytes (encode rows ++ rest) = rows ++ rowsOfBytes rest := by
  have hrow : (rowOfBytes? ∘ fun row : Row =>
      (Json.chars row.json).flatMap String.utf8EncodeChar) = some := by
    funext row
    rw [Function.comp_apply, rowOfBytes?, fromUTF8?_utf8, Option.bind_some, String.toList_ofList,
      rowOfLine?_chars]
  rw [rowsOfBytes, byteLines_encode_append, List.filterMap_append, List.filterMap_map, hrow,
    List.filterMap_some, rowsOfBytes]

/-- Lines that were written as rows are UTF-8, so it is for the bytes behind them to be. -/
theorem all_isText_encode_append (rows : List Row) (rest : ByteArray) :
    (byteLines (encode rows ++ rest)).all isText = (byteLines rest).all isText := by
  rw [byteLines_encode_append, List.all_append, Bool.and_eq_right_iff_imp]
  intro _
  rw [List.all_eq_true]
  intro line hline
  obtain ⟨row, -, rfl⟩ := List.mem_map.1 hline
  rw [isText, fromUTF8?_utf8, Option.isSome_some]

/-! ## Opening -/

variable {directory : Path} {route : Route} {disk₀ disk₀' disk : Disk} {s₀ : DurableStore}
variable {content : ByteArray}

/-- A line that is not UTF-8 keeps the store from opening. -/
theorem openRoute_notUtf8 (ho : Opened directory route s₀) (hdirs : SameDirectories s₀.disk disk)
    (hread : disk.read? s₀.path = some content) {line : List UInt8}
    (hline : line ∈ byteLines content) (hnot : isText line = false) :
    openRoute directory route disk =
      (.error (.io .notUtf8), disk.put s₀.path (.file content)) := by
  have hrows : decode content = .error (.io .notUtf8) := by
    rw [decode_eq, if_neg fun hall => ?_]
    rw [List.all_eq_true.1 hall line hline] at hnot
    cases hnot
  rw [openRoute_again ho hdirs (by rw [hread, Option.getD_some]), hrows]
  rfl

/-- **Opening a file of any bytes.** At a place where a store was opened before, let a file of any
bytes stand. If each of its lines is UTF-8, a store opens, and its rows are those that the lines
spell, each line for itself, sorted by their timestamps with equal ones in the order of the lines.
If any line is not, no store opens. The file stays as it is. -/
theorem openRoute_bytes (h : openRoute directory route disk₀ = (.ok s₀, disk₀'))
    (hdirs : SameDirectories s₀.disk disk) (hread : disk.read? s₀.path = some content) :
    ((∀ line ∈ byteLines content, isText line = true) →
      ∃ s, openRoute directory route disk = (.ok s, s.disk) ∧ s.path = s₀.path ∧
        s.ledger.rows = Log.oldestFirst ((byteLines content).filterMap rowOfBytes?) ∧
        s.disk.read? s₀.path = some content) ∧
    ((∃ line ∈ byteLines content, isText line = false) →
      ∃ disk', openRoute directory route disk = (.error (.io .notUtf8), disk') ∧
        disk'.read? s₀.path = some content) := by
  obtain ⟨ho, -⟩ := openRoute_spec h
  constructor
  · intro hall
    have hrows : decode content = .ok (rowsOfBytes content) := by
      rw [decode_eq, if_pos (List.all_eq_true.2 hall)]
    obtain ⟨s, hopen, hpath, -, hledger, hread'⟩ :=
      reopen_spec ho hdirs (by rw [hread, Option.getD_some]) hrows
    refine ⟨s, hopen, hpath, ?_, hread'⟩
    rw [hledger, arranges_iff.1 (arranges_ofRows _), rowsOfBytes]
  · rintro ⟨line, hline, hnot⟩
    exact ⟨_, openRoute_notUtf8 ho hdirs hread hline hnot, Disk.read?_put_self
      (Disk.ne_nil_of_isDirectory (Disk.isDirectory_of_writable ho.writable)) _ _⟩

/-- A row, and behind its line one that breaks off in front of these bytes. -/
def brokenOff (rest : List UInt8) : ByteArray :=
  encode [⟨⟨"1", ⟨"2024"⟩, "up", "info", "api"⟩, "{}"⟩] ++
    ("\x7b\"caf".toUTF8 ++ rest.toByteArray)

theorem rowsOfBytes_brokenOff :
    rowsOfBytes (brokenOff []) = [⟨⟨"1", ⟨"2024"⟩, "up", "info", "api"⟩, "{}"⟩] ∧
      rowsOfBytes (brokenOff [0xC3]) = [⟨⟨"1", ⟨"2024"⟩, "up", "info", "api"⟩, "{}"⟩] := by
  rw [brokenOff, brokenOff, rowsOfBytes_encode_append, rowsOfBytes_encode_append]
  decide +kernel

/-- The line that breaks off is UTF-8 if it does not break off inside a character. -/
theorem all_isText_brokenOff :
    (byteLines (brokenOff [])).all isText = true ∧
      (byteLines (brokenOff [0xC3])).all isText = false := by
  rw [brokenOff, brokenOff, all_isText_encode_append, all_isText_encode_append]
  decide +kernel

theorem sameDirectories_root (content : ByteArray) :
    SameDirectories ⟨[(["logs.jsonl"], .file .empty)]⟩ ⟨[(["logs.jsonl"], .file content)]⟩ := by
  have hfree : (⟨[(["logs.jsonl"], .file .empty)]⟩ : Disk).isDirectory ["logs.jsonl"] = false := rfl
  exact Disk.sameDirectories_put hfree content

/-- A line that breaks off in a text spells no row, and the row before it is there. If it breaks off
    inside a character, no store opens. -/
theorem openRoute_bytes_broken_off :
    (∃ s, openRoute [] ⟨true, [.into "logs.jsonl"], false, 11, 1⟩
        ⟨[(["logs.jsonl"], .file (brokenOff []))]⟩ = (.ok s, s.disk) ∧
      s.ledger.rows = [⟨⟨"1", ⟨"2024"⟩, "up", "info", "api"⟩, "{}"⟩]) ∧
    ∃ disk', openRoute [] ⟨true, [.into "logs.jsonl"], false, 11, 1⟩
      ⟨[(["logs.jsonl"], .file (brokenOff [0xC3]))]⟩ = (.error (.io .notUtf8), disk') := by
  constructor
  · obtain ⟨s, hopen, -, hledger, -⟩ :=
      (openRoute_bytes (openRoute_root decode_empty) (sameDirectories_root _) rfl).1
        (List.all_eq_true.1 all_isText_brokenOff.1)
    refine ⟨s, hopen, ?_⟩
    rw [hledger, ← rowsOfBytes, rowsOfBytes_brokenOff.1, Log.oldestFirst, List.mergeSort_singleton]
  · have hnot : ∃ line ∈ byteLines (brokenOff [0xC3]), isText line = false := by
      simpa using all_isText_brokenOff.2
    obtain ⟨disk', hopen, -⟩ :=
      (openRoute_bytes (openRoute_root decode_empty) (sameDirectories_root _) rfl).2 hnot
    exact ⟨disk', hopen⟩

/-- A line that breaks off inside a character keeps the store from opening, though the line before
    it spells a row. -/
theorem not_openRoute_broken_off :
    (byteLines (brokenOff [0xC3])).filterMap rowOfBytes? =
        [⟨⟨"1", ⟨"2024"⟩, "up", "info", "api"⟩, "{}"⟩] ∧
      ¬∃ s disk', openRoute [] ⟨true, [.into "logs.jsonl"], false, 11, 1⟩
        ⟨[(["logs.jsonl"], .file (brokenOff [0xC3]))]⟩ = (.ok s, disk') := by
  refine ⟨rowsOfBytes_brokenOff.2, ?_⟩
  rintro ⟨s, disk', hopen⟩
  obtain ⟨ho, -⟩ := openRoute_spec (openRoute_root decode_empty)
  obtain ⟨line, hline, hnot⟩ : ∃ line ∈ byteLines (brokenOff [0xC3]), isText line = false := by
    simpa using all_isText_brokenOff.2
  rw [openRoute_notUtf8 ho (sameDirectories_root _) rfl hline hnot] at hopen
  cases hopen

end Logbook.DurableStore
