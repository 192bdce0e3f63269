import Logbook.Proofs.Row
import Logbook.Proofs.Text.Lines
import Logbook.Store.Durable

/-!
# The file of a durable store

Rows written as lines are read back as the same rows in the same order, whatever their texts hold:
a line end inside a text is escaped, so each line is one row, and no line is blank.

Results:

* `DurableStore.decode_encode`: the file of some rows is read as these rows.
* `DurableStore.encode_append`: adding rows to a file adds their lines at its end.
* `DurableStore.size_encode`: a file is as long as its lines together.
-/

namespace Logbook

namespace DurableStore

/-! ## Lines -/

theorem toList_rowLine (row : Row) : (rowLine row).toList = Json.chars row.json ++ ['\n'] := by
  rw [rowLine, String.toList_append, Json.text, String.toList_ofList]
  rfl

theorem rowOfLine?_chars (row : Row) : rowOfLine? (Json.chars row.json) = some row := by
  have hbegin : Text.allBlank (Json.chars row.json) = false := by
    rw [Row.json, Json.chars, Text.allBlank]
    rfl
  rw [rowOfLine?, hbegin]
  exact Row.read?_json row

theorem toList_join_rowLine (rows : List Row) :
    (String.join (rows.map rowLine)).toList =
      rows.flatMap fun row => Json.chars row.json ++ ['\n'] := by
  simp only [String.toList_join, List.flatMap_map, toList_rowLine]

/-- Lines of rows are read as the rows. -/
theorem rowsOfText_join (rows : List Row) :
    rowsOfText (String.join (rows.map rowLine)) = rows := by
  have hinside : ∀ row ∈ rows, ∀ c ∈ Json.chars row.json, (c == '\n') = false := by
    intro row _ c hc
    rw [beq_eq_false_iff_ne]
    rintro rfl
    exact Json.newline_not_mem_chars row.json hc
  rw [rowsOfText, toList_join_rowLine, Text.lines_joined rfl hinside, List.filterMap_map]
  simp only [Function.comp_def, rowOfLine?_chars, List.filterMap_some]

/-! ## Files -/

theorem fromUTF8?_toUTF8 (s : String) : String.fromUTF8? s.toUTF8 = some s := by
  rw [String.fromUTF8?, String.toUTF8_eq_toByteArray, dif_pos s.isValidUTF8]
  rfl

/-- A file of text is read line by line. -/
theorem decode_toUTF8 (text : String) : decode text.toUTF8 = .ok (rowsOfText text) := by
  rw [decode, fromUTF8?_toUTF8]

/-- **The file of some rows is read as these rows.** -/
theorem decode_encode (rows : List Row) : decode (encode rows) = .ok rows := by
  rw [encode, decode_toUTF8, rowsOfText_join]

theorem encode_nil : encode [] = .empty := by
  rw [encode, List.map_nil, String.join_nil]
  rfl

theorem decode_empty : decode .empty = .ok [] :=
  encode_nil ▸ decode_encode []

theorem encode_append (rows more : List Row) :
    encode (rows ++ more) = encode rows ++ encode more := by
  simp only [encode, List.map_append, String.join_append, String.toUTF8_eq_toByteArray,
    String.toByteArray_append]

theorem size_encode (rows : List Row) :
    (encode rows).size = (rows.map fun row => (rowLine row).utf8ByteSize).sum := by
  rw [encode, String.toUTF8_eq_toByteArray, String.size_toByteArray]
  induction rows with
  | nil => rfl
  | cons row rows ih =>
    rw [List.map_cons, String.join_cons, String.utf8ByteSize_append, ih, List.map_cons,
      List.sum_cons]

end DurableStore

end Logbook
