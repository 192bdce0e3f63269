import Logbook.Proofs.Json.ReadBack
import Logbook.Record

/-!
# Stored rows read back

A row written as an object is read back as the same row, whatever its texts hold, and the record of
a row can be built again if its attributes do not nest too deep. The text of a row is one line that
is not blank, so rows can be kept in a file with one row per line.

Results:

* `Row.read?_json`: the text of a row is read as that row.
* `Row.toRecord?_ofRecord`: the row of a record is made into the record again.
* `Json.clear_chars`: the text of a value has no control characters, so it is a single line.
-/

namespace Logbook

namespace Json

/-! ## Written values are lines -/

/-- No character of a text is a control character below the space. -/
def Clear (cs : List Char) : Prop :=
  ∀ c ∈ cs, 0x20 ≤ c.toNat

instance (cs : List Char) : Decidable (Clear cs) :=
  List.decidableBAll _ cs

section

variable {a b : List Char} {l s r : Char}

theorem Clear.joined (ha : Clear a) (hs : 0x20 ≤ s.toNat) (hb : Clear b) : Clear (a ++ s :: b) :=
  List.forall_mem_append.2 ⟨ha, List.forall_mem_cons.2 ⟨hs, hb⟩⟩

theorem Clear.enclosed (hl : 0x20 ≤ l.toNat) (ha : Clear a) (hr : 0x20 ≤ r.toNat) :
    Clear (l :: a ++ [r]) :=
  Clear.joined (List.forall_mem_cons.2 ⟨hl, ha⟩) hr (List.forall_mem_nil _)

theorem Clear.not_mem {c : Char} (h : Clear a) (hc : c.toNat < 0x20) : c ∉ a :=
  fun hmem => absurd (h c hmem) (Nat.not_le.2 hc)

end

theorem clear_stringText (s : String) : Clear (stringText s) := by
  refine Clear.enclosed (by decide) (fun d hd => ?_) (by decide)
  obtain ⟨c, -, hd⟩ := List.mem_flatMap.1 hd
  exact le_toNat_of_mem_escaped hd

theorem clear_numberText (n : Number) : Clear (numberText n) := by
  have hsigns : Clear ['-', '+', '.', 'e'] := by decide
  intro c hc
  rw [numberText_eq] at hc
  rcases n.proper_numeral.mem_chars hc with hdigit | hsign
  · rw [Logbook.Number.isDigit, Bool.and_eq_true, decide_eq_true_iff] at hdigit
    omega
  · exact hsigns c hsign

mutual

/-- **The text of a value has no control characters.** -/
theorem clear_chars (v : Json) : Clear (chars v) := by
  match v with
  | .null => decide
  | .bool true => decide
  | .bool false => decide
  | .number n => exact clear_numberText n
  | .string s => exact clear_stringText s
  | .array items => exact (clear_itemChars items).enclosed (by decide) (by decide)
  | .object ms => exact (clear_memberChars ms).enclosed (by decide) (by decide)

theorem clear_itemChars (items : List Json) : Clear (itemChars items) := by
  match items with
  | [] => exact List.forall_mem_nil _
  | [v] => exact clear_chars v
  | v :: w :: rest => exact (clear_chars v).joined (by decide) (clear_itemChars (w :: rest))

theorem clear_memberChars (ms : List (String × Json)) : Clear (memberChars ms) := by
  match ms with
  | [] => exact List.forall_mem_nil _
  | [(k, v)] => exact (clear_stringText k).joined (by decide) (clear_chars v)
  | (k, v) :: m :: rest =>
    have hfirst := (clear_stringText k).joined (s := ':') (by decide) (clear_chars v)
    exact hfirst.joined (by decide) (clear_memberChars (m :: rest))

end

/-- **The text of a value is a single line.** -/
theorem newline_not_mem_chars (v : Json) : '\n' ∉ chars v :=
  (clear_chars v).not_mem (by decide)

end Json

namespace Row

/-! ## Rows -/

theorem members?_memberDocuments (ms : List (String × Json)) :
    (Json.Document.object (Json.memberDocuments ms)).members? =
      some (ms.map fun m => (m.1, Json.document m.2)) := by
  induction ms with
  | nil => rfl
  | cons m ms ih =>
    obtain ⟨k, v⟩ := m
    simp only [Json.Document.members?] at ih
    simp only [Json.memberDocuments, Json.Document.members?, List.mapM_cons, ih,
      Json.unescape?_escaped, Option.map_some, String.ofList_toList]
    rfl

theorem text?_document (s : String) : (Json.document (.string s)).text? = some s := by
  rw [Json.document, Json.Document.text?, Json.unescape?_escaped, Option.map_some,
    String.ofList_toList]

theorem parts?_document (row : Row) :
    (Json.document row.json).parts? (Header.names ++ ["data"]) =
      some ([row.id, row.timestamp.text, row.message, row.level, row.service, row.data].map
        fun s => some (Json.document (.string s))) := by
  have hms := members?_memberDocuments (row.members ++ [("data", .string row.data)])
  rw [json, Json.document, Json.Document.parts?, hms]
  · simp [Header.names, Header.members]
  · rintro items ⟨⟩

/-- **A written row is read back as it was**, whatever its texts hold. -/
theorem read?_json (row : Row) : read? (Json.text row.json) = some row := by
  have hdoc : Json.Document.read? (Json.text row.json).toList = some (Json.document row.json) := by
    rw [Json.text, String.toList_ofList, Json.Document.read?_chars]
  rw [read?, hdoc, Option.bind_eq_bind, Option.bind_some, ofDocument?, parts?_document]
  simp [text?_document, Header.ofTexts?]

/-- **The row of a record is made into the record again**, with its attributes merged, if they do
not nest too deep. -/
theorem toRecord?_ofRecord {r : Record} (h : Json.depth (.object r.attributes) ≤ Json.maxDepth) :
    (ofRecord r).toRecord? =
      some ⟨r.toHeader, Entries.ofPairs (Json.mergedMembers r.attributes)⟩ := by
  have hne : Json.text (.object r.attributes) ≠ "" := by
    intro hempty
    have := congrArg String.toList hempty
    rw [Json.text, String.toList_ofList, Json.chars] at this
    simp at this
  rw [toRecord?, ofRecord, if_neg hne, Json.readObject?_text h]
  rfl

end Row

end Logbook
