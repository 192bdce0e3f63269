import Logbook.Proofs.Search.Retrieval
import Logbook.Proofs.Text.Sigma

/-!
# Texts found as they stand

A search ignores case by comparing texts in lower case, so whatever has the same lower case is
found. A text that stands in another one with the very same characters should be found in any case.
It is where it is lowered as it is by itself: by a term for all fields in what the record shows, by
a term for one field in that field, and by a selection in the header of a row.

**Deviation.** A capital sigma at the end of a word has a lower case of its own, and what is the end
of a word in the text that is looked for need not be one where it stands. So a text with a capital
sigma may be missed although it stands in a record as it is. The texts that are always found are
those of which every capital sigma is settled: nothing that stands around them changes its lower
case.

Results:

* `foundByText_iff`, `foundByField_iff`, `foundBySelection_iff`: each of the searches finds exactly
  what stands in lower case.
* `found_verbatim`: when a text that stands in another one is found.
* `longer_word_missed`: a word that stands in a longer one and is missed.
-/

namespace Logbook

/-! ## Places -/

/-- A piece stands in a text, with the very same characters. -/
def Text.Stands (piece s : String) : Prop :=
  piece.toList <:+: s.toList

/-- A piece stands in a text, with the very same characters, where it is lowered as it is by
    itself. -/
def Text.StandsAlike (piece s : String) : Prop :=
  ∃ a b, s.toList = a ++ piece.toList ++ b ∧ KeepsCase a.reverse piece.toList b

/-- The texts of a record: its message, its level, its service, and its attributes that are strings
    and not hidden behind the header. -/
def Record.Shows (r : Record) (s : String) : Prop :=
  s = r.message ∨ s = r.level ∨ s = r.service ∨
    ∃ name, (name, Json.string s) ∈ r.attributes ∧ name ∉ Header.names

open Text (Stands StandsAlike Settled folded occurs_iff)

theorem Text.StandsAlike.folded_infix {piece s : String} (h : StandsAlike piece s) :
    folded piece <:+: folded s := by
  obtain ⟨a, b, hs, hkeeps⟩ := h
  rw [folded, folded, hs]
  exact lower_infix_of_keepsCase hkeeps

/-- The pieces of which every sigma is settled are found in lower case wherever they stand. -/
theorem Text.settled_iff_folded {piece : String} :
    Settled piece.toList ↔ ∀ s, Stands piece s → folded piece <:+: folded s := by
  rw [← sealed_iff_settled]
  constructor
  · exact fun h s hstands => h s.toList hstands
  · intro h cs hstands
    have hfound := h (String.ofList cs) (by rwa [Stands, String.toList_ofList])
    rwa [folded, folded, String.toList_ofList] at hfound

/-! ## Searches -/

section Searches

variable (piece : String) (place : String → Prop)

/-- A term for all fields finds the piece in the texts of a record. -/
def FoundByText : Prop :=
  ∀ (r : Record) (s : String), r.Shows s → place s →
    ∀ negated, Term.hits ⟨.text, piece, negated⟩ r = true

/-- A term for a part of one field finds the piece in the text that the field shows. -/
def FoundByField : Prop :=
  ∀ (r : Record) (key : String) (v : Json), r.field? key = some v → place v.display →
    ∀ negated, Term.hits ⟨.contains key, piece, negated⟩ r = true

/-- A selection with the piece finds it in the message, the level and the service of a row: the row
    belongs to the selection if it meets the restriction. -/
def FoundBySelection : Prop :=
  ∀ (row : Row) (s : String), s ∈ [row.message, row.level, row.service] → place s →
    ∀ restriction limit offset,
      Selection.admits ⟨restriction, some piece, limit, offset⟩ row = restriction.admits row

end Searches

variable {piece : String} {place : String → Prop}

/-- The record that shows nothing but a message. -/
def Record.ofMessage (s : String) : Record :=
  ⟨⟨"", ⟨""⟩, s, "", ""⟩, []⟩

/-- The row that shows nothing but a message. -/
def Row.ofMessage (s : String) : Row :=
  ⟨⟨"", ⟨""⟩, s, "", ""⟩, ""⟩

theorem infix_of_eq_or_empty {q : List Char} {s t : String} (ht : t = s ∨ t = "")
    (h : q <:+: folded t) : q <:+: folded s := by
  rcases ht with rfl | rfl
  · exact h
  · rw [List.infix_nil.1 h]
    exact List.nil_infix

theorem Record.Shows.mem_fields {r : Record} {s : String} (h : r.Shows s) :
    ∃ name, (name, Json.string s) ∈ r.fields := by
  have hheader : ∀ name, (name, Json.string s) ∈ r.members → (name, Json.string s) ∈ r.fields :=
    fun name hmem => List.mem_append_left _ hmem
  rcases h with rfl | rfl | rfl | ⟨name, hmem, hname⟩
  · exact ⟨"message", hheader _ (by simp [Header.members])⟩
  · exact ⟨"level", hheader _ (by simp [Header.members])⟩
  · exact ⟨"service", hheader _ (by simp [Header.members])⟩
  · refine ⟨name, List.mem_append_right _ (List.mem_filter.2 ⟨hmem, ?_⟩)⟩
    simpa [isCanonical] using hname

/-- **A term for all fields finds exactly what stands in lower case.** -/
theorem foundByText_iff :
    FoundByText piece place ↔ ∀ s, place s → folded piece <:+: folded s := by
  constructor
  · intro h s hplace
    have hhits := h (Record.ofMessage s) s (Or.inl rfl) hplace false
    rw [Term.hits, List.any_eq_true] at hhits
    obtain ⟨⟨name, v⟩, hm, hin⟩ := hhits
    have hshown : ∃ t, v = .string t ∧ (t = s ∨ t = "") := by
      simp only [Record.fields, Record.ofMessage, Header.members, List.filter_nil,
        List.append_nil, List.mem_cons, List.not_mem_nil, or_false, Prod.mk.injEq] at hm
      rcases hm with ⟨-, rfl⟩ | ⟨-, rfl⟩ | ⟨-, rfl⟩ | ⟨-, rfl⟩ | ⟨-, rfl⟩ <;> simp
    obtain ⟨t, rfl, ht⟩ := hshown
    exact infix_of_eq_or_empty ht (occurs_iff.1 hin)
  · intro h r s hshows hplace negated
    obtain ⟨name, hmem⟩ := hshows.mem_fields
    exact List.any_eq_true.2 ⟨_, hmem, occurs_iff.2 (h s hplace)⟩

/-- **A term for a part of one field finds exactly what stands in lower case.** -/
theorem foundByField_iff :
    FoundByField piece place ↔ ∀ s, place s → folded piece <:+: folded s := by
  constructor
  · intro h s hplace
    exact occurs_iff.1 (h (Record.ofMessage s) "message" (.string s) rfl hplace false)
  · intro h r key v hfield hplace negated
    show (r.field? key).any _ = true
    rw [hfield]
    exact occurs_iff.2 (h v.display hplace)

/-- **A selection finds exactly what stands in lower case.** -/
theorem foundBySelection_iff :
    FoundBySelection piece place ↔ ∀ s, place s → folded piece <:+: folded s := by
  constructor
  · intro h s hplace
    have hadmits := h (Row.ofMessage s) s List.mem_cons_self hplace Restriction.none none none
    have hcontains : Selection.rowContains piece (Row.ofMessage s) = true := by
      simpa [Selection.admits, Restriction.admits, Restriction.none] using hadmits
    obtain ⟨text, htext, hin⟩ := Row.mentions_iff.2 hcontains
    have hshown : text = s ∨ text = "" := by simpa [Row.ofMessage] using htext
    exact infix_of_eq_or_empty hshown hin
  · intro h row s hmem hplace restriction limit offset
    have hmentions : row.Mentions piece := by
      refine ⟨s, ?_, h s hplace⟩
      simp only [List.mem_cons, List.not_mem_nil, or_false] at hmem ⊢
      tauto
    rw [Selection.admits, Option.all_some, Row.mentions_iff.1 hmentions, Bool.and_true]

/-! ## Results -/

/-- **When a text that stands in another one is found.** All three searches find it where it is
lowered as it is by itself. Each of them finds it wherever it stands exactly if every capital sigma
of it is settled, so in particular if it has none. -/
theorem found_verbatim (piece : String) :
    (FoundByText piece (StandsAlike piece) ∧ FoundByField piece (StandsAlike piece) ∧
      FoundBySelection piece (StandsAlike piece)) ∧
    (FoundByText piece (Stands piece) ↔ Settled piece.toList) ∧
    (FoundByField piece (Stands piece) ↔ Settled piece.toList) ∧
    (FoundBySelection piece (Stands piece) ↔ Settled piece.toList) := by
  have halike : ∀ s, StandsAlike piece s → folded piece <:+: folded s :=
    fun _ h => h.folded_infix
  rw [Text.settled_iff_folded]
  exact ⟨⟨foundByText_iff.2 halike, foundByField_iff.2 halike, foundBySelection_iff.2 halike⟩,
    foundByText_iff, foundByField_iff, foundBySelection_iff⟩

/-- A word that ends in a capital sigma is found in front of a space. -/
theorem word_found :
    StandsAlike "ΘΕΣ" "Η ΘΕΣ Η" ∧
      Term.hits ⟨.text, "ΘΕΣ", false⟩ (Record.ofMessage "Η ΘΕΣ Η") = true ∧
      Term.hits ⟨.contains "message", "ΘΕΣ", false⟩ (Record.ofMessage "Η ΘΕΣ Η") = true ∧
      Selection.admits ⟨Restriction.none, some "ΘΕΣ", none, none⟩ (Row.ofMessage "Η ΘΕΣ Η") =
        true := by
  have halike : StandsAlike "ΘΕΣ" "Η ΘΕΣ Η" :=
    ⟨"Η ".toList, " Η".toList, by decide, by decide +kernel⟩
  obtain ⟨⟨htext, hfield, hselection⟩, -⟩ := found_verbatim "ΘΕΣ"
  exact ⟨halike, htext _ _ (Or.inl rfl) halike false,
    hfield _ "message" (.string "Η ΘΕΣ Η") rfl halike false,
    hselection _ _ List.mem_cons_self halike Restriction.none none none⟩

/-- **A word may be missed in a longer one**, although it stands there with the very same
characters. -/
theorem longer_word_missed :
    Stands "ΘΕΣ" "ΘΕΣΗ" ∧ (Record.ofMessage "ΘΕΣΗ").Shows "ΘΕΣΗ" ∧
      Term.hits ⟨.text, "ΘΕΣ", false⟩ (Record.ofMessage "ΘΕΣΗ") = false ∧
      (Record.ofMessage "ΘΕΣΗ").field? "message" = some (.string "ΘΕΣΗ") ∧
      Term.hits ⟨.contains "message", "ΘΕΣ", false⟩ (Record.ofMessage "ΘΕΣΗ") = false ∧
      Selection.admits ⟨Restriction.none, some "ΘΕΣ", none, none⟩ (Row.ofMessage "ΘΕΣΗ") =
        false :=
  ⟨⟨[], ['Η'], by decide⟩, Or.inl rfl, by decide +kernel, rfl, by decide +kernel,
    by decide +kernel⟩

end Logbook
