import Logbook.Proofs.Intake
import Logbook.Proofs.Payload
import Logbook.Proofs.Query.ReadBack

/-!
# Fields found by their own queries

A field of a record can be asked for by its name and by the text that it shows: `name:"text"`. The
record answers that query and does not answer its negation. Attributes of a payload are fields of
its record, and stay so when the record is stored as a row, so each of them can be found.

Results:

* `Query.terms_keyed`, `Query.terms_negated_keyed`: what the query for a field reads as.
* `Record.holds_keyed`: a record answers the query for any field that it has.
* `Payload.attribute_findable`: every attribute taken in is found by its own query.
-/

namespace Logbook

namespace Query

open Term (Style WritableKey)

theorem writableKey_negated {key : List Char} (h : WritableKey false key) :
    WritableKey true key where
  no_colon := h.no_colon
  no_space := h.no_space
  no_quote := h.no_quote
  trimmed := h.trimmed
  sign := fun _ => rfl

variable {key value : String}

theorem terms_keyed (hkey : WritableKey false key.toList) (hvalue : '"' ∉ value.toList) :
    terms (key ++ ":\"" ++ value ++ "\"") = [⟨.equals key, value, false⟩] := by
  have hwritable : Term.Writable .quoted ⟨.equals key, value, false⟩ := ⟨hkey, hvalue⟩
  have hchars : (key ++ ":\"" ++ value ++ "\"").toList =
      Term.chars .quoted ⟨.equals key, value, false⟩ := by
    simp [Term.chars, Term.body, Style.chars]
  rw [terms, hchars]
  exact termsOf_single hwritable

theorem terms_negated_keyed (hkey : WritableKey false key.toList) (hvalue : '"' ∉ value.toList) :
    terms ("-" ++ key ++ ":\"" ++ value ++ "\"") = [⟨.equals key, value, true⟩] := by
  have hwritable : Term.Writable .quoted ⟨.equals key, value, true⟩ :=
    ⟨writableKey_negated hkey, hvalue⟩
  have hchars : ("-" ++ key ++ ":\"" ++ value ++ "\"").toList =
      Term.chars .quoted ⟨.equals key, value, true⟩ := by
    simp [Term.chars, Term.body, Style.chars]
  rw [terms, hchars]
  exact termsOf_single hwritable

end Query

namespace Record

/-- **A record answers the query for a field that it has**, by the text that the field shows, and
does not answer the negated query. -/
theorem holds_keyed {r : Record} {key : String} {v : Json} (hfield : r.field? key = some v)
    (hkey : Term.WritableKey false key.toList) (hshown : '"' ∉ v.display.toList) :
    Query.holds (Query.terms (key ++ ":\"" ++ v.display ++ "\"")) r = true ∧
      Query.holds (Query.terms ("-" ++ key ++ ":\"" ++ v.display ++ "\"")) r = false := by
  have hhits : ∀ negated, Term.hits ⟨.equals key, v.display, negated⟩ r = true := by
    intro negated
    simp [Term.hits, hfield]
  constructor
  · rw [Query.terms_keyed hkey hshown]
    simp [Query.holds, Term.holds, hhits]
  · rw [Query.terms_negated_keyed hkey hshown]
    simp [Query.holds, Term.holds, hhits]

end Record

namespace Payload

/-- **Every attribute taken in is found by its own query.** An object that a text spells becomes a
record, the record a row, and the row a record again. That record answers the query of the name of
any member that no header field claims, with the text that its value shows between quotation marks,
and does not answer the negated query. The name must be one that can be written before a colon, and
the text must hold no quotation mark. -/
theorem attribute_findable (stamp : Stamp) (transport : Option Transport) {ms : Json.Members}
    (hspelled : ∃ text, Json.read? text = some (.object ms)) {key : String} {v : Json}
    (hmember : Entries.get? ms key = some v) (hheader : key ∉ Header.names)
    (hkey : Term.WritableKey false key.toList) (hshown : '"' ∉ v.display.toList) :
    ∃ r, (Row.ofRecord (record stamp transport (.object ms))).toRecord? = some r ∧
      Query.holds (Query.terms (key ++ ":\"" ++ v.display ++ "\"")) r = true ∧
      Query.holds (Query.terms ("-" ++ key ++ ":\"" ++ v.display ++ "\"")) r = false := by
  obtain ⟨hdistinct, hdepth⟩ := Json.exists_read?_iff.1 hspelled
  have hback := Row.toRecord?_ofRecord_eq_self (fits_record stamp transport hdistinct hdepth)
  have hfield := field?_record stamp transport ms hheader
  rw [hmember] at hfield
  exact ⟨_, hback, Record.holds_keyed hfield hkey hshown⟩

/-- A value that is no string is found by the text that it is written as. -/
theorem attribute_findable_array :
    ∃ r, (Row.ofRecord (record ⟨"1", 0⟩ none (.object
        [("message", .string "up"), ("Größe*", .array [.bool true, .null])]))).toRecord? = some r ∧
      Query.holds (Query.terms "Größe*:\"[true,null]\"") r = true ∧
      Query.holds (Query.terms "-Größe*:\"[true,null]\"") r = false := by
  have hspelled : ∃ text, Json.read? text = some (.object
      [("message", .string "up"), ("Größe*", .array [.bool true, .null])]) := by
    rw [Json.exists_read?_iff]
    simp [Json.Distinct, Json.DistinctItems, Json.DistinctMembers, Entries.names, Json.depth,
      Json.itemDepth, Json.memberDepth, Json.maxDepth]
  have hshown : (Json.array [.bool true, .null]).display = "[true,null]" := by
    simp [Json.display, Json.text, Json.chars, Json.itemChars]
  have hmember : Entries.get?
      [("message", .string "up"), ("Größe*", .array [.bool true, .null])] "Größe*" =
      some (Json.array [.bool true, .null]) := rfl
  have hfound := attribute_findable ⟨"1", 0⟩ none hspelled hmember (by decide) (by decide)
    (by rw [hshown]; decide)
  rwa [hshown] at hfound

end Payload

end Logbook
