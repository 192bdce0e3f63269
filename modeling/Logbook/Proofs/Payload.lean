import Logbook.Payload
import Logbook.Proofs.Json.ReadBack

/-!
# Records of payloads

Whatever a payload holds, its record has a message, a level and a service that are not empty: a
value counts only if it shows something, and what stands in for missing ones is not empty either.
Its timestamp is that of an instant, or the mark, or a text of the payload that looked like a date;
in all three cases a payload that gives it as its own timestamp gets the same one again.

Results:

* `Json.text_ne_empty`, `display_ne_empty`: a written value is not empty, nor is what a present
  value shows.
* `populated_record`: the texts of a record are not empty.
* `field?_record`: the attributes of a payload are fields of its record.
* `timestamp_cases`: what timestamps payloads get.
* `record_timestamp`: which member of a payload gives its record the timestamp.
* `timestamp_of_timestamp`, `timestamp_of_record`: a timestamp that a payload got is kept by the
  next one.
-/

namespace Logbook

theorem Json.text_ne_empty (v : Json) : v.text ≠ "" := by
  intro h
  have hchars : chars v = [] := by
    rw [text] at h
    simpa using congrArg String.toList h
  have hread := Document.read?_chars v
  rw [hchars] at hread
  simp [Document.read?, tokens?, Document.ofTokens?, Document.State.finished?] at hread

/-- The texts of a record are not empty. -/
structure Record.Populated (r : Record) : Prop where
  message : r.message ≠ ""
  level : r.level ≠ ""
  service : r.service ≠ ""

namespace Payload

/-! ## Texts -/

theorem display_ne_empty {v : Json} (h : isPresent v = true) : v.display ≠ "" := by
  cases v with
  | string s => simpa [isPresent, Json.display] using h
  | null => exact absurd h (by simp [isPresent])
  | bool b => exact Json.text_ne_empty _
  | number n => exact Json.text_ne_empty _
  | array items => exact Json.text_ne_empty _
  | object ms => exact Json.text_ne_empty _

/-- What a field under several names shows is not empty, if what stands in for it is not. -/
theorem display_firstPresent?_ne_empty (ms : Json.Members) (names : List String) {fallback : String}
    (h : fallback ≠ "") : ((firstPresent? ms names).getD (.string fallback)).display ≠ "" := by
  cases hfound : firstPresent? ms names with
  | none => exact h
  | some v => exact display_ne_empty (List.find?_some hfound)

theorem firstPresent?_of_present {ms : Json.Members} {name : String} {v : Json}
    (h : ms.get? name = some v) (hpresent : isPresent v = true) (others : List String) :
    firstPresent? ms (name :: others) = some v := by
  rw [firstPresent?, List.filterMap_cons_some h, List.find?_cons_of_pos hpresent]

theorem firstPresent?_of_absent {ms : Json.Members} {name : String}
    (h : ∀ v ∈ ms.get? name, isPresent v = false) (others : List String) :
    firstPresent? ms (name :: others) = firstPresent? ms others := by
  rw [firstPresent?, firstPresent?]
  cases hvalue : ms.get? name with
  | none => rw [List.filterMap_cons_none hvalue]
  | some v =>
    have hpassed : ¬ isPresent v = true := by
      rw [h v hvalue]
      exact Bool.false_ne_true
    rw [List.filterMap_cons_some hvalue, List.find?_cons_of_neg hpassed]

theorem transportService?_ne_empty {transport : Option Transport} {s : String}
    (h : transportService? transport = some s) : s ≠ "" := by
  have := (Option.filter_eq_some_iff.1 h).2
  simpa using this

/-- **The texts of a record are not empty**, whatever its payload. -/
theorem populated_record (stamp : Stamp) (transport : Option Transport) (v : Json) :
    (record stamp transport v).Populated := by
  by_cases hobject : ∃ ms, v = .object ms
  · obtain ⟨ms, rfl⟩ := hobject
    refine ⟨display_firstPresent?_ne_empty ms _ (Json.text_ne_empty _),
      display_firstPresent?_ne_empty ms _ (by decide), ?_⟩
    show (recordOfObject stamp transport ms).service ≠ ""
    rw [recordOfObject]
    split
    · rename_i s h
      exact transportService?_ne_empty h
    · exact display_firstPresent?_ne_empty ms _ (by decide)
  · rw [record_of_not_object stamp transport (not_exists.1 hobject)]
    refine ⟨?_, ?_, ?_⟩
    · show (if v.display = "" then v.text else v.display) ≠ ""
      by_cases h : v.display = ""
      · rw [if_pos h]
        exact v.text_ne_empty
      · rwa [if_neg h]
    · show defaultLevel ≠ ""
      decide
    · show (transportService? transport).getD defaultService ≠ ""
      cases h : transportService? transport with
      | none => decide
      | some s => exact transportService?_ne_empty h

/-! ## Attributes -/

/-- **The members of an object that no header field claims are fields of its record**, with their
values. -/
theorem field?_record (stamp : Stamp) (transport : Option Transport) (ms : Json.Members)
    {key : String} (hkey : key ∉ Header.names) :
    (record stamp transport (.object ms)).field? key = Entries.get? ms key := by
  have hkept : isAttribute key = true := by
    simp [isAttribute, Record.isCanonical, hkey]
  rw [Record.field?_of_not_canonical _ hkey]
  exact Entries.get?_filter hkept ms

/-! ## Timestamps -/

/-- The timestamp of a number of milliseconds is that of an instant, or the mark. -/
theorem timestampOfReal_cases (ms : Option Number.Binary64) :
    (∃ n, timestampOfReal ms = .ofMillis n) ∨ timestampOfReal ms = .invalid := by
  unfold timestampOfReal
  cases ms with
  | none => exact Or.inr rfl
  | some x =>
    by_cases h : x.magnitudeBelow Number.integerLimit = true
    · exact Or.inl ⟨x.truncate, if_pos h⟩
    · exact Or.inr (if_neg h)

/-- **What timestamps payloads get**: that of an instant, the mark, or a text of the payload with a
minus sign in it. -/
theorem timestamp_cases (now : Int) (v : Option Json) :
    (∃ n, timestamp now v = .ofMillis n) ∨ timestamp now v = .invalid ∨
      ∃ s, v = some (.string s) ∧ '-' ∈ s.toList ∧ timestamp now v = ⟨s⟩ := by
  have hreal : ∀ ms, (∃ n, timestampOfReal ms = .ofMillis n) ∨ timestampOfReal ms = .invalid ∨
      ∃ s, v = some (.string s) ∧ '-' ∈ s.toList ∧ timestampOfReal ms = ⟨s⟩ := by
    intro ms
    exact (timestampOfReal_cases ms).imp_right Or.inl
  unfold timestamp
  split
  · split
    · exact Or.inl ⟨_, rfl⟩
    · exact hreal _
  · exact hreal _
  · rename_i s
    split
    · rename_i hminus
      exact Or.inr (Or.inr ⟨s, rfl, List.contains_iff_mem.1 hminus, rfl⟩)
    · split
      · exact Or.inl ⟨_, rfl⟩
      · exact hreal _
  · exact Or.inl ⟨_, rfl⟩

theorem minus_mem_canonicalText (ms : Nat) (leap : Bool) : '-' ∈ Time.canonicalText ms leap := by
  simp [Time.canonicalText]

theorem minus_mem_ofMillis (ms : Int) :
    '-' ∈ (Timestamp.ofMillis ms).text.toList ∨ Timestamp.ofMillis ms = .invalid := by
  unfold Timestamp.ofMillis Timestamp.ofInstant
  split
  · left
    rw [String.toList_ofList]
    exact minus_mem_canonicalText _ _
  · exact Or.inr rfl

/-- **A timestamp that a payload got is kept** when another payload gives it as its own. -/
theorem timestamp_of_timestamp (now now' : Int) (v : Option Json) :
    timestamp now' (some (.string (timestamp now v).text)) = timestamp now v := by
  have hdate : ∀ t : Timestamp, '-' ∈ t.text.toList →
      timestamp now' (some (.string t.text)) = t := by
    intro t h
    simp only [timestamp]
    rw [if_pos (List.contains_iff_mem.2 h)]
  have hmark : timestamp now' (some (.string Timestamp.invalid.text)) = .invalid := by
    simp [timestamp, Timestamp.invalid, leadingNumber?, Text.trimStart, Text.isBlank,
      isNumeralChar, Number.isDigit, longestNumeral?, timestampOfReal]
  rcases timestamp_cases now v with ⟨n, h⟩ | h | ⟨s, -, hminus, h⟩
  · rw [h]
    rcases minus_mem_ofMillis n with hn | hn
    · exact hdate _ hn
    · rw [hn]
      exact hmark
  · rw [h]
    exact hmark
  · rw [h]
    exact hdate ⟨s⟩ hminus

/-- The value that a payload gives as its timestamp; only an object gives one. -/
def timestampMember : Json → Option Json
  | .object ms => Entries.get? ms "timestamp"
  | _ => none

theorem record_timestamp (stamp : Stamp) (transport : Option Transport) (v : Json) :
    (record stamp transport v).timestamp = timestamp stamp.now (timestampMember v) := by
  cases v <;> rfl

theorem timestamp_of_record (stamp : Stamp) (transport : Option Transport) (v : Json) (now : Int) :
    timestamp now (some (.string (record stamp transport v).timestamp.text)) =
      (record stamp transport v).timestamp := by
  rw [record_timestamp]
  exact timestamp_of_timestamp stamp.now now (timestampMember v)

end Payload

end Logbook
