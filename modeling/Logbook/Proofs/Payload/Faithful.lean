import Logbook.Proofs.Feed
import Logbook.Proofs.Payload
import Logbook.Proofs.Time.Canonical

/-!
# What a record keeps of its payload

Whatever a payload is, its record can be shown and ordered: its texts are not empty and its
timestamp is canonical, or the mark, or a text of the payload that looks like a date. And nothing
that an object holds is lost or changed. Its members become attributes in their order, but for the
four that a header field stands for, and every one of them that has no name of a header field is
found as a field of the record, with its value. A value that is no object is the message of its
record and leaves no attributes.

Results:

* `timestamp_record`: what timestamps records have.
* `service_record`: the service that the transport names is that of the record.
* `attributes_record`: the members of an object that become attributes.
* `records_faithful`: every record of a payload keeps what the payload holds.
-/

namespace Logbook.Payload

open Time.Instant (InYears)

/-- The names of the members of an object that become no attributes. -/
def claimedNames : List String := ["timestamp", "message", "level", "service"]

/-- A canonical timestamp shows an instant of the years that timestamps can show. -/
def IsCanonical (t : Timestamp) : Prop :=
  ∃ n, InYears n ∧ t = .ofMillis n ∧ t.text.length = 24

/-- A text that an object gives as its timestamp and that looks like a date. -/
def GivesDate (v : Json) (s : String) : Prop :=
  timestampMember v = some (.string s) ∧ '-' ∈ s.toList

/-- A record is well formed and keeps what its payload holds. -/
structure Faithful (transport : Option Transport) (v : Json) (r : Record) : Prop where
  populated : r.Populated
  /-- The service that the transport names, if it is not empty. -/
  service : ∀ t ∈ transport, ∀ s ∈ t.service, s ≠ "" → r.service = s
  timestamp : IsCanonical r.timestamp ∨ r.timestamp = .invalid ∨ GivesDate v r.timestamp.text
  /-- A text that looks like a date is kept. -/
  date : ∀ s, GivesDate v s → r.timestamp.text = s
  /-- The members of an object in their order, but for those that the header stands for. -/
  attributes : ∀ ms : Json.Members, v = .object ms →
    r.attributes = ms.filter fun m => m.1 ∉ claimedNames
  /-- Every member of an object with a name of its own is a field. -/
  field : ∀ ms : Json.Members, v = .object ms → ∀ key ∉ Header.names, r.field? key = ms.get? key
  /-- Nothing but an object has attributes. -/
  bare : (∀ ms, v ≠ .object ms) → r.attributes = []

/-! ## Timestamps -/

theorem isCanonical_ofMillis (n : Int) :
    IsCanonical (.ofMillis n) ∨ Timestamp.ofMillis n = .invalid := by
  by_cases h : InYears n
  · exact Or.inl ⟨n, h, rfl, Timestamp.length_ofMillis h⟩
  · exact Or.inr (Timestamp.ofMillis_of_not_inYears h)

/-- **What timestamps records have**: a canonical one, the mark, or a text that the payload gives
and that looks like a date. -/
theorem timestamp_record (stamp : Stamp) (transport : Option Transport) (v : Json) :
    IsCanonical (record stamp transport v).timestamp ∨
      (record stamp transport v).timestamp = .invalid ∨
      GivesDate v (record stamp transport v).timestamp.text := by
  rw [record_timestamp]
  rcases timestamp_cases stamp.now (timestampMember v) with
    ⟨n, hn⟩ | hinvalid | ⟨s, hs, hminus, htext⟩
  · rw [hn]
    exact (isCanonical_ofMillis n).imp_right Or.inl
  · exact Or.inr (Or.inl hinvalid)
  · rw [htext]
    exact Or.inr (Or.inr ⟨hs, hminus⟩)

/-- A text that looks like a date is the timestamp of the record. -/
theorem timestamp_of_givesDate (stamp : Stamp) (transport : Option Transport) {v : Json}
    {s : String} (h : GivesDate v s) : (record stamp transport v).timestamp.text = s := by
  obtain ⟨hs, hminus⟩ := h
  rw [record_timestamp, hs, timestamp, if_pos (List.contains_iff_mem.2 hminus)]

/-! ## Services and attributes -/

/-- **The service that the transport names is that of the record**, if it is not empty. -/
theorem service_record (stamp : Stamp) {transport : Option Transport} (v : Json) {t : Transport}
    (ht : t ∈ transport) {s : String} (hs : s ∈ t.service) (hne : s ≠ "") :
    (record stamp transport v).service = s := by
  have hnamed : transportService? transport = some s := by
    rw [transportService?, Option.mem_def.1 ht, Option.bind_some, Option.mem_def.1 hs]
    exact Option.filter_some_pos (bne_iff_ne.2 hne)
  by_cases hobject : ∃ ms, v = .object ms
  · obtain ⟨ms, rfl⟩ := hobject
    simp only [record, recordOfObject, hnamed]
  · rw [record_of_not_object stamp transport (not_exists.1 hobject)]
    simp only [recordOfOther, hnamed, Option.getD_some]

/-- The id of an object is one of its attributes, the other members with a name of the header are
not. -/
theorem isAttribute_eq (name : String) : isAttribute name = decide (name ∉ claimedNames) := by
  by_cases hid : name = "id"
  · subst hid
    decide
  · simp [isAttribute, Record.isCanonical, Header.names, claimedNames, hid]

/-- **The members of an object that become attributes**, in their order. -/
theorem attributes_record (stamp : Stamp) (transport : Option Transport) (ms : Json.Members) :
    (record stamp transport (.object ms)).attributes =
      ms.filter fun m => m.1 ∉ claimedNames := by
  have hattributes : (record stamp transport (.object ms)).attributes =
      ms.filter fun m => isAttribute m.1 := rfl
  simp only [hattributes, isAttribute_eq]

/-! ## Records -/

theorem faithful_record (stamp : Stamp) (transport : Option Transport) (v : Json) :
    Faithful transport v (record stamp transport v) where
  populated := populated_record stamp transport v
  service _ ht _ hs hne := service_record stamp v ht hs hne
  timestamp := timestamp_record stamp transport v
  date _ h := timestamp_of_givesDate stamp transport h
  attributes := by
    rintro ms rfl
    exact attributes_record stamp transport ms
  field := by
    rintro ms rfl key hkey
    exact field?_record stamp transport ms hkey
  bare h := by
    rw [record_of_not_object stamp transport h]
    rfl

/-- **Every record of a payload keeps what the payload holds**: the record of a value, and each of
those that a batch gives, the items of an array being values of their own. -/
theorem records_faithful (transport : Option Transport) (v : Json) :
    (∀ stamp, Faithful transport v (record stamp transport v)) ∧
      ∀ stamps, List.Forall₂ (Faithful transport) (items v) (records stamps transport v) := by
  refine ⟨fun stamp => faithful_record stamp transport v, fun stamps => ?_⟩
  rw [records_eq, List.forall₂_iff_get]
  refine ⟨List.length_mapIdx.symm, fun i hi hi' => ?_⟩
  rw [List.get_eq_getElem, List.get_eq_getElem, List.getElem_mapIdx]
  exact faithful_record (stamps i) transport _

end Logbook.Payload
