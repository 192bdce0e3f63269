import Logbook.Feed
import Logbook.Proofs.Intake
import Logbook.Proofs.Payload
import Logbook.Proofs.Record.Views
import Logbook.Record.Line

/-!
# Records printed and taken in again

A record printed as its flat object is a line that a feed takes in: the line is the text of one
object, the object names a service of its own, and its header fields come first among the names
under which they are looked for. So the record comes back with its own time, message, level and
service. Only the identifier is new; the old one is left among the attributes, in front of the
others.

Results:

* `flat_distinct`, `flat_depth_le`: the flat object of a record is one that a text can spell.
* `Feed.payload?_line`: the line of a record is taken in as its flat object.
* `Payload.record_flat`: the record of the flat object of a record.
* `Feed.line_returns`: a printed record comes back.
-/

namespace Logbook

namespace Record

variable {r : Record}

/-- A field of a record is a text or an attribute. -/
theorem mem_fields {m : String × Json} (hm : m ∈ r.fields) :
    (∃ s, m.2 = .string s) ∨ m ∈ r.attributes := by
  rcases List.mem_append.1 hm with hm | hm
  · simp only [Header.members, List.mem_cons, List.not_mem_nil, or_false] at hm
    rcases hm with rfl | rfl | rfl | rfl | rfl <;> exact Or.inl ⟨_, rfl⟩
  · exact Or.inr (List.mem_filter.1 hm).1

theorem flat_distinct (h : r.Fits) : Json.Distinct r.flat := by
  obtain ⟨hnames, hattributes⟩ := h.distinct
  rw [Json.distinctMembers_iff] at hattributes
  rw [flat_eq hnames, Json.Distinct, Json.distinctMembers_iff]
  constructor
  · exact nodup_names_fields hnames
  · intro m hm
    rcases mem_fields hm with ⟨s, hs⟩ | hm
    · rw [hs]
      simp [Json.Distinct]
    · exact hattributes m hm

theorem flat_depth_le (h : r.Fits) : Json.depth r.flat ≤ Json.maxDepth := by
  have hdepth := h.depth_le
  rw [Json.depth] at hdepth
  have hattributes := Json.memberDepth_le_iff.1 (Nat.le_refl (Json.memberDepth r.attributes))
  have hfields : Json.memberDepth r.fields ≤ Json.memberDepth r.attributes := by
    rw [Json.memberDepth_le_iff]
    intro m hm
    rcases mem_fields hm with ⟨s, hs⟩ | hm
    · rw [hs]
      simp [Json.depth]
    · exact hattributes m hm
  rw [flat_eq h.distinct.1, Json.depth]
  omega

end Record

namespace Feed

theorem stripEnds_concat {c : Char} (hreturn : c ≠ '\r') (hnewline : c ≠ '\n') (cs : List Char) :
    stripEnds (cs ++ [c]) = cs ++ [c] := by
  simp [stripEnds, hreturn, hnewline]

/-- The text of an object is taken in as that object, with its service filled in if it lacks one. -/
theorem payload?_text (now : Int) (service : String) {ms : Json.Members}
    (hdistinct : Json.Distinct (.object ms)) (hdepth : Json.depth (.object ms) ≤ Json.maxDepth) :
    payload? now service (Json.text (.object ms)).toList =
      some (fillService service (.object ms)) := by
  have hread := Json.read?_text hdistinct hdepth
  have hchars : (Json.text (.object ms)).toList = '\x7b' :: Json.memberChars ms ++ ['\x7d'] := by
    rw [Json.text, String.toList_ofList, Json.chars]
  have hblank : Text.allBlank ('\x7b' :: Json.memberChars ms ++ ['\x7d']) = false := by
    simp [Text.allBlank, Text.isBlank]
  rw [payload?, hchars, stripEnds_concat (by decide) (by decide), hblank, ← hchars,
    String.ofList_toList, hread]
  rfl

theorem fillService_of_service (service : String) {own : String} {ms : Json.Members}
    (h : ms.get? "service" = some (.string own)) (hown : own ≠ "") :
    fillService service (.object ms) = .object ms := by
  simp [fillService, lacksService, h, hown]

/-- **The line of a record is taken in as its flat object**, whatever service the feed has. -/
theorem payload?_line (now : Int) (service : String) {r : Record} (hfits : r.Fits)
    (hservice : r.service ≠ "") :
    payload? now service (r.line .jsonl).toList = some (.object r.fields) := by
  have hflat := Record.flat_eq hfits.distinct.1
  have hdistinct := Record.flat_distinct hfits
  have hdepth := Record.flat_depth_le hfits
  rw [hflat] at hdistinct hdepth
  have htaken := payload?_text now service hdistinct hdepth
  have hown : r.fields.get? "service" = some (.string r.service) := rfl
  rw [fillService_of_service service hown hservice] at htaken
  rw [Record.line, hflat]
  exact htaken

end Feed

namespace Payload

/-- The record of the flat object of a record: the header as it was but for the identifier, which
goes among the attributes. -/
theorem record_flat (stamp : Stamp) {r : Record} (h : r.Populated)
    (htime : timestamp stamp.now (some (.string r.timestamp.text)) = r.timestamp) :
    record stamp none (.object r.fields) =
      { r with
        id := stamp.id
        attributes := ("id", .string r.id) ::
          r.attributes.filter fun m => !Record.isCanonical m.1 } := by
  have hpresent : ∀ s : String, s ≠ "" → isPresent (.string s) = true :=
    fun s hs => bne_iff_ne.2 hs
  have hmessage : firstPresent? r.fields messageNames = some (.string r.message) :=
    firstPresent?_of_present rfl (hpresent _ h.message) _
  have hlevel : firstPresent? r.fields levelNames = some (.string r.level) :=
    firstPresent?_of_present rfl (hpresent _ h.level) _
  have hservice : firstPresent? r.fields serviceNames = some (.string r.service) :=
    firstPresent?_of_present rfl (hpresent _ h.service) _
  have hstamp : timestamp stamp.now (r.fields.get? "timestamp") = r.timestamp := htime
  have hattributes : (r.fields.filter fun m => isAttribute m.1) =
      ("id", .string r.id) :: r.attributes.filter fun m => !Record.isCanonical m.1 := by
    have hothers : ∀ m : String × Json, (isAttribute m.1 && !Record.isCanonical m.1) =
        !Record.isCanonical m.1 := by
      intro m
      cases hheader : Record.isCanonical m.1 <;> simp [isAttribute, hheader]
    rw [Record.fields, List.filter_append, List.filter_filter]
    simp only [hothers]
    rfl
  simp only [record, recordOfObject, hmessage, hlevel, hservice, hstamp, hattributes]
  rfl

/-- Of the attributes of a payload only the identifier may be hidden. -/
theorem filter_attributes (stamp : Stamp) (transport : Option Transport) (v : Json) :
    ((record stamp transport v).attributes.filter fun m => !Record.isCanonical m.1) =
      (record stamp transport v).attributes.filter fun m => m.1 != "id" := by
  apply List.filter_congr
  intro m hm
  have hkept : isAttribute m.1 = true := by
    cases v with
    | object ms => exact (List.mem_filter.1 hm).2
    | null => cases hm
    | bool b => cases hm
    | number n => cases hm
    | string s => cases hm
    | array items => cases hm
  by_cases hid : m.1 = "id"
  · rw [hid]
    decide
  · have hother : (m.1 == "id") = false := beq_eq_false_iff_ne.2 hid
    rw [isAttribute, hother, Bool.false_or] at hkept
    rw [hkept, bne, hother]
    rfl

end Payload

namespace Feed

/-- **A printed record comes back.** Take the record of any payload that a text spells and print it
as its flat object. A feed takes the line in, whatever its own service, and without a transport the
payload of the line becomes the same record again, its time, message, level and service included.
Only the identifier is new, and the old one comes first among the attributes, in place of a member
of that name that the payload had. -/
theorem line_returns (stamp : Stamp) (transport : Option Transport) {v : Json}
    (hspelled : ∃ text, Json.read? text = some v) (now : Int) (service : String) (again : Stamp) :
    ∃ payload,
      payload? now service ((Payload.record stamp transport v).line .jsonl).toList = some payload ∧
      Payload.record again none payload =
        { Payload.record stamp transport v with
          id := again.id
          attributes := ("id", .string (Payload.record stamp transport v).id) ::
            (Payload.record stamp transport v).attributes.filter fun m => m.1 != "id" } := by
  obtain ⟨hdistinct, hdepth⟩ := Json.exists_read?_iff.1 hspelled
  have hfits := Payload.fits_record stamp transport hdistinct hdepth
  have hpopulated := Payload.populated_record stamp transport v
  refine ⟨_, payload?_line now service hfits hpopulated.service, ?_⟩
  have htime := Payload.timestamp_of_record stamp transport v again.now
  rw [Payload.record_flat again hpopulated htime, Payload.filter_attributes]

/-- A record without a date comes back with the mark, and its old identifier takes the place of the
one in its payload. -/
theorem line_returns_undated :
    ∃ payload, payload? 0 "edge" ((Payload.record ⟨"1", 0⟩ (some ⟨some "api"⟩) (.object
        [("timestamp", .string "soon"), ("id", .bool true), ("msg", .string "up")])).line
          .jsonl).toList = some payload ∧
      Payload.record ⟨"2", 0⟩ none payload =
        ⟨⟨"2", .invalid, "up", "info", "api"⟩, [("id", .string "1"), ("msg", .string "up")]⟩ := by
  have hspelled : ∃ text, Json.read? text = some (.object
      [("timestamp", .string "soon"), ("id", .bool true), ("msg", .string "up")]) := by
    rw [Json.exists_read?_iff]
    simp [Json.Distinct, Json.DistinctMembers, Entries.names, Json.depth, Json.memberDepth,
      Json.maxDepth]
  have hrecord : Payload.record ⟨"1", 0⟩ (some ⟨some "api"⟩) (.object
      [("timestamp", .string "soon"), ("id", .bool true), ("msg", .string "up")]) =
      ⟨⟨"1", .invalid, "up", "info", "api"⟩, [("id", .bool true), ("msg", .string "up")]⟩ := by
    rfl
  have hreturns := line_returns ⟨"1", 0⟩ (some ⟨some "api"⟩) hspelled 0 "edge" ⟨"2", 0⟩
  rw [hrecord] at hreturns ⊢
  exact hreturns

end Feed

end Logbook
