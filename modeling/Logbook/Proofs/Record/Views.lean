import Logbook.Proofs.Json.Spelled
import Logbook.Query.Match

/-!
# Three views of a record

A record shows its fields in three ways: one is looked up by its name, all of them are listed, and
they are put into one flat object. An attribute with the name of a header field is hidden from each
of them, but every time by other means. A name decides where it is looked up, the list leaves
attributes out, and the object is built by putting entries into it one after the other. All three
show the same fields if the attributes have each name once, as those of an object do. So a search
through all fields finds what a search of some one field finds.

Results:

* `Record.field?_eq_get?_fields`: a field is looked up among the listed ones.
* `Record.nodup_names_fields`, `Record.flat_eq`: the listed fields have each name once and make up
  the flat object.
* `Term.hits_text_iff`: a term for all fields hits by one of them.
* `Record.views_agree`: the three views show the same fields.
-/

namespace Logbook

namespace Record

variable {r : Record} {name : String} {v : Json}

/-! ## The fields of a record -/

theorem isSome_get?_members (h : Header) (hname : name ∈ Header.names) :
    (h.members.get? name).isSome = true := by
  simp only [Header.names, List.mem_cons, List.not_mem_nil, or_false] at hname
  rcases hname with rfl | rfl | rfl | rfl | rfl <;> rfl

theorem get?_members_of_not_canonical (h : Header) (hname : name ∉ Header.names) :
    h.members.get? name = none := by
  refine List.lookup_eq_none_iff.2 fun m hm => ?_
  rw [bne_iff_ne]
  rintro rfl
  exact hname (h.names_members ▸ List.mem_map_of_mem hm)

/-- **A field is looked up among the listed ones**, whether or not an attribute is hidden. -/
theorem field?_eq_get?_fields (r : Record) (name : String) :
    r.field? name = r.fields.get? name := by
  have hlisted : r.fields.get? name = (r.members.get? name).or
      (Entries.get? (r.attributes.filter fun m => !isCanonical m.1) name) := List.lookup_append
  rw [hlisted]
  by_cases hname : name ∈ Header.names
  · obtain ⟨value, hvalue⟩ := Option.isSome_iff_exists.1 (isSome_get?_members r.toHeader hname)
    rw [field?_of_canonical r hname, hvalue, Option.some_or]
  · have hshown : (!isCanonical name) = true := by simp [isCanonical, hname]
    rw [field?_of_not_canonical r hname, get?_members_of_not_canonical r.toHeader hname,
      Option.none_or, Entries.get?_filter (p := fun n => !isCanonical n) hshown]

/-- **The fields of a record have each name once** if its attributes do. -/
theorem nodup_names_fields (h : r.attributes.names.Nodup) : r.fields.names.Nodup := by
  rw [names_fields, List.nodup_append]
  refine ⟨by decide, h.sublist List.filter_sublist, ?_⟩
  intro a ha b hb hab
  subst hab
  have hother := (List.mem_filter.1 hb).2
  simp [isCanonical, ha] at hother

/-- **The flat object of a record consists of its fields** if its attributes have each name once. -/
theorem flat_eq (h : r.attributes.names.Nodup) : r.flat = .object r.fields := by
  have hput := Entries.foldl_put_eq_append r.members (nodup_names_fields h)
  rw [List.foldl_filter] at hput
  rw [flat, fields, ← hput]
  congr 2
  funext ms m
  cases isCanonical m.1 <;> rfl

end Record

namespace Term

variable {r : Record}

theorem hits_text_iff {text : String} {negated : Bool} :
    hits ⟨.text, text, negated⟩ r = true ↔
      ∃ m ∈ r.fields, m.2 ≠ .null ∧ Text.occursFolded text m.2.display = true := by
  rw [hits, List.any_eq_true]
  refine exists_congr fun m => and_congr_right fun _ => ?_
  obtain ⟨name, v⟩ := m
  cases v <;> simp

theorem hits_contains_of_field? {key text : String} {negated : Bool} {v : Json}
    (h : r.field? key = some v) :
    hits ⟨.contains key, text, negated⟩ r = Text.occursFolded text v.display := by
  show (r.field? key).any _ = _
  rw [h, Option.any_some]

end Term

namespace Record

/-- **The three views of a record show the same fields** if its attributes have each name once,
whatever these names are. Of the fields in the list no two have the same name. A field is found by
its name with a value exactly if the list has it with that value. The flat object has the fields of
the list and no others, in the same order. So a text is found in the record exactly if it is found
in some field that can be looked up and is not null. -/
theorem views_agree {r : Record} (h : r.attributes.names.Nodup) :
    r.fields.names.Nodup ∧
      (∀ name v, r.field? name = some v ↔ (name, v) ∈ r.fields) ∧
      r.flat = .object r.fields ∧
      ∀ text, Term.holds ⟨.text, text, false⟩ r = true ↔
        ∃ name v, r.field? name = some v ∧ v ≠ .null ∧
          Term.holds ⟨.contains name, text, false⟩ r = true := by
  have hnames := nodup_names_fields h
  have hlookup : ∀ name v, r.field? name = some v ↔ (name, v) ∈ r.fields := by
    intro name v
    rw [field?_eq_get?_fields, Entries.get?_eq_some_iff hnames]
  have hholds : ∀ kind text, Term.holds ⟨kind, text, false⟩ r = Term.hits ⟨kind, text, false⟩ r :=
    fun _ _ => Bool.bne_false _
  refine ⟨hnames, hlookup, flat_eq h, fun text => ?_⟩
  rw [hholds, Term.hits_text_iff]
  constructor
  · rintro ⟨⟨name, v⟩, hm, hnull, hin⟩
    have hfield := (hlookup name v).2 hm
    refine ⟨name, v, hfield, hnull, ?_⟩
    rw [hholds, Term.hits_contains_of_field? hfield, hin]
  · rintro ⟨name, v, hfield, hnull, hin⟩
    rw [hholds, Term.hits_contains_of_field? hfield] at hin
    exact ⟨(name, v), (hlookup name v).1 hfield, hnull, hin⟩

/-- An attribute with the name of a header field is seen by no view, and an attribute that is null
    is found by no text. -/
theorem views_agree_hidden :
    (Entries.names [("id", Json.string "7"), ("parent", .null), ("host", .string "Edge")]).Nodup ∧
      Record.flat ⟨⟨"1", ⟨"2024"⟩, "up", "info", "api"⟩,
          [("id", .string "7"), ("parent", .null), ("host", .string "Edge")]⟩ =
        .object [("id", .string "1"), ("timestamp", .string "2024"), ("message", .string "up"),
          ("level", .string "info"), ("service", .string "api"), ("parent", .null),
          ("host", .string "Edge")] ∧
      Term.holds ⟨.text, "edge", false⟩ ⟨⟨"1", ⟨"2024"⟩, "up", "info", "api"⟩,
          [("id", .string "7"), ("parent", .null), ("host", .string "Edge")]⟩ = true := by
  have hnames : (Entries.names
      [("id", Json.string "7"), ("parent", .null), ("host", .string "Edge")]).Nodup := by decide
  obtain ⟨-, -, hflat, htext⟩ :=
    views_agree (r := ⟨⟨"1", ⟨"2024"⟩, "up", "info", "api"⟩,
      [("id", .string "7"), ("parent", .null), ("host", .string "Edge")]⟩) hnames
  refine ⟨hnames, hflat, (htext "edge").2 ⟨"host", .string "Edge", rfl, ?_, ?_⟩⟩
  · exact Json.noConfusion
  · decide

end Record

end Logbook
