import Logbook.Proofs.Feed
import Logbook.Proofs.Record.Line

/-!
# The service of a line

A line that says nothing about its service gets that of the feed: a line that is not JSON, and an
object without a `service` or with one that is null or empty. Nothing else of the object changes. A
`service` that counts, whatever its kind, is the service of the record.

**Deviation.** `false` and zero do not count as a service either, but an object that has one of them
is not taken to lack a service, so it does not get that of the feed. Its record has the service that
the object gives under another name, or the service of records that have none.

Results:

* `payload?_of_not_blank`: the payload of a line that is not blank.
* `fillService_others`: filling in the service leaves the other members as they are.
* `line_service`: the service of the record of a line.
* `service_of_feed_kept_out`: an object that has `false` for its service.
-/

namespace Logbook

namespace Payload

/-- A value that shows something but does not count: `false`, or a zero of either sign. -/
inductive IsZero : Json → Prop where
  | bool : IsZero (.bool false)
  | integer (fits : FitsWord 0) : IsZero (.number (.integer 0 fits))
  | real {x : Number.Binary64} (h : x.isZero = true) : IsZero (.number (.real x))

theorem IsZero.not_present {v : Json} (h : IsZero v) : isPresent v = false := by
  cases h with
  | bool => rfl
  | integer fits => rfl
  | real h => simp [isPresent, h]

end Payload

namespace Feed

open Payload (IsZero isPresent firstPresent?)

/-! ## Payloads -/

theorem payload?_of_not_blank {line : List Char} (h : Text.allBlank line = false) (now : Int)
    (service : String) :
    payload? now service line = some (fillService service
      ((Json.read? (String.ofList (stripEnds line))).getD
        (wrapped now service (stripEnds line)))) := by
  rw [payload?, allBlank_stripEnds, h]
  rfl

/-- A line that is not blank shows something behind which its line ends stand. -/
theorem stripEnds_ne_nil {line : List Char} (h : Text.allBlank line = false) :
    stripEnds line ≠ [] := by
  intro hnil
  rw [← allBlank_stripEnds, hnil] at h
  cases h

theorem lacksService_iff {ms : Json.Members} :
    lacksService ms = true ↔ ms.get? "service" = none ∨ ms.get? "service" = some .null ∨
      ms.get? "service" = some (.string "") := by
  rw [lacksService]
  cases hown : ms.get? "service" with
  | none => simp
  | some v => cases v <;> simp

/-- **Filling in the service leaves the other members as they are**, in their order. -/
theorem fillService_others (service : String) (ms : Json.Members) :
    ∃ filled, fillService service (.object ms) = .object filled ∧
      (filled.filter fun m => m.1 != "service") = ms.filter fun m => m.1 != "service" := by
  rw [fillService]
  split
  · exact ⟨_, rfl, Entries.filter_put "service" _ ms⟩
  · exact ⟨ms, rfl, rfl⟩

/-! ## Records -/

/-- The service of the record of an object from a feed with a service of its own, by the `service`
    of the object. -/
structure Served (service : String) (ms : Json.Members) (name : String) : Prop where
  /-- A missing service, null and the empty text are replaced. -/
  lacking : ms.get? "service" = none ∨ ms.get? "service" = some .null ∨
    ms.get? "service" = some (.string "") → name = service
  /-- In place of `false` and zero the other names count. -/
  zero : ∀ v ∈ ms.get? "service", IsZero v →
    name = ((firstPresent? ms ["serviceName", "service_name"]).getD (.string "system")).display
  /-- Anything else counts. -/
  own : ∀ v ∈ ms.get? "service", isPresent v = true → name = v.display

/-- The record of an object has the service that was filled in, or its own. -/
theorem service_fillService (stamp : Stamp) {service : String} (hservice : service ≠ "")
    (ms : Json.Members) :
    Served service ms (Payload.record stamp none (fillService service (.object ms))).service := by
  have hrecord : ∀ ms, (Payload.record stamp none (.object ms)).service =
      ((firstPresent? ms Payload.serviceNames).getD (.string Payload.defaultService)).display :=
    fun _ => rfl
  by_cases hlacks : lacksService ms = true
  · have hnone : ∀ v ∈ ms.get? "service", isPresent v = false ∧ ¬ IsZero v := by
      intro v hv
      rcases lacksService_iff.1 hlacks with h | h | h
      · rw [h] at hv
        cases hv
      · obtain rfl := Option.mem_some.1 (h ▸ hv)
        exact ⟨rfl, nofun⟩
      · obtain rfl := Option.mem_some.1 (h ▸ hv)
        exact ⟨rfl, nofun⟩
    have hfilled : fillService service (.object ms) =
        .object (Entries.put "service" (.string service) ms) := by
      simp [fillService, hlacks, hservice]
    have hpresent : isPresent (.string service) = true := bne_iff_ne.2 hservice
    rw [hfilled, hrecord, Payload.serviceNames,
      Payload.firstPresent?_of_present (Entries.get?_put_self ms "service" _) hpresent]
    exact ⟨fun _ => rfl, fun v hv hzero => absurd hzero (hnone v hv).2,
      fun v hv hown => absurd hown (Bool.eq_false_iff.1 (hnone v hv).1)⟩
  · have hkept : fillService service (.object ms) = .object ms := by
      simp [fillService, hlacks]
    rw [hkept, hrecord, Payload.serviceNames]
    refine ⟨fun h => absurd (lacksService_iff.2 h) hlacks, fun v hv hzero => ?_,
      fun v hv hown => ?_⟩
    · have habsent : ∀ w ∈ ms.get? "service", isPresent w = false := by
        intro w hw
        obtain rfl := Option.mem_unique hw hv
        exact hzero.not_present
      rw [Payload.firstPresent?_of_absent habsent]
      rfl
    · rw [Payload.firstPresent?_of_present hv hown]
      rfl

theorem record_wrapped (stamp : Stamp) (now : Int) {service : String} (hservice : service ≠ "")
    {line : List Char} (hline : line ≠ []) :
    (Payload.record stamp none (wrapped now service line)).message = String.ofList line ∧
      (Payload.record stamp none (wrapped now service line)).level = "info" ∧
      (Payload.record stamp none (wrapped now service line)).service = service := by
  have hpresent : ∀ s : String, s ≠ "" → isPresent (.string s) = true :=
    fun s hs => bne_iff_ne.2 hs
  have hshown : String.ofList line ≠ "" := fun h => hline (String.ofList_injective h)
  have hmessage : firstPresent? [("timestamp", Json.ofInt now), ("level", .string "info"),
      ("message", .string (String.ofList line)), ("service", .string service)]
        Payload.messageNames = some (.string (String.ofList line)) :=
    Payload.firstPresent?_of_present rfl (hpresent _ hshown) _
  have hown : firstPresent? [("timestamp", Json.ofInt now), ("level", .string "info"),
      ("message", .string (String.ofList line)), ("service", .string service)]
        Payload.serviceNames = some (.string service) :=
    Payload.firstPresent?_of_present rfl (hpresent _ hservice) _
  simp only [Payload.record, wrapped, Payload.recordOfObject, Payload.defaultLevel, hmessage, hown]
  exact ⟨rfl, rfl, rfl⟩

/-- **A line without a service of its own gets that of the feed.** A line that is not blank becomes
a payload, and without a transport the payload a record. If the line is not JSON, the record has it
as its message, the usual level and the service of the feed. If the line is an object, the payload
is that object but for its `service`, and the record has the service of the feed if the `service` of
the object is missing, null or empty, and otherwise what it shows if it counts; `false` and zero
leave the choice to the other names of a service. -/
theorem line_service (stamp : Stamp) (now : Int) {service : String} {line : List Char}
    (hservice : service ≠ "") (hline : Text.allBlank line = false) :
    (Json.read? (String.ofList (stripEnds line)) = none →
      ∃ payload, payload? now service line = some payload ∧
        (Payload.record stamp none payload).message = String.ofList (stripEnds line) ∧
        (Payload.record stamp none payload).level = "info" ∧
        (Payload.record stamp none payload).service = service) ∧
    ∀ ms, Json.read? (String.ofList (stripEnds line)) = some (.object ms) →
      ∃ filled, payload? now service line = some (.object filled) ∧
        (filled.filter fun m => m.1 != "service") = (ms.filter fun m => m.1 != "service") ∧
        Served service ms (Payload.record stamp none (.object filled)).service := by
  have hpayload := payload?_of_not_blank hline now service
  constructor
  · intro hread
    rw [hread, Option.getD_none, fillService_wrapped] at hpayload
    exact ⟨_, hpayload, record_wrapped stamp now hservice (stripEnds_ne_nil hline)⟩
  · intro ms hread
    obtain ⟨filled, hfilled, hothers⟩ := fillService_others service ms
    have hserved := service_fillService stamp hservice ms
    rw [hread, Option.getD_some, hfilled] at hpayload
    rw [hfilled] at hserved
    exact ⟨filled, hpayload, hothers, hserved⟩

/-- An object that has `false` for its service. -/
def falseService : Json.Members := [("message", .string "up"), ("service", .bool false)]

/-- The object that has `false` for its service, as a feed sends it. -/
def falseServiceText : String := "\x7b\"message\":\"up\",\"service\":false\x7d"

theorem read?_falseServiceText : Json.read? falseServiceText = some (.object falseService) := by
  have htext : Json.text (.object falseService) = falseServiceText := by decide +kernel
  rw [← htext]
  apply Json.read?_text
  · simp [falseService, Json.Distinct, Json.DistinctMembers, Entries.names]
  · simp [falseService, Json.depth, Json.memberDepth, Json.maxDepth]

/-- A line that ends in a carriage return and a line feed keeps its other members, and its record
    has the service of records that have none. -/
theorem line_service_none :
    "edge" ≠ "" ∧ Text.allBlank (falseServiceText.toList ++ ['\r', '\n']) = false ∧
      ∃ filled,
        payload? 0 "edge" (falseServiceText.toList ++ ['\r', '\n']) = some (.object filled) ∧
        (filled.filter fun m => m.1 != "service") = [("message", .string "up")] ∧
        (Payload.record ⟨"1", 0⟩ none (.object filled)).service = "system" := by
  have hline : Text.allBlank (falseServiceText.toList ++ ['\r', '\n']) = false := by decide
  have hbody : String.ofList (stripEnds (falseServiceText.toList ++ ['\r', '\n'])) =
      falseServiceText := by
    decide
  obtain ⟨filled, hpayload, hothers, hserved⟩ :=
    (line_service ⟨"1", 0⟩ 0 (by decide : "edge" ≠ "") hline).2 falseService
      (hbody ▸ read?_falseServiceText)
  exact ⟨by decide, hline, filled, hpayload, hothers, hserved.zero _ rfl .bool⟩

/-- **A service that does not count may keep that of the feed out.** The line is an object whose
    `service` does not count, and its record does not have the service of the feed. -/
theorem service_of_feed_kept_out :
    Json.read? falseServiceText = some (.object falseService) ∧
      falseService.get? "service" = some (.bool false) ∧ isPresent (.bool false) = false ∧
      ∃ payload, payload? 0 "edge" falseServiceText.toList = some payload ∧
        (Payload.record ⟨"1", 0⟩ none payload).service = "system" ∧ "system" ≠ "edge" := by
  have hline : Text.allBlank falseServiceText.toList = false := by decide
  have hbody : String.ofList (stripEnds falseServiceText.toList) = falseServiceText := by decide
  have hpayload := payload?_of_not_blank hline 0 "edge"
  rw [hbody, read?_falseServiceText] at hpayload
  exact ⟨read?_falseServiceText, rfl, rfl, _, hpayload, rfl, by decide⟩

end Feed

end Logbook
