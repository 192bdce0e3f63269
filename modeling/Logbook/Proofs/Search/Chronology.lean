import Logbook.Proofs.Store.Holds
import Logbook.Proofs.Time.Written

/-!
# Newest first and the order of time

A store shows its records by descending timestamps, and timestamps are compared as texts. A number
of milliseconds becomes its canonical text. A text that looks like a date is kept as it is, and its
instant is never read: neither its zone nor the number of digits of its fraction is made the same as
in others.

**Deviation.** So the record of a later instant comes first for certain only among times of one
zone and one style. Between zones, the time that is later on the clock of its own zone comes first.

Results:

* `Payload.Tells.instant?`: a record keeps the instant that its payload tells.
* `Record.pair_sublist_iff`: which of two records comes first.
* `shown_first_iff`: exactly when the record of a later instant does.
* `shown_first_other_zone`: a later instant may come behind an earlier one.
-/

namespace Logbook

open Time.Instant (InYears)
open Time.Rfc3339 (Written)
open Time.Rfc3339.Written (fractionChars)

/-! ## Times of payloads -/

namespace Payload

/-- The value of a payload's timestamp tells a time: it is a number of milliseconds of the years 0
    to 9999, whose fraction is cut off, or a text that RFC 3339 admits. -/
inductive Tells : Json → Written → Prop
  | integer {ms : Int} {fits : FitsWord ms} :
    InYears ms → Tells (.number (.integer ms fits)) (.ofMillis ms)
  | real {x : Number.Binary64} :
    InYears x.truncate → Tells (.number (.real x)) (.ofMillis x.truncate)
  | written {w : Written} : w.Admitted → Tells (.string (String.ofList w.chars)) w

namespace Tells

variable {v : Json} {w : Written}

theorem admitted (h : Tells v w) : w.Admitted := by
  cases h with
  | integer h => exact Written.admitted_ofMillis h
  | real h => exact Written.admitted_ofMillis h
  | written h => exact h

/-- A number of the years 0 to 9999 is far from the ends of the signed words. -/
theorem magnitudeBelow_of_inYears {x : Number.Binary64} (h : InYears x.truncate) :
    x.magnitudeBelow Number.integerLimit = true := by
  have hlimit : Number.integerLimit = 9223372036854775808 := rfl
  have hwhole : x.units / Number.one < Number.integerLimit := by
    rw [InYears, Time.Instant.firstMilli, Time.Instant.lastMilli, Number.Binary64.truncate] at h
    split at h <;> omega
  have hone : 0 < Number.one := Number.twoPow_pos 1074
  rw [Number.Binary64.magnitudeBelow, decide_eq_true_iff]
  exact (Nat.div_lt_iff_lt_mul hone).1 hwhole

/-- **The timestamp of a time** is its text. -/
theorem timestamp_eq (h : Tells v w) (now : Int) :
    timestamp now (some v) = ⟨String.ofList w.chars⟩ := by
  cases h with
  | @integer ms _ h =>
    have hlimit : ms < Number.integerLimit := by
      have hword : (Number.integerLimit : Int) = 9223372036854775808 := rfl
      have := h.2
      rw [Time.Instant.lastMilli] at this
      omega
    rw [timestamp, if_pos hlimit, Written.timestamp_ofMillis h]
  | real h =>
    rw [timestamp, timestampOfReal]
    simp only [magnitudeBelow_of_inYears h, if_true, Written.timestamp_ofMillis h]
  | written h =>
    have hdash : (String.ofList w.chars).toList.contains '-' = true := by
      simp [Written.chars]
    rw [timestamp, if_pos hdash]

theorem instant? (h : Tells v w) (now : Int) :
    (timestamp now (some v)).instant?.map Time.Instant.epochMillis = some ⌊w.instant⌋ := by
  obtain ⟨t, hread, hmillis, -⟩ := Time.Rfc3339.read?_chars_of_admitted h.admitted
  rw [h.timestamp_eq, Timestamp.instant?, String.toList_ofList, hread, Option.map_some, hmillis,
    Time.Rfc3339.floor_instant_of_admitted h.admitted]

end Tells

end Payload

/-! ## Records in order -/

/-- The records stand with the newest first. -/
def Record.Descending (rs : List Record) : Prop :=
  rs.Pairwise fun a b => b.timestamp ≤ a.timestamp

/-- Of two records with different timestamps the one with the greater timestamp comes first. -/
theorem Record.pair_sublist_iff {rs : List Record} (h : Descending rs) {r r' : Record} (hr : r ∈ rs)
    (hr' : r' ∈ rs) (hne : r.timestamp ≠ r'.timestamp) :
    [r', r].Sublist rs ↔ r.timestamp < r'.timestamp := by
  constructor
  · intro hsub
    have hle : r.timestamp ≤ r'.timestamp := List.rel_of_pairwise_cons (h.sublist hsub) (by simp)
    exact Timestamp.not_le.1 fun hge => hne (Timestamp.le_antisymm hle hge)
  · intro hlt
    obtain ⟨before, after, rfl⟩ := List.append_of_mem hr'
    rcases List.mem_append.1 hr with hbefore | hafter
    · have := (List.pairwise_append.1 h).2.2 r hbefore r' List.mem_cons_self
      exact absurd this (Timestamp.not_le.2 hlt)
    · rcases List.mem_cons.1 hafter with rfl | hafter
      · exact absurd rfl hne
      · exact ((List.singleton_sublist.2 hafter).cons_cons r').trans
          (List.sublist_append_right before _)

theorem Row.timestamp_of_toRecord? {row : Row} {r : Record} (h : row.toRecord? = some r) :
    r.timestamp = row.timestamp := by
  unfold toRecord? at h
  split at h
  · obtain rfl := Option.some.inj h
    rfl
  · obtain ⟨attributes, -, rfl⟩ := Option.map_eq_some_iff.1 h
    rfl

theorem Rebuilds.descending {rows : List Row} {rs : List Record} (h : Rebuilds rows rs)
    (hrows : rows.Pairwise fun a b => b.timestamp ≤ a.timestamp) : Record.Descending rs := by
  have hoptions : (rows.map Row.toRecord?).Pairwise fun a b =>
      ∀ r r', a = some r → b = some r' → r'.timestamp ≤ r.timestamp := by
    rw [List.pairwise_map]
    refine hrows.imp fun hle r r' hr hr' => ?_
    rwa [Row.timestamp_of_toRecord? hr, Row.timestamp_of_toRecord? hr']
  rw [Rebuilds] at h
  rw [← h, List.pairwise_map] at hoptions
  exact hoptions.imp fun hle => hle _ _ rfl rfl

theorem Rebuilds.mem {rows : List Row} {rs : List Record} (h : Rebuilds rows rs) {row : Row}
    (hrow : row ∈ rows) {r : Record} (hr : row.toRecord? = some r) : r ∈ rs := by
  have hmem := List.mem_map_of_mem (f := Row.toRecord?) hrow
  rw [← h, hr] at hmem
  exact (List.mem_map_of_injective (Option.some_injective _)).1 hmem

namespace Search

variable {σ : Type} [Store σ] {s : σ} {log : Log}

theorem loaded_everything (limits : ScanLimits) (log : Log) :
    Criteria.loaded limits .everything log = log.newestFirst :=
  List.filter_eq_self.2 fun _ _ => rfl

/-- Without criteria a search shows the records of all rows, the newest first. -/
theorem records_descending (hs : Serves s log) (hr : ∀ row ∈ log, ∃ r, row.toRecord? = some r)
    (limits : ScanLimits) :
    ∃ rs, records limits .everything s = .ok rs ∧ Record.Descending rs ∧
      ∀ row ∈ log, ∀ r, row.toRecord? = some r → r ∈ rs := by
  obtain ⟨rs, hrs, hmeaning⟩ := records_of_serves hs hr limits .everything
  change Rebuilds (Criteria.loaded limits .everything log) rs at hmeaning
  rw [loaded_everything] at hmeaning
  refine ⟨rs, hrs, hmeaning.descending ?_, fun row hrow r hr => hmeaning.mem ?_ hr⟩
  · rw [← reverse_oldestFirst, List.pairwise_reverse]
    exact (arranges_oldestFirst log).ascending
  · exact Log.mem_newestFirst.2 hrow

/-- Without criteria a search succeeds only if all rows can be made into records. -/
theorem readable_of_records (hs : Serves s log) {limits : ScanLimits} {rs : List Record}
    (h : records limits .everything s = .ok rs) : ∀ row ∈ log, ∃ r, row.toRecord? = some r := by
  have hloaded := loaded_of_records hs h
  rw [loaded_everything] at hloaded
  exact fun row hrow => hloaded row (Log.mem_newestFirst.2 hrow)

end Search

/-! ## Two payloads -/

/-- An object that is taken in. -/
structure Arrival where
  stamps : Stamp.Supply
  transport : Option Transport
  members : Json.Members

namespace Arrival

/-- The record of the object. -/
def record (a : Arrival) : Record :=
  Payload.record (a.stamps 0) a.transport (.object a.members)

/-- The object was read from a text, and its timestamp tells a time. -/
structure Timed (a : Arrival) (w : Written) : Prop where
  spelled : ∃ text, Json.read? text = some (.object a.members)
  tells : ∃ v, a.members.get? "timestamp" = some v ∧ Payload.Tells v w

variable {a b : Arrival} {w w' : Written}

theorem Timed.admitted (h : a.Timed w) : w.Admitted :=
  h.tells.choose_spec.2.admitted

theorem Timed.timestamp_eq (h : a.Timed w) : a.record.timestamp = ⟨String.ofList w.chars⟩ := by
  obtain ⟨v, hv, htells⟩ := h.tells
  rw [← htells.timestamp_eq (a.stamps 0).now, ← hv]
  rfl

theorem Timed.toRecord? (h : a.Timed w) : (Row.ofRecord a.record).toRecord? = some a.record := by
  have hmem : a.record ∈ Payload.records a.stamps a.transport (.object a.members) :=
    List.mem_cons_self
  exact Row.toRecord?_ofRecord_eq_self (Payload.fits_of_mem_records h.spelled hmem)

theorem Timed.timestamp_ne (ha : a.Timed w) (hb : b.Timed w') (hne : ⌊w.instant⌋ ≠ ⌊w'.instant⌋) :
    a.record.timestamp ≠ b.record.timestamp := by
  obtain ⟨v, -, htells⟩ := ha.tells
  obtain ⟨v', -, htells'⟩ := hb.tells
  have hinstant := htells.instant? 0
  have hinstant' := htells'.instant? 0
  rw [htells.timestamp_eq, ← ha.timestamp_eq] at hinstant
  rw [htells'.timestamp_eq, ← hb.timestamp_eq] at hinstant'
  intro heq
  rw [heq, hinstant'] at hinstant
  exact hne (Option.some.inj hinstant).symm

variable {σ : Type} [Store σ] {s : σ} {log : Log}

/-- Takes the object in. -/
def ingest (a : Arrival) (s : σ) : Except Unavailable (List Record) × σ :=
  Intake.ingest a.stamps a.transport (.object a.members) s

/-- **Two objects are taken in**, and shown among the records of a store if those of its rows can
all be made. -/
theorem records_of_two (h : Holds s log) (limits : ScanLimits) (ha : a.Timed w) (hb : b.Timed w') :
    ∃ s₁ s₂, a.ingest s = (.ok [a.record], s₁) ∧ b.ingest s₁ = (.ok [b.record], s₂) ∧
      ((∃ rs, Search.records limits .everything s₂ = .ok rs) ↔
        ∀ row ∈ log, ∃ r, row.toRecord? = some r) ∧
      ∀ rs, Search.records limits .everything s₂ = .ok rs →
        Record.Descending rs ∧ a.record ∈ rs ∧ b.record ∈ rs := by
  obtain ⟨s₁, h₁, hholds₁⟩ := h.ingest a.stamps a.transport (.object a.members)
  obtain ⟨s₂, h₂, hholds₂⟩ := hholds₁.ingest b.stamps b.transport (.object b.members)
  have hserves : Serves s₂ (log ++ [Row.ofRecord a.record] ++ [Row.ofRecord b.record]) :=
    hholds₂.serves
  have hmem : Row.ofRecord a.record ∈ log ++ [Row.ofRecord a.record] ++ [Row.ofRecord b.record] :=
    List.mem_append_left _ (List.mem_append_right _ List.mem_cons_self)
  have hmem' : Row.ofRecord b.record ∈ log ++ [Row.ofRecord a.record] ++ [Row.ofRecord b.record] :=
    List.mem_append_right _ List.mem_cons_self
  refine ⟨s₁, s₂, h₁, h₂, ⟨?_, ?_⟩, ?_⟩
  · rintro ⟨rs, hrs⟩ row hrow
    exact Search.readable_of_records hserves hrs row
      (List.mem_append_left _ (List.mem_append_left _ hrow))
  · intro hr
    obtain ⟨rs, hrs, -⟩ := Search.records_descending hserves (fun row hrow => by
      simp only [List.mem_append, List.mem_singleton] at hrow
      rcases hrow with (hrow | rfl) | rfl
      · exact hr row hrow
      · exact ⟨_, ha.toRecord?⟩
      · exact ⟨_, hb.toRecord?⟩) limits
    exact ⟨rs, hrs⟩
  · intro rs hrs
    obtain ⟨rs', hrs', hdescending, hall⟩ := Search.records_descending hserves
      (Search.readable_of_records hserves hrs) limits
    obtain rfl : rs' = rs := Except.ok.inj (hrs'.symm.trans hrs)
    exact ⟨hdescending, hall _ hmem _ ha.toRecord?, hall _ hmem' _ hb.toRecord?⟩

end Arrival

/-- **Exactly when the record of a later instant comes first.** Two objects with the times of two
instants are taken in, in either order, by a store in any state. Neither fails. A search without
criteria succeeds if and only if the rows that were there can all be made into records, and then the
record of the later instant comes first if and only if the text of its time is the greater one: the
canonical text of a number, and any other text as it is. That is where the earlier instant also
reads as the earlier time, each on the clock of its own zone. Where the times are written alike,
that is so unless both are written in the same second, the fraction of the later one goes on behind
that of the earlier one, and the offset of the earlier one is late; it is always so if they are
written to as many digits, and between numbers. -/
theorem shown_first_iff {σ : Type} [Store σ] {s : σ} {log : Log} (h : Holds s log)
    (limits : ScanLimits) {a b : Arrival} {w w' : Written} (ha : a.Timed w) (hb : b.Timed w')
    (hlt : ⌊w.instant⌋ < ⌊w'.instant⌋) :
    (∀ first second, first = a ∧ second = b ∨ first = b ∧ second = a →
      ∃ s₁ s₂, first.ingest s = (.ok [first.record], s₁) ∧
        second.ingest s₁ = (.ok [second.record], s₂) ∧
        ((∃ rs, Search.records limits .everything s₂ = .ok rs) ↔
          ∀ row ∈ log, ∃ r, row.toRecord? = some r) ∧
        ∀ rs, Search.records limits .everything s₂ = .ok rs →
          ([b.record, a.record].Sublist rs ↔ w.chars < w'.chars)) ∧
    (a.record.timestamp = ⟨String.ofList w.chars⟩ ∧
      b.record.timestamp = ⟨String.ofList w'.chars⟩) ∧
    (w.chars < w'.chars ↔ w.ReadsBefore w') ∧
    (w.Alike w' →
      (w.chars < w'.chars ↔
        ¬((w.date = w'.date ∧ w.SameClock w') ∧
          fractionChars w.fraction <+: fractionChars w'.fraction ∧ w.offset.Late)) ∧
      ((fractionChars w.fraction).length = (fractionChars w'.fraction).length →
        w.chars < w'.chars)) ∧
    ∀ i j, w = .ofMillis i → w' = .ofMillis j → w.chars < w'.chars := by
  have hne := ha.timestamp_ne hb (Int.ne_of_lt hlt)
  have hchars : a.record.timestamp < b.record.timestamp ↔ w.chars < w'.chars := by
    rw [ha.timestamp_eq, hb.timestamp_eq, Timestamp.lt_iff]
    show (String.ofList _).toList < (String.ofList _).toList ↔ _
    rw [String.toList_ofList, String.toList_ofList]
  refine ⟨?_, ⟨ha.timestamp_eq, hb.timestamp_eq⟩, Written.chars_lt_iff ha.admitted hb.admitted,
    fun halike => ?_, ?_⟩
  · rintro first second (⟨rfl, rfl⟩ | ⟨rfl, rfl⟩)
    · obtain ⟨s₁, s₂, h₁, h₂, hsucceeds, hshows⟩ := Arrival.records_of_two h limits ha hb
      refine ⟨s₁, s₂, h₁, h₂, hsucceeds, fun rs hrs => ?_⟩
      obtain ⟨hdescending, hmem, hmem'⟩ := hshows rs hrs
      rw [Record.pair_sublist_iff hdescending hmem hmem' hne, hchars]
    · obtain ⟨s₁, s₂, h₁, h₂, hsucceeds, hshows⟩ := Arrival.records_of_two h limits hb ha
      refine ⟨s₁, s₂, h₁, h₂, hsucceeds, fun rs hrs => ?_⟩
      obtain ⟨hdescending, hmem', hmem⟩ := hshows rs hrs
      rw [Record.pair_sublist_iff hdescending hmem hmem' hne, hchars]
  · exact ⟨halike.chars_lt_iff ha.admitted hb.admitted hlt,
      halike.chars_lt ha.admitted hb.admitted hlt⟩
  · rintro i j rfl rfl
    exact (Written.alike_ofMillis i j).chars_lt ha.admitted hb.admitted hlt rfl

/-- An object that gives nothing but its time. -/
def arrivalAt (id : String) (time : Json) : Arrival :=
  ⟨fun _ => ⟨id, 0⟩, none, [("timestamp", time)]⟩

theorem timed_arrivalAt {time : Json} {w : Written} (h : Payload.Tells time w) (id : String) :
    (arrivalAt id time).Timed w := by
  refine ⟨Json.exists_read?_iff.2 ?_, time, rfl, h⟩
  cases h <;>
    simp [arrivalAt, Json.Distinct, Json.DistinctMembers, Entries.names, Json.depth,
      Json.memberDepth, Json.maxDepth]

/-- Nine o'clock. -/
def nine : Written := ⟨⟨2024, 1, 1⟩, 'T', 9, 0, 0, none, .signed '+' 0 0⟩

/-- An hour earlier, on a clock that is two hours ahead. -/
def eightAhead : Written := ⟨⟨2024, 1, 1⟩, 'T', 10, 0, 0, none, .signed '+' 2 0⟩

theorem tells_nine : Payload.Tells (.string "2024-01-01T09:00:00+00:00") nine := by
  have hchars : "2024-01-01T09:00:00+00:00" = String.ofList nine.chars := by decide
  rw [hchars]
  exact .written
    ⟨by decide, by decide, by decide, by decide, by decide, by decide, nofun, by decide⟩

theorem tells_eightAhead : Payload.Tells (.string "2024-01-01T10:00:00+02:00") eightAhead := by
  have hchars : "2024-01-01T10:00:00+02:00" = String.ofList eightAhead.chars := by decide
  rw [hchars]
  exact .written
    ⟨by decide, by decide, by decide, by decide, by decide, by decide, nofun, by decide⟩

theorem floor_instant_nine : ⌊nine.instant⌋ = 1704099600000 := by
  rw [Time.Rfc3339.floor_instant_of_admitted tells_nine.admitted]
  decide

theorem floor_instant_eightAhead : ⌊eightAhead.instant⌋ = 1704096000000 := by
  rw [Time.Rfc3339.floor_instant_of_admitted tells_eightAhead.admitted]
  decide

/-- Half a second after nine, as a number, and nine o'clock, as a text without a fraction, arrive at
    a durable store with a row. The later one comes first. -/
theorem shown_first_iff_half_second :
    ∃ s disk' s₁ s₂ rs, DurableStore.openRoute [] ⟨true, [.into "logs.jsonl"], false, 11, 1⟩
        ⟨[(["logs.jsonl"],
          .file (DurableStore.encode [⟨⟨"0", ⟨"2024"⟩, "old", "info", "api"⟩, "{}"⟩]))]⟩ =
        (.ok s, disk') ∧
      ⌊nine.instant⌋ < ⌊(Written.ofMillis 1704099600500).instant⌋ ∧
      (arrivalAt "1" (.ofInt 1704099600500)).ingest s =
        (.ok [(arrivalAt "1" (.ofInt 1704099600500)).record], s₁) ∧
      (arrivalAt "2" (.string "2024-01-01T09:00:00+00:00")).ingest s₁ =
        (.ok [(arrivalAt "2" (.string "2024-01-01T09:00:00+00:00")).record], s₂) ∧
      Search.records ⟨5000, 1000⟩ .everything s₂ = .ok rs ∧
      [(arrivalAt "1" (.ofInt 1704099600500)).record,
        (arrivalAt "2" (.string "2024-01-01T09:00:00+00:00")).record].Sublist rs := by
  have hyears : InYears 1704099600500 := by decide
  have hnumber : Payload.Tells (.ofInt 1704099600500) (.ofMillis 1704099600500) :=
    .integer hyears
  have hlt : ⌊nine.instant⌋ < ⌊(Written.ofMillis 1704099600500).instant⌋ := by
    rw [floor_instant_nine, Written.floor_instant_ofMillis hyears]
    decide
  have hopen := DurableStore.openRoute_root
    (DurableStore.decode_encode [⟨⟨"0", ⟨"2024"⟩, "old", "info", "api"⟩, "{}"⟩])
  obtain ⟨log, hlog, hholds⟩ := DurableStore.holds_of_open hopen
  change DurableStore.decode (DurableStore.encode _) = _ at hlog
  rw [DurableStore.decode_encode] at hlog
  obtain rfl := Except.ok.inj hlog
  have hrecord : Row.toRecord? ⟨⟨"0", ⟨"2024"⟩, "old", "info", "api"⟩, "{}"⟩ =
      some ⟨⟨"0", ⟨"2024"⟩, "old", "info", "api"⟩, []⟩ := by
    cbv
  obtain ⟨hshown, -⟩ := shown_first_iff hholds ⟨5000, 1000⟩ (timed_arrivalAt tells_nine "2")
    (timed_arrivalAt hnumber "1") hlt
  obtain ⟨s₁, s₂, h₁, h₂, hsucceeds, hfirst⟩ := hshown _ _ (.inr ⟨rfl, rfl⟩)
  obtain ⟨rs, hrs⟩ := hsucceeds.2 (List.forall_mem_singleton.2 ⟨_, hrecord⟩)
  exact ⟨_, _, s₁, s₂, rs, hopen, hlt, h₁, h₂, hrs, (hfirst rs hrs).2 (by decide)⟩

/-- **A later instant may come behind an earlier one**: nine o'clock comes behind an hour earlier,
for that was ten o'clock in its own zone. -/
theorem shown_first_other_zone :
    ∃ (l₁ l₂ : Ledger) (rs : List Record), ⌊eightAhead.instant⌋ < ⌊nine.instant⌋ ∧
      Payload.Tells (.string "2024-01-01T10:00:00+02:00") eightAhead ∧
      Payload.Tells (.string "2024-01-01T09:00:00+00:00") nine ∧
      (arrivalAt "1" (.string "2024-01-01T10:00:00+02:00")).ingest Ledger.empty =
        (.ok [(arrivalAt "1" (.string "2024-01-01T10:00:00+02:00")).record], l₁) ∧
      (arrivalAt "2" (.string "2024-01-01T09:00:00+00:00")).ingest l₁ =
        (.ok [(arrivalAt "2" (.string "2024-01-01T09:00:00+00:00")).record], l₂) ∧
      Search.records ⟨5000, 1000⟩ .everything l₂ = .ok rs ∧
      ¬[(arrivalAt "2" (.string "2024-01-01T09:00:00+00:00")).record,
        (arrivalAt "1" (.string "2024-01-01T10:00:00+02:00")).record].Sublist rs := by
  have hlt : ⌊eightAhead.instant⌋ < ⌊nine.instant⌋ := by
    rw [floor_instant_nine, floor_instant_eightAhead]
    decide
  have hearlier := timed_arrivalAt tells_eightAhead "1"
  have hlater := timed_arrivalAt tells_nine "2"
  obtain ⟨l₁, l₂, h₁, h₂, hsucceeds, hshows⟩ :=
    Arrival.records_of_two (.ledger Arranges.nil) ⟨5000, 1000⟩ hearlier hlater
  obtain ⟨rs, hrs⟩ := hsucceeds.2 fun _ hrow => absurd hrow List.not_mem_nil
  obtain ⟨hdescending, hmem, hmem'⟩ := hshows rs hrs
  refine ⟨l₁, l₂, rs, hlt, tells_eightAhead, tells_nine, h₁, h₂, hrs, ?_⟩
  rw [Record.pair_sublist_iff hdescending hmem hmem'
    (hearlier.timestamp_ne hlater (Int.ne_of_lt hlt)), hearlier.timestamp_eq, hlater.timestamp_eq]
  decide

end Logbook
