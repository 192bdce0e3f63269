import Logbook.Time.Rfc3339

/-!
# Timestamps

The time of a record is a text: the canonical text of an instant, a text that its producer sent
and that already looked like a date, or a mark that no instant could be made of it. Timestamps are
ordered as texts, which for canonical ones is the order of time; the mark comes after them all,
because it begins with a letter.

Results:

* `lt_iff`: the order is that of the texts.
* `le_total`, `le_trans`, `le_antisymm`: the order is a linear one.
-/

namespace Logbook

/-- The time of a record. -/
structure Timestamp where
  text : String
  deriving DecidableEq

namespace Timestamp

instance : LT Timestamp := ⟨fun a b => a.text < b.text⟩

instance : LE Timestamp := ⟨fun a b => a.text ≤ b.text⟩

instance (a b : Timestamp) : Decidable (a < b) :=
  inferInstanceAs (Decidable (a.text < b.text))

instance (a b : Timestamp) : Decidable (a ≤ b) :=
  inferInstanceAs (Decidable (a.text ≤ b.text))

theorem lt_iff {a b : Timestamp} : a < b ↔ a.text < b.text := Iff.rfl

theorem le_refl (a : Timestamp) : a ≤ a :=
  String.le_refl a.text

theorem le_trans {a b c : Timestamp} (h : a ≤ b) (h' : b ≤ c) : a ≤ c :=
  String.le_trans (a := a.text) h h'

theorem le_total (a b : Timestamp) : a ≤ b ∨ b ≤ a :=
  String.le_total a.text b.text

theorem le_antisymm {a b : Timestamp} (h : a ≤ b) (h' : b ≤ a) : a = b :=
  congrArg Timestamp.mk (String.le_antisymm h h')

theorem not_le {a b : Timestamp} : ¬ a ≤ b ↔ b < a :=
  String.not_le

/-- The mark for a time that is no instant of the years 0 to 9999. -/
def invalid : Timestamp := ⟨"Invalid Date"⟩

/-- Whether the timestamp is the mark. -/
def isInvalid (t : Timestamp) : Bool :=
  t == invalid

/-- The canonical text of an instant. -/
def ofInstant (t : Time.Instant) : Timestamp :=
  match t.sinceYearZero? with
  | some ms => ⟨String.ofList (Time.canonicalText ms t.leap)⟩
  | none => invalid

/-- The canonical text of a number of milliseconds since 1970-01-01. -/
def ofMillis (ms : Int) : Timestamp :=
  ofInstant (.ofMillis ms)

/-- The instant that the text spells, if it is an RFC 3339 time. -/
def instant? (t : Timestamp) : Option Time.Instant :=
  Time.Rfc3339.read? t.text.toList

/-- The order of two timestamps. -/
def compare (a b : Timestamp) : Ordering :=
  if a < b then .lt else if b < a then .gt else .eq

/-- A time bound in the form that compares with canonical timestamps: an RFC 3339 time becomes
    canonical, anything else stays as it is. -/
def bound (text : String) : Timestamp :=
  match (⟨text⟩ : Timestamp).instant? with
  | some t => ofInstant t
  | none => ⟨text⟩

end Timestamp

end Logbook
