import Logbook.Identifier
import Logbook.Record
import Logbook.Text.Lines

/-!
# Payloads

Any JSON value is accepted as a payload and becomes a record. An object names its message, level
and service under one of several names, of which the first with a *present* value counts; all
members but those named like a header field other than the id become attributes. Anything else
becomes a record with the value as its message.

Results:

* `record_of_not_object`: the record of a value that is not an object.
-/

namespace Logbook

/-- What the transport says about a payload. -/
structure Transport where
  /-- The service named by the transport, if one is. -/
  service : Option String
  deriving DecidableEq

namespace Payload

/-- The level of a record that has none of its own. -/
def defaultLevel : String := "info"

/-- The service of a record that has none of its own. -/
def defaultService : String := "system"

/-! ## Times -/

/-- The numeral that the longest prefix of at most `length` characters spells. -/
def longestNumeral? (cs : List Char) : (length : Nat) → Option Number.Numeral
  | 0 => none
  | length + 1 =>
    match Number.liberal? (cs.take (length + 1)) with
    | some n => some n
    | none => longestNumeral? cs length

/-- Whether a character may stand in a numeral. -/
def isNumeralChar (c : Char) : Bool :=
  Number.isDigit c || c == '.' || c == '+' || c == '-' || c == 'e' || c == 'E'

/-- The number at the front of a text, after blanks: that of the longest numeral. `none` if there
    is none or it overflows. -/
def leadingNumber? (s : String) : Option Number.Binary64 :=
  let cs := (Text.trimStart s.toList).takeWhile isNumeralChar
  longestNumeral? cs cs.length >>= Number.Numeral.toBinary64?

/-- The timestamp of a number of milliseconds with a fraction, which is cut off. Numbers outside
    the signed words of 64 bits have no timestamp. -/
def timestampOfReal (ms : Option Number.Binary64) : Timestamp :=
  match ms with
  | some x => if x.magnitudeBelow Number.integerLimit then .ofMillis x.truncate else .invalid
  | none => .invalid

/-- The timestamp that a payload asks for: a number of milliseconds, a text that looks like a
    date, or a text that begins with a number of milliseconds. Anything else is the current
    instant. -/
def timestamp (now : Int) : Option Json → Timestamp
  | some (.number (.integer n _)) =>
    if n < Number.integerLimit then .ofMillis n
    else timestampOfReal (Number.Binary64.ofNat? n.toNat)
  | some (.number (.real x)) => timestampOfReal (some x)
  | some (.string s) =>
    if s.toList.contains '-' then ⟨s⟩
    else if s = "" then .ofMillis now
    else timestampOfReal (leadingNumber? s)
  | _ => .ofMillis now

/-! ## Fields under several names -/

/-- Whether a value says anything: not null, not false, not zero and not the empty text. -/
def isPresent : Json → Bool
  | .null => false
  | .bool b => b
  | .number (.integer n _) => n != 0
  | .number (.real x) => !x.isZero
  | .string s => s != ""
  | .array _ => true
  | .object _ => true

/-- The first present value under one of the names. -/
def firstPresent? (ms : Json.Members) (names : List String) : Option Json :=
  (names.filterMap ms.get?).find? isPresent

/-- The names under which an object gives its message. -/
def messageNames : List String := ["message", "msg", "body"]

/-- The names under which an object gives its level. -/
def levelNames : List String := ["level", "severity"]

/-- The names under which an object gives its service. -/
def serviceNames : List String := ["service", "serviceName", "service_name"]

/-! ## Records -/

/-- The service named by the transport, if it is not empty. -/
def transportService? (transport : Option Transport) : Option String :=
  (transport.bind (·.service)).filter (· != "")

/-- Whether a member of an object becomes an attribute. -/
def isAttribute (name : String) : Bool :=
  name == "id" || !Record.isCanonical name

/-- The record of an object. -/
def recordOfObject (stamp : Stamp) (transport : Option Transport) (ms : Json.Members) : Record where
  id := stamp.id
  timestamp := timestamp stamp.now (ms.get? "timestamp")
  message := ((firstPresent? ms messageNames).getD (.string (Json.text (.object ms)))).display
  level := ((firstPresent? ms levelNames).getD (.string defaultLevel)).display
  service := match transportService? transport with
    | some s => s
    | none => ((firstPresent? ms serviceNames).getD (.string defaultService)).display
  attributes := ms.filter fun m => isAttribute m.1

/-- The record of a value that is not an object. -/
def recordOfOther (stamp : Stamp) (transport : Option Transport) (v : Json) : Record where
  id := stamp.id
  timestamp := .ofMillis stamp.now
  message := if v.display = "" then v.text else v.display
  level := defaultLevel
  service := (transportService? transport).getD defaultService
  attributes := []

/-- The record of a payload. -/
def record (stamp : Stamp) (transport : Option Transport) : Json → Record
  | .object ms => recordOfObject stamp transport ms
  | v => recordOfOther stamp transport v

/-- The records of a payload: one for each item of an array, one for anything else. -/
def records (stamps : Stamp.Supply) (transport : Option Transport) : Json → List Record
  | .array items => items.mapIdx fun i item => record (stamps i) transport item
  | v => [record (stamps 0) transport v]

theorem record_of_not_object (stamp : Stamp) (transport : Option Transport) {v : Json}
    (h : ∀ ms, v ≠ .object ms) : record stamp transport v = recordOfOther stamp transport v := by
  cases v with
  | object ms => exact absurd rfl (h ms)
  | null => rfl
  | bool b => rfl
  | number n => rfl
  | string s => rfl
  | array items => rfl

end Payload

end Logbook
