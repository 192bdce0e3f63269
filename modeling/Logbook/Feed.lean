import Logbook.Intake
import Logbook.Text.Lines
import Logbook.Text.Utf8

/-!
# Feeds

A feed turns a stream of bytes into payloads, one for each line that is not blank. A line that is
JSON is its own payload; any other line is wrapped as a record of the current instant. Bytes that
are not UTF-8 are replaced, line by line.

Results:

* `deliveries_transport`: every payload travels with the transport that the options ask for.
* `send_nil`: a stream without lines sends nothing.
-/

namespace Logbook.Feed

/-- Where a stream comes from. -/
inductive Origin where
  | stdin
  | file
  deriving DecidableEq

/-- The name of an origin. -/
def Origin.name : Origin → String
  | .stdin => "stdin"
  | .file => "file"

/-- How lines become payloads. -/
structure Options where
  /-- The service of lines that have none of their own. -/
  service : String
  /-- Whether the service is forced on every payload by the transport. -/
  forced : Bool
  deriving DecidableEq

namespace Options

/-- The transport of the payloads. -/
def transport (o : Options) : Option Transport :=
  if o.forced then some ⟨some o.service⟩ else none

end Options

/-- A payload on its way to a store. -/
structure Delivery where
  payload : Json
  transport : Option Transport
  origin : Origin

/-! ## Lines -/

/-- A line without the line ends at its end. -/
def stripEnds (line : List Char) : List Char :=
  (line.reverse.dropWhile fun c => c == '\r' || c == '\n').reverse

/-- A line that is not JSON as a payload of the current instant. -/
def wrapped (now : Int) (service : String) (line : List Char) : Json :=
  .object [("timestamp", .ofInt now), ("level", .string Payload.defaultLevel),
    ("message", .string (String.ofList line)), ("service", .string service)]

/-- Whether an object lacks a service: it has none, or it is null or empty. -/
def lacksService (ms : Json.Members) : Bool :=
  match ms.get? "service" with
  | none => true
  | some .null => true
  | some (.string s) => s == ""
  | some _ => false

/-- A payload with the service filled in if it is an object that lacks one. -/
def fillService (service : String) : Json → Json
  | .object ms =>
    .object (if lacksService ms && service != "" then
      Entries.put "service" (.string service) ms else ms)
  | v => v

/-- The payload of a line; blank lines have none. -/
def payload? (now : Int) (service : String) (line : List Char) : Option Json :=
  let body := stripEnds line
  if Text.allBlank body then none
  else
    some (fillService service ((Json.read? (String.ofList body)).getD (wrapped now service body)))

/-! ## Streams -/

/-- The byte that ends a line. -/
def isLineEnd (b : UInt8) : Bool := b == 10

/-- The deliveries of a stream, with the clock read once for each line. -/
def deliveries (clock : Nat → Int) (origin : Origin) (o : Options) (bytes : List UInt8) :
    List Delivery :=
  ((Text.lines isLineEnd bytes).mapIdx fun i line =>
    (payload? (clock i) o.service (Text.Utf8.decode line)).map (⟨·, o.transport, origin⟩)).filterMap
      id

/-- The deliveries that reach a receiver which takes at most `capacity` of them, or all. -/
def received (capacity : Option Nat) (ds : List Delivery) : List Delivery :=
  match capacity with
  | some n => ds.take n
  | none => ds

/-- The first line of a stream with the line end that closes it, if one does. -/
def firstLine (bytes : List UInt8) : List UInt8 :=
  bytes.takeWhile (fun b => !isLineEnd b) ++ (bytes.dropWhile fun b => !isLineEnd b).take 1

/-- Reads what is left of a stream line by line and sends the payloads to a receiver that closes
    after `capacity` of them, or never; `read` lines are read and `sent` payloads sent before. Gives
    the number of payloads sent in all, and the deliveries of the lines read here. -/
def send (clock : Nat → Int) (origin : Origin) (o : Options) (capacity : Option Nat)
    (read sent : Nat) : List UInt8 → Nat × List Delivery
  | [] => (sent, [])
  | b :: bs =>
    match payload? (clock read) o.service (Text.Utf8.decode (firstLine (b :: bs))) with
    | none => send clock origin o capacity (read + 1) sent (Text.afterLine isLineEnd (b :: bs))
    | some v =>
      if capacity = some sent then (sent, [])
      else
        let rest := send clock origin o capacity (read + 1) (sent + 1)
          (Text.afterLine isLineEnd (b :: bs))
        (rest.1, ⟨v, o.transport, origin⟩ :: rest.2)
termination_by bytes => bytes.length
decreasing_by all_goals exact Text.afterLine_length isLineEnd b bs

theorem send_nil (clock : Nat → Int) (origin : Origin) (o : Options) (capacity : Option Nat)
    (read sent : Nat) : send clock origin o capacity read sent [] = (sent, []) := by
  rw [send]

theorem deliveries_transport {clock : Nat → Int} {origin : Origin} {o : Options}
    {bytes : List UInt8} {d : Delivery} (h : d ∈ deliveries clock origin o bytes) :
    d.transport = o.transport ∧ d.origin = origin := by
  simp only [deliveries, List.mem_filterMap, id_eq, exists_eq_right, List.mem_mapIdx] at h
  obtain ⟨i, hi, he⟩ := h
  obtain ⟨v, -, rfl⟩ := Option.map_eq_some_iff.1 he
  exact ⟨rfl, rfl⟩

/-! ## Storing -/

variable {σ : Type} [Store σ]

/-- Stores deliveries one after the other, up to the first that fails, and gives the number of
    records stored. The first `used` stamps of the supply are taken. -/
def store (stamps : Stamp.Supply) (used : Nat) : List Delivery → σ → Except Unavailable Nat × σ
  | [], s => (.ok 0, s)
  | d :: rest, s =>
    match Intake.ingest (stamps.drop used) d.transport d.payload s with
    | (.error e, s) => (.error e, s)
    | (.ok records, s) =>
      let (outcome, s) := store stamps (used + records.length) rest s
      (outcome.map (records.length + ·), s)

end Logbook.Feed
