import Logbook.Command.Arguments
import Logbook.Feed
import Logbook.Search
import Logbook.Settings
import Logbook.Store.Durable
import Logbook.Intake

/-!
# Running commands

A command runs on the machine that it is given: a disk, a directory in which it is called,
variables, an input, a clock and a supply of stamps. It prints to two outputs, ends with a code and
leaves a disk. The file of traces is made first if it is wanted, then settings are read, then the
store is opened, then the command does its work; the first failure ends the run.
-/

namespace Logbook

/-- The machine that a command runs on. -/
structure Host where
  disk : Disk
  directory : Path
  environment : Variables
  stdin : List UInt8
  clock : Nat → Int
  stamps : Stamp.Supply

/-- What a command leaves besides the disk. -/
structure Outcome where
  code : Nat
  out : String
  err : String
  deriving DecidableEq

namespace Command

/-- Why a command fails. -/
inductive Failure where
  /-- The file of traces cannot be written. -/
  | traces
  /-- There are no settings. -/
  | settings
  /-- The store at this path as written does not open. -/
  | store (path : String)
  /-- The file at this path as written does not open. -/
  | file (path : String)
  /-- The file cannot be read. -/
  | unreadable
  | format (e : UnknownFormat)
  /-- A removal has no bounds. -/
  | unbounded
  | unavailable (e : Unavailable)
  deriving DecidableEq

/-- The wording of a failure. -/
def Failure.message : Failure → String
  | .traces => IoReason.system.message
  | .settings => "loading configuration"
  | .store path => "opening store " ++ path
  | .file path => "opening " ++ path
  | .unreadable => IoReason.system.message
  | .format e => e.message
  | .unbounded => "refusing to delete everything without a filter; use \x60mrelic clear\x60"
  | .unavailable e => e.message

/-- What a command that succeeds prints. -/
structure Printed where
  out : String
  err : String
  deriving DecidableEq

/-- A line on the first output. -/
def Printed.line (s : String) : Printed := ⟨s ++ "\n", ""⟩

/-- What is printed when a number of records is removed. -/
def removed (n : Nat) : Printed :=
  .line s!"deleted {n} records"

/-- The answer of a store as that of a command. -/
def told {α : Type} (answer : Except Unavailable α) : Except Failure α :=
  answer.mapError .unavailable

/-! ## Taking lines in -/

/-- The service of a feed: the one that is asked for, or that of the settings, or the name of the
    directory. -/
def feedService (settings : Settings) (directory : Path) (asked : Option String) : String :=
  (asked <|> nonEmpty (some settings.feedService)).getD (directory.getLast?.getD "system")

/-- The bytes of a feed and where they come from. -/
def source (host : Host) (disk : Disk) :
    Option String → Except Failure (Feed.Origin × List UInt8)
  | none => .ok (.stdin, host.stdin)
  | some file =>
    match (disk.follow? host.directory (Route.ofString file)).bind disk.get? with
    | none => .error (.file file)
    | some .directory => .error .unreadable
    | some (.file content) => .ok (.file, content.toList)

variable {σ : Type} [Store σ]

/-- Stores a feed and tells the number of records. -/
def takeIn (host : Host) (disk : Disk) (options : Feed.Options) (file : Option String) (s : σ) :
    Except Failure Printed × σ :=
  match source host disk file with
  | .error e => (.error e, s)
  | .ok (origin, bytes) =>
    let (stored, s) := Feed.store host.stamps 0 (Feed.deliveries host.clock origin options bytes) s
    ((told stored).map fun n => .line s!"ingested {n} records", s)

/-! ## Showing records -/

/-- The lines of records. -/
def linesOf (format : LineFormat) (rs : List Record) : String :=
  String.join (rs.map fun r => r.line format ++ "\n")

/-- Prints a page, and for the eye how many records there are. -/
def showPage (settings : Settings) (c : Criteria) (format : Option LineFormat) (s : σ) :
    Except Failure Printed := do
  let format ← match format with
    | some f => .ok f
    | none => (LineFormat.parse settings.format).mapError .format
  let result ← told <|
    Search.query settings.limits { c with limit := some (c.limit.getD settings.pageSize) } s
  return {
    out := linesOf format result.records
    err := if format = .raw then s!"{result.records.length} of {result.total} records\n" else "" }

/-- Prints the facets as an object. -/
def showFacets (s : σ) : Except Unavailable Printed := do
  let levels ← Search.levels s
  let services ← Search.services s
  return .line (Json.object [("levels", .ofStrings levels), ("services", .ofStrings services)]).text

/-! ## Running -/

/-- Does the work of a command on a store. -/
def perform (settings : Settings) (host : Host) (disk : Disk) (command : Command) (s : σ) :
    Except Failure Printed × σ :=
  match command with
  | .ingest service forced file =>
    takeIn host disk ⟨feedService settings host.directory service, forced⟩ file s
  | .query c format => (showPage settings c format s, s)
  | .count c => ((told (Search.count settings.limits c s)).map fun n => .line (toString n), s)
  | .facets => (told (showFacets s), s)
  | .delete cleanup =>
    if cleanup.deletion = .all then (.error .unbounded, s)
    else
      let (answer, s) := Upkeep.delete cleanup s
      ((told answer).map removed, s)
  | .clear =>
    let (answer, s) := Upkeep.clear s
    ((told answer).map removed, s)
  | .size => ((told (Upkeep.size s)).map fun n => .line (toString n), s)

/-- Opens the store at a path as written, and gives the disk afterwards. -/
def openStore (directory : Path) (name : String) (disk : Disk) :
    Except Failure DurableStore × Disk :=
  let (opened, disk) := DurableStore.openRoute directory (Route.ofString name) disk
  (opened.mapError fun _ => .store name, disk)

/-- The path of the file of traces as written: in the directory that a variable names for files
    that need not last, or in the usual one. -/
def traceRoute (vars : Variables) : Route :=
  Route.ofString (Route.join ((vars.get? "TMPDIR").getD "/tmp") "mrelic-debug.log")

/-- The disk with the file of traces, which is made if it is missing and otherwise goes on as it is.
    What a trace says is no part of what a command does, and none is written here. -/
def makeTraces? (host : Host) : Option Disk :=
  host.disk.follow? host.directory (traceRoute host.environment) >>= fun path =>
    host.disk.append? path .empty

/-- Runs a command on a disk, and gives the disk afterwards. -/
def Invocation.runOn (i : Invocation) (host : Host) (disk : Disk) :
    Except Failure Printed × Disk :=
  match Settings.load host.environment host.directory disk with
  | (.error _, disk) => (.error .settings, disk)
  | (.ok settings, disk) =>
    match openStore host.directory (i.store.getD settings.storePath) disk with
    | (.error e, disk) => (.error e, disk)
    | (.ok s, disk) =>
      let (answer, s) := perform settings host disk i.command s
      (answer, s.disk)

/-- Runs a command, and gives the disk afterwards. -/
def Invocation.run (i : Invocation) (host : Host) : Except Failure Printed × Disk :=
  match if i.traced then makeTraces? host else some host.disk with
  | none => (.error .traces, host.disk)
  | some disk => Invocation.runOn i host disk

/-- The places that a path as written passes through and ends at, seen from a directory. -/
def placesOf (directory : Path) (route : Route) : List Path :=
  Route.places route.steps (route.start directory)

/-- The paths outside the settings that a command may read or write. -/
def Invocation.paths (i : Invocation) (host : Host) : List Path :=
  match (Settings.load host.environment host.directory host.disk).1 with
  | .error _ => []
  | .ok settings =>
    let store := Route.ofString (i.store.getD settings.storePath)
    let fed := match i.command with
      | .ingest _ _ (some file) => placesOf host.directory (Route.ofString file)
      | _ => []
    let traces := if i.traced then placesOf host.directory (traceRoute host.environment) else []
    placesOf host.directory store ++
      [DurableStore.sibling (Route.target store.steps (store.start host.directory))] ++ fed ++
      traces

/-- How the program is used. -/
def usageText : String :=
  "Usage: mrelic [--debug] [--db DB] ingest|query|count|facets|delete|clear|size [OPTIONS]\n"

/-- The outcome of arguments that make no command. -/
def Stop.outcome : Stop → Outcome
  | .usage => ⟨2, "", usageText⟩
  | .help => ⟨0, usageText, ""⟩
  | .version => ⟨0, "mrelic 0.1.0\n", ""⟩

/-- The outcome of a command. -/
def outcomeOf : Except Failure Printed → Outcome
  | .ok p => ⟨0, p.out, p.err⟩
  | .error e => ⟨1, "", "Error: " ++ e.message ++ "\n"⟩

/-- Runs what the arguments ask for, and gives the disk afterwards. -/
def run (args : List String) (host : Host) : Outcome × Disk :=
  match parse args with
  | .error stop => (stop.outcome, host.disk)
  | .ok i =>
    let (answer, disk) := Invocation.run i host
    (outcomeOf answer, disk)

end Command

end Logbook
