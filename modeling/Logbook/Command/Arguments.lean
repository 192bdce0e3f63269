import Logbook.Criteria
import Logbook.Record.Line

/-!
# Commands and their arguments

What a user may ask for, and how it is written. Arguments are read from left to right. An option
takes the next argument or what follows its equals sign, at most once; a command has at most one
argument by itself, its query. A query may begin with a hyphen, so while one may still come,
whatever is no known option is a query or the value of the option before it. After two hyphens by
themselves every argument counts as it is. The path of the store may be given before the name of the
command and after it; the later place wins.
-/

namespace Logbook

/-! ## Commands -/

/-- What a user asks for. -/
inductive Command where
  /-- Stores the lines of a file, or of the standard input if no file is given. -/
  | ingest (service : Option String) (forced : Bool) (file : Option String)
  /-- Prints a page of the records that the criteria ask for. -/
  | query (criteria : Criteria) (format : Option LineFormat)
  /-- Prints the number of records that the criteria ask for. -/
  | count (criteria : Criteria)
  /-- Prints the levels and services of the store. -/
  | facets
  /-- Removes records by service and age. -/
  | delete (cleanup : Cleanup)
  /-- Removes all records. -/
  | clear
  /-- Prints the space that the store takes. -/
  | size
  deriving DecidableEq

/-- A command, the path of the store as written if one is given, and whether traces are wanted. -/
structure Invocation where
  store : Option String
  traced : Bool
  command : Command
  deriving DecidableEq

namespace Command

/-! ## Arguments -/

/-- An argument by its form. -/
inductive Argument where
  | plain
  /-- Two hyphens by themselves. -/
  | separator
  | long (name : String) (value : Option String)
  | short (letters : List Char)
  deriving DecidableEq

/-- The form of an argument. A hyphen by itself is plain. -/
def Argument.ofString (s : String) : Argument :=
  match s.toList with
  | ['-', '-'] => .separator
  | '-' :: '-' :: body =>
    let name := String.ofList (body.takeWhile (· != '='))
    match body.dropWhile (· != '=') with
    | [] => .long name none
    | _ :: value => .long name (some (String.ofList value))
  | '-' :: c :: rest => .short (c :: rest)
  | _ => .plain

/-! ## What a command takes -/

/-- The name of a command. -/
inductive Verb where
  | ingest
  | query
  | count
  | facets
  | delete
  | clear
  | size
  deriving DecidableEq

/-- The command with a name. -/
def Verb.ofName? (s : String) : Option Verb :=
  [("ingest", Verb.ingest), ("query", .query), ("count", .count), ("facets", .facets),
    ("delete", .delete), ("clear", .clear), ("size", .size)].lookup s

/-- An option with a value. -/
inductive Slot where
  | store
  | service
  | file
  | level
  | start
  | stop
  | limit
  | offset
  | format
  | before
  deriving DecidableEq

/-- The name of an option with a value. -/
def Slot.name : Slot → String
  | .store => "db"
  | .service => "service"
  | .file => "file"
  | .level => "level"
  | .start => "since"
  | .stop => "until"
  | .limit => "limit"
  | .offset => "offset"
  | .format => "format"
  | .before => "before"

/-- An option without a value. -/
inductive Switch where
  /-- Asks for a file of traces. -/
  | debug
  /-- Forces the service on every record. -/
  | force
  deriving DecidableEq

/-- The name of an option without a value. -/
def Switch.name : Switch → String
  | .debug => "debug"
  | .force => "force-service"

/-- What may be given at one place of the arguments: before the name of the command, or after
    it. -/
structure Level where
  slots : List Slot
  switches : List Switch
  takesQuery : Bool
  /-- Whether the version of the program may be asked for. -/
  tellsVersion : Bool

/-- What may be given before the name of the command. -/
def Level.top : Level := ⟨[.store], [.debug], false, true⟩

/-- What may be given after the name of a command. -/
def Verb.level : Verb → Level
  | .ingest => ⟨[.store, .service, .file], [.debug, .force], false, false⟩
  | .query =>
    ⟨[.store, .level, .service, .start, .stop, .limit, .offset, .format], [.debug], true, false⟩
  | .count => ⟨[.store, .level, .service, .start, .stop], [.debug], true, false⟩
  | .delete => ⟨[.store, .service, .before], [.debug], false, false⟩
  | _ => ⟨[.store], [.debug], false, false⟩

/-! ## What is given -/

/-- What the arguments give. -/
structure Given where
  store : Option String
  service : Option String
  file : Option String
  level : Option String
  start : Option String
  stop : Option String
  limit : Option Nat
  offset : Option Nat
  format : Option LineFormat
  before : Option String
  query : Option String
  switches : List Switch

/-- What no arguments give. -/
def Given.nothing : Given :=
  ⟨none, none, none, none, none, none, none, none, none, none, none, []⟩

/-- A value that is read for the first time. -/
def once? {α : Type} (old new : Option α) : Option (Option α) :=
  if old.isSome then none else new.map some

/-- The number that the text of an option spells. -/
def number? (v : String) : Option Nat :=
  Number.word? v.toList

/-- What is given together with the value of an option. A path may not be empty. -/
def Given.fill? (g : Given) (slot : Slot) (v : String) : Option Given :=
  match slot with
  | .store => (once? g.store (nonEmpty (some v))).map fun x => { g with store := x }
  | .service => (once? g.service (some v)).map fun x => { g with service := x }
  | .file => (once? g.file (nonEmpty (some v))).map fun x => { g with file := x }
  | .level => (once? g.level (some v)).map fun x => { g with level := x }
  | .start => (once? g.start (some v)).map fun x => { g with start := x }
  | .stop => (once? g.stop (some v)).map fun x => { g with stop := x }
  | .limit => (once? g.limit (number? v)).map fun x => { g with limit := x }
  | .offset => (once? g.offset (number? v)).map fun x => { g with offset := x }
  | .format => (once? g.format (LineFormat.parse v).toOption).map fun x => { g with format := x }
  | .before => (once? g.before (some v)).map fun x => { g with before := x }

/-! ## Reading -/

/-- Why the arguments make no command. -/
inductive Stop where
  /-- They are malformed. -/
  | usage
  /-- They ask how to use the program. -/
  | help
  /-- They ask for its version. -/
  | version
  deriving DecidableEq

/-- What an argument means at a place. -/
inductive Meaning where
  /-- A value, or an argument by itself. -/
  | value
  | slot (s : Slot) (value : Option String)
  | switch (s : Switch)
  | stop (s : Stop)

/-- What a long option means. -/
def Level.long (level : Level) (mayQuery : Bool) (name : String) (value : Option String) :
    Meaning :=
  let bare (m : Meaning) : Meaning := if value.isSome then .stop .usage else m
  if name = "help" then bare (.stop .help)
  else if name = "version" ∧ level.tellsVersion then bare (.stop .version)
  else
    match level.slots.find? (·.name == name), level.switches.find? (·.name == name) with
    | some s, _ => .slot s value
    | none, some s => bare (.switch s)
    | none, none => if mayQuery then .value else .stop .usage

/-- What a letter after a hyphen asks for, if it is known. -/
def Level.letter? (level : Level) (c : Char) : Option Stop :=
  if c = 'h' then some .help
  else if c = 'V' ∧ level.tellsVersion then some .version
  else none

/-- What an argument means, if it is not the separator. -/
def Level.meaning (level : Level) (mayQuery : Bool) : Argument → Meaning
  | .long name value => level.long mayQuery name value
  | .short letters =>
    if mayQuery ∧ letters.any fun c => (level.letter? c).isNone then .value
    else .stop ((letters.head?.bind level.letter?).getD .usage)
  | _ => .value

/-- How far reading has come. -/
structure Reader where
  level : Level
  /-- The option whose value comes next. -/
  waiting : Option Slot
  /-- Whether every argument counts as it is. -/
  literal : Bool
  given : Given

namespace Reader

/-- Reading begins. -/
def start (level : Level) : Reader := ⟨level, none, false, .nothing⟩

/-- Whether a query may still come. -/
def mayQuery (r : Reader) : Bool :=
  r.level.takesQuery && r.given.query.isNone

/-- Takes the value of an option. -/
def fill (r : Reader) (slot : Slot) (v : String) : Except Stop Reader :=
  match r.given.fill? slot v with
  | some given => .ok { r with given, waiting := none }
  | none => .error .usage

/-- Takes an argument by itself. -/
def query (r : Reader) (v : String) : Except Stop Reader :=
  if r.mayQuery then .ok { r with given := { r.given with query := some v } } else .error .usage

/-- Takes an argument that is no value, if no option waits for one. -/
def opening (r : Reader) : Meaning → Except Stop Reader
  | .slot s (some v) => r.fill s v
  | .slot s none => .ok { r with waiting := some s }
  | .switch s =>
    if s ∈ r.given.switches then .error .usage
    else .ok { r with given := { r.given with switches := s :: r.given.switches } }
  | .stop s => .error s
  | .value => .error .usage

/-- Takes an argument. -/
def step (r : Reader) (a : String) : Except Stop Reader :=
  if r.literal then r.query a
  else
    match r.waiting, Argument.ofString a with
    | none, .separator => .ok { r with literal := true }
    | some _, .separator => .error .usage
    | waiting, argument =>
      match r.level.meaning r.mayQuery argument, waiting with
      | .value, none => r.query a
      | .value, some slot => r.fill slot a
      | _, some _ => .error .usage
      | meaning, none => r.opening meaning

/-- What is given at the end; no option may still wait for a value. -/
def finish (r : Reader) : Except Stop Given :=
  if r.waiting.isSome then .error .usage else .ok r.given

end Reader

/-- What arguments after the name of a command give. -/
def readAll (level : Level) (args : List String) : Except Stop Given :=
  args.foldlM Reader.step (.start level) >>= Reader.finish

/-- Whether asking for help ends well: what follows is the name of a command, if anything. -/
def helpWith (args : List String) : Stop :=
  match args with
  | [] => .help
  | [name] => if name = "help" ∨ (Verb.ofName? name).isSome then .help else .usage
  | _ => .usage

/-- What the arguments up to the name of the command give, the command, and the arguments after
    its name. -/
def readTop : Reader → List String → Except Stop (Given × Verb × List String)
  | _, [] => .error .usage
  | r, a :: rest =>
    if r.waiting.isNone && !r.literal then
      match Verb.ofName? a with
      | some verb => .ok (r.given, verb, rest)
      | none => if a = "help" then .error (helpWith rest) else r.step a >>= (readTop · rest)
    else r.step a >>= (readTop · rest)

/-! ## Commands -/

/-- A time given by a user: the canonical text of an instant, any other text as it is. -/
def bound (v : String) : String :=
  (Timestamp.bound v).text

/-- The criteria that are given. -/
def Given.criteria (g : Given) : Criteria where
  query := g.query
  level := g.level
  service := g.service
  startDate := g.start.map bound
  endDate := g.stop.map bound
  limit := g.limit
  offset := g.offset

/-- The command that is given. -/
def Given.command (g : Given) : Verb → Command
  | .ingest => .ingest g.service (.force ∈ g.switches) g.file
  | .query => .query g.criteria g.format
  | .count => .count g.criteria
  | .facets => .facets
  | .delete => .delete ⟨g.service, g.before.map bound⟩
  | .clear => .clear
  | .size => .size

/-- The command that arguments spell. -/
def parse (args : List String) : Except Stop Invocation := do
  let (top, verb, rest) ← readTop (.start .top) args
  let given ← readAll verb.level rest
  return {
    store := given.store <|> top.store
    traced := .debug ∈ top.switches ++ given.switches
    command := given.command verb }

end Command

end Logbook
