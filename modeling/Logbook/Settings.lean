import Logbook.Disk.Route
import Logbook.Plan
import Logbook.Setting.Dialect
import Logbook.Setting.Place
import Logbook.Text.Utf8

/-!
# Settings

What the commands take from their surroundings when their arguments do not say: fixed values, over
them those of a file, over those the ones of variables. A file that is not there is written with
the fixed values.

A variable gives a setting if its name begins with a fixed lead, in any case. Two underscores in the
rest of the name lead into a table. A value that reads as a truth value or a number is one.
-/

namespace Logbook

/-! ## Settings from variables -/

/-- The variables of the surroundings, by name. -/
abbrev Variables := Entries String

/-- The setting that the value of a variable spells. -/
def Setting.ofVariable (value : String) : Setting :=
  let cs := value.toList
  let lowered := String.ofList (Text.lower cs)
  if lowered = "true" then .bool true
  else if lowered = "false" then .bool false
  else match Number.integer? cs with
    | some n => .integer n
    | none =>
      match Number.Double.read? cs with
      | some x => .real x
      | none => .text value

namespace Variables

/-- A name with a dot for every two underscores. -/
def dotted : List Char → List Char
  | '_' :: '_' :: r => '.' :: dotted r
  | c :: r => c :: dotted r
  | [] => []

/-- The place of the setting that a variable gives, if its name begins with the lead. -/
def place? (lead : String) (name : String) : Option String :=
  let lowered := Text.lower name.toList
  if lead.toList.isPrefixOf lowered then
    some (String.ofList (dotted (lowered.drop lead.length)))
  else none

/-- The settings that variables give, by the places that they are for. -/
def settings (lead : String) (vars : Variables) : Entries Setting :=
  vars.filterMap fun v => (place? lead v.1).map (·, Setting.ofVariable v.2)

end Variables

/-! ## The settings -/

/-- The settings of the commands. -/
structure Settings where
  /-- The path of the store as written. -/
  storePath : String
  limits : ScanLimits
  /-- The limit of a query that gives none. -/
  pageSize : Nat
  /-- The name of the format of a query that gives none. -/
  format : String
  /-- The service of a feed that gives none; empty if there is none here either. -/
  feedService : String
  deriving DecidableEq

/-- Why there are no settings. -/
inductive SettingsError where
  /-- The file or a variable does not spell settings. -/
  | malformed
  /-- The file is missing and could not be written. -/
  | unwritable
  deriving DecidableEq

namespace Settings

/-- The settings where nothing else is said. -/
def fixed : Settings where
  storePath := "mrelic.jsonl"
  limits := ⟨5000, 1000⟩
  pageSize := 100
  format := "raw"
  feedService := ""

/-- The settings as a table of sections. -/
def toSetting (s : Settings) : Setting :=
  .table [
    ("store", .table [("path", .text s.storePath)]),
    ("query", .table [("scan_floor", .integer s.limits.floor),
      ("default_scan_limit", .integer s.limits.fallback)]),
    ("cli", .table [("page_size", .integer s.pageSize), ("format", .text s.format)]),
    ("feed", .table [("service", .text s.feedService)])]

/-- The text of a file that says what is said anyway. -/
def fixedText : String :=
  String.intercalate "\n" ["[store]", "path = \"mrelic.jsonl\"", "", "[query]",
    "scan_floor         = 5000", "default_scan_limit = 1000", "", "[cli]", "page_size = 100",
    "format    = \"raw\"", "", "[feed]", "service = \"\"", ""]

/-! ## Reading -/

/-- A part of a section, or what is fixed if it is missing. -/
def part? {α : Type} (read : Setting → Option α) (fallback : α) : Option Setting → Option α
  | none => some fallback
  | some s => read s

/-- The parts of a section, none of which are given if the section is missing. -/
def section? (names : List String) : Option Setting → Option (List (Option Setting))
  | none => some (names.map fun _ => none)
  | some s => s.parts? names

/-- The settings that a table of sections spells. -/
def ofSetting? (s : Setting) : Option Settings := do
  let [store, query, cli, feed] ← s.parts? ["store", "query", "cli", "feed"] | none
  let [path] ← section? ["path"] store | none
  let [floor, fallback] ← section? ["scan_floor", "default_scan_limit"] query | none
  let [size, format] ← section? ["page_size", "format"] cli | none
  let [service] ← section? ["service"] feed | none
  return {
    storePath := ← part? Setting.text? fixed.storePath path
    limits := {
      floor := ← part? Setting.natural? fixed.limits.floor floor
      fallback := ← part? Setting.natural? fixed.limits.fallback fallback }
    pageSize := ← part? Setting.natural? fixed.pageSize size
    format := ← part? Setting.text? fixed.format format
    feedService := ← part? Setting.text? fixed.feedService service }

/-- The lead of the names of variables that give settings. -/
def variableLead : String := "mrelic__"

/-- The settings that a file and variables make, laid over the fixed ones. -/
def ofLayers? (file : Entries Setting) (vars : Variables) : Option Settings :=
  ofSetting? (Setting.layer (Setting.layer fixed.toSetting file) (vars.settings variableLead))

/-! ## The file -/

/-- The path of the file as written: in the directory that a variable names for files of this kind,
    or in one that is hidden in the home directory. -/
def fileRoute (vars : Variables) : Route :=
  let base := match vars.get? "XDG_CONFIG_HOME" with
    | some path => path
    | none => Route.join ((vars.get? "HOME").getD ".") ".config"
  Route.ofString (Route.join (Route.join base "mrelic") "config.toml")

/-- The files that may hold the settings: the one at a path, and those whose names go on with the
    ending of a language. -/
def candidates (path : Path) : List (Setting.Dialect × Path) :=
  (.toml, path) :: Setting.Dialect.endings.map fun e => (e.2, path.withEnding e.1)

/-- The places that reading the settings looks at, seen from a directory. -/
def places (vars : Variables) (directory : Path) : List Path :=
  let route := fileRoute vars
  Route.places route.steps (route.start directory) ++
    (candidates (Route.target route.steps (route.start directory))).map (·.2)

/-- The first of the files that is there, with its language. -/
def find? (path : Path) (disk : Disk) : Option (Setting.Dialect × ByteArray) :=
  (candidates path).findSome? fun c => (disk.read? c.2).map (c.1, ·)

/-- The entries that the bytes of a file spell. -/
def readFile? (dialect : Setting.Dialect) (content : ByteArray) : Option (Entries Setting) :=
  dialect.read? (Toml.withoutMark (Text.Utf8.decode content.toList))

/-- The path of the file and the disk afterwards, where a missing file is written with the fixed
    settings; no path if it cannot be written. -/
def ensureFile (route : Route) (directory : Path) (disk : Disk) : Option Path × Disk :=
  match (disk.follow? directory route).filter fun path => (disk.get? path).isSome with
  | some path => (some path, disk)
  | none =>
    match disk.makeWayTo directory route with
    | (some path, disk) =>
      match disk.write? path fixedText.toUTF8 with
      | some disk => (some path, disk)
      | none => (none, disk)
    | (none, disk) => (none, disk)

/-- The settings, and the disk afterwards. A missing file is written first. -/
def load (vars : Variables) (directory : Path) (disk : Disk) :
    Except SettingsError Settings × Disk :=
  match ensureFile (fileRoute vars) directory disk with
  | (none, disk) => (.error .unwritable, disk)
  | (some path, disk) =>
    let entries := match find? path disk with
      | some (dialect, content) => readFile? dialect content
      | none => some []
    match entries.bind (ofLayers? · vars) with
    | some settings => (.ok settings, disk)
    | none => (.error .malformed, disk)

end Settings

end Logbook
