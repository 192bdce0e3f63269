import Logbook.Disk

/-!
# Paths as written

A path as written is a route through a directory tree: from the root or from a directory, one step
at a time, up or into a name. A route is followed through what is there, so that two dots lead back
out of directories only, and a route through anything else leads nowhere. So does a path that is
too long, wherever it points.
-/

namespace Logbook

/-- A step of a route. -/
inductive Route.Step where
  | up
  | into (name : String)
  deriving DecidableEq

/-- A path as written, taken apart. -/
structure Route where
  /-- Whether it starts at the root. -/
  absolute : Bool
  steps : List Route.Step
  /-- Whether it ends in a slash or in dots and so can only be the path of a directory. -/
  toDirectory : Bool
  /-- The number of its bytes. -/
  size : Nat
  /-- The number of bytes of the path of the directory that it lies in. -/
  parentSize : Nat
  deriving DecidableEq

namespace Route

/-- The most bytes that a path may have. -/
def maxSize : Nat := 4095

/-! ## Reading -/

/-- The step that a component spells; an empty one and a single dot are none. -/
def Step.ofString? (component : String) : Option Step :=
  if component = "" ∨ component = "." then none
  else if component = ".." then some .up
  else some (.into component)

/-- Components without those at the end that are no steps, other than two dots. -/
def trimIdle (components : List String) : List String :=
  (components.reverse.dropWhile fun c => c == "" || c == ".").reverse

/-- The route that a text spells. -/
def ofString (text : String) : Route :=
  let components := text.splitOn "/"
  { absolute := text.toList.head? == some '/'
    steps := components.filterMap Step.ofString?
    toDirectory := text != "" && match components.getLast? with
      | some last => last ∈ ["", ".", ".."]
      | none => false
    size := text.utf8ByteSize
    parentSize :=
      (String.intercalate "/" (trimIdle (trimIdle components).dropLast)).utf8ByteSize }

/-- The path of a name in a directory, both as written. -/
def join (directory name : String) : String :=
  if directory = "" ∨ directory.toList.getLast? = some '/' then directory ++ name
  else directory ++ "/" ++ name

/-- The name that the route ends in, unless it can only be the path of a directory. -/
def name? (route : Route) : Option String :=
  match route.toDirectory, route.steps.getLast? with
  | false, some (.into name) => some name
  | _, _ => none

/-- Whether a step is one into a name with the character zero, which no path may hold. -/
def Step.hasZero : Step → Bool
  | .up => false
  | .into name => name.toList.contains '\x00'

/-- The path of the name that the route ends in, in the directory that the route lies in; none if
    there is no such name or the route is too long. -/
def nameIn? (route : Route) (parent : Path) : Option Path :=
  if route.size ≤ maxSize then route.name?.map fun name => parent ++ [name] else none

/-- Where the route starts, seen from a directory. -/
def start (route : Route) (directory : Path) : Path :=
  if route.absolute then [] else directory

/-! ## Where the steps point -/

/-- Where steps point from a directory, whatever is there. -/
def target : List Step → Path → Path
  | [], path => path
  | .up :: rest, path => target rest path.dropLast
  | .into name :: rest, path => target rest (path ++ [name])

/-- The places that steps pass through and end at. -/
def places : List Step → Path → List Path
  | [], path => [path]
  | .up :: rest, path => path :: places rest path.dropLast
  | .into name :: rest, path => path :: places rest (path ++ [name])

end Route

namespace Disk

/-! ## Following -/

/-- Where steps lead from a directory. All but the last have to lead to directories. -/
def walk? (disk : Disk) : List Route.Step → Path → Option Path
  | [], path => some path
  | .up :: rest, path => disk.walk? rest path.dropLast
  | [.into name], path => some (path ++ [name])
  | .into name :: rest, path =>
    if disk.isDirectory (path ++ [name]) then disk.walk? rest (path ++ [name]) else none

/-- Where a route leads from a directory. A route without steps leads nowhere unless it is the path
    of a directory, and such a path leads to directories only. -/
def follow? (disk : Disk) (directory : Path) (route : Route) : Option Path :=
  if route.size ≤ Route.maxSize then
    (disk.walk? route.steps (route.start directory)).filter fun path =>
      if route.toDirectory then disk.isDirectory path else !route.steps.isEmpty
  else none

/-! ## Making -/

/-- Makes the directories that steps lead to, where they are missing. Gives the place where the
    steps end, if none of them is blocked, and the disk afterwards. -/
def makeWay : List Route.Step → Path → Disk → Option Path × Disk
  | [], path, disk => (some path, disk)
  | .up :: rest, path, disk => makeWay rest path.dropLast disk
  | .into name :: rest, path, disk =>
    match disk.makeDirectory? (path ++ [name]) with
    | some disk => makeWay rest (path ++ [name]) disk
    | none => (none, disk)

/-- Makes the directories on the way to the end of a route. Gives the one that it lies in, unless
    one of them is blocked or the way is too long, and the disk afterwards. -/
def makeParent (directory : Path) (route : Route) (disk : Disk) : Option Path × Disk :=
  if route.parentSize ≤ Route.maxSize then
    makeWay route.steps.dropLast (route.start directory) disk
  else (none, disk)

/-- Makes the directories on the way to the name that a route ends in. Gives the path of that name,
    if there is one, and the disk afterwards. -/
def makeWayTo (directory : Path) (route : Route) (disk : Disk) : Option Path × Disk :=
  let (parent, disk) := disk.makeParent directory route
  (parent.bind route.nameIn?, disk)

end Disk

end Logbook
