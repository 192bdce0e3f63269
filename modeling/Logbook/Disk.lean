/-!
# Directory trees

Files and directories under names. An operation that the tree does not admit, such as writing to a
directory or below a file, is refused and changes nothing.

Results:

* `get?_put_self`, `get?_put_of_ne`: reading an entry back after it was put.
* `get?_erase_self`: an erased path holds nothing.
* `makeDirectory?_of_isDirectory`: a directory that is there is not made again.
-/

namespace Logbook

/-- A place in a directory tree: the names from the root down. -/
abbrev Path := List String

namespace Path

/-- Whether a text may be the name of a file or directory: it has at most 255 bytes, and no zero
    among them. -/
def isName (text : String) : Bool :=
  text.utf8ByteSize ≤ 255 && !text.toList.contains '\x00'

/-- The name without its extension. A dot at the front begins no extension. -/
def stem (name : List Char) : List Char :=
  match (name.reverse.dropWhile (· != '.')).drop 1 with
  | [] => name
  | before => before.reverse

/-- The path whose last name has the given extension instead of its own. -/
def withExtension (extension : String) (path : Path) : Path :=
  match path.getLast? with
  | none => path
  | some name => path.dropLast ++ [String.ofList (stem name.toList) ++ "." ++ extension]

/-- The path whose last name goes on with a dot and an ending. -/
def withEnding (ending : String) (path : Path) : Path :=
  match path.getLast? with
  | none => path
  | some name => path.dropLast ++ [name ++ "." ++ ending]

/-- The directory that a path lies in. -/
def parent (path : Path) : Path :=
  path.dropLast

/-- The places from below the root down to the path. -/
def ancestors (path : Path) : List Path :=
  (List.range path.length).map fun i => path.take (i + 1)

end Path

/-- What a name in a directory tree stands for. -/
inductive Disk.Entry where
  | file (content : ByteArray)
  | directory
  deriving BEq

/-- A directory tree. The root is always a directory. -/
structure Disk where
  entries : List (Path × Disk.Entry)

namespace Disk

/-- The tree with nothing in it. -/
def empty : Disk := ⟨[]⟩

/-- What a path stands for, if anything. -/
def get? (disk : Disk) (path : Path) : Option Entry :=
  if path = [] then some .directory else disk.entries.lookup path

/-- The tree with an entry at a path, in place of what was there. -/
def put (path : Path) (entry : Entry) (disk : Disk) : Disk :=
  ⟨(path, entry) :: disk.entries.filter (·.1 != path)⟩

/-- The tree with nothing at a path. -/
def erase (path : Path) (disk : Disk) : Disk :=
  ⟨disk.entries.filter (·.1 != path)⟩

/-- Whether a path stands for a directory. -/
def isDirectory (disk : Disk) (path : Path) : Bool :=
  match disk.get? path with
  | some .directory => true
  | _ => false

/-- The content of a file. -/
def read? (disk : Disk) (path : Path) : Option ByteArray :=
  match disk.get? path with
  | some (.file content) => some content
  | _ => none

/-- Whether a file may be written at a path: its name is one, its directory is there, and no
    directory has its name. -/
def writable (disk : Disk) (path : Path) : Bool :=
  path.getLast?.all Path.isName && disk.isDirectory path.parent && !disk.isDirectory path

/-- The tree with a file of this content at a path. -/
def write? (path : Path) (content : ByteArray) (disk : Disk) : Option Disk :=
  if disk.writable path then some (disk.put path (.file content)) else none

/-- The tree with bytes added at the end of a file, which is made if it is not there. -/
def append? (path : Path) (bytes : ByteArray) (disk : Disk) : Option Disk :=
  if disk.writable path then
    some (disk.put path (.file ((disk.read? path).getD .empty ++ bytes)))
  else none

/-- The tree with a directory at a path, made there if nothing is. -/
def makeDirectory? (path : Path) (disk : Disk) : Option Disk :=
  match disk.get? path with
  | some .directory => some disk
  | some (.file _) => none
  | none => if path.getLast?.all Path.isName then some (disk.put path .directory) else none

/-- The tree with directories at a path and above it, those that are missing made. -/
def makeDirectories? (path : Path) (disk : Disk) : Option Disk :=
  path.ancestors.foldlM (fun disk ancestor => disk.makeDirectory? ancestor) disk

/-- The tree with a file moved over whatever file has the new path. -/
def rename? (path newPath : Path) (disk : Disk) : Option Disk :=
  match disk.read? path with
  | some content =>
    if disk.writable newPath then some ((disk.erase path).put newPath (.file content)) else none
  | none => none

/-- Names in ascending order. -/
def sortNames (names : List String) : List String :=
  names.mergeSort fun a b => decide (a ≤ b)

/-- The names in a directory, in ascending order. -/
def list (disk : Disk) (directory : Path) : List String :=
  sortNames ((disk.entries.filter fun e => e.1 != [] && e.1.parent == directory).filterMap
    fun e => e.1.getLast?)

theorem lookup_filter_ne {path other : Path} (h : other ≠ path) (es : List (Path × Entry)) :
    (es.filter (·.1 != path)).lookup other = es.lookup other := by
  induction es with
  | nil => rfl
  | cons e rest ih =>
    obtain ⟨p, v⟩ := e
    by_cases hp : p = path
    · have hf : ((p, v).1 != path) = false := by simpa using hp
      have ho : (other == p) = false := by rw [hp]; simpa using h
      rw [List.filter_cons_of_neg (by simp [hf]), ih, List.lookup_cons, ho]
    · have hf : ((p, v).1 != path) = true := by simpa using hp
      rw [List.filter_cons, if_pos hf, List.lookup_cons, List.lookup_cons, ih]

theorem get?_put_self {path : Path} (h : path ≠ []) (entry : Entry) (disk : Disk) :
    (disk.put path entry).get? path = some entry := by
  simp [get?, put, h]

theorem get?_put_of_ne {path other : Path} (h : other ≠ path) (entry : Entry) (disk : Disk) :
    (disk.put path entry).get? other = disk.get? other := by
  have ho : (other == path) = false := by simpa using h
  simp only [get?, put, List.lookup_cons, ho, lookup_filter_ne h]

theorem get?_erase_self {path : Path} (h : path ≠ []) (disk : Disk) :
    (disk.erase path).get? path = none := by
  simp only [get?, erase, if_neg h]
  rw [List.lookup_eq_none_iff]
  intro e he
  have := (List.mem_filter.1 he).2
  simp only [bne_iff_ne, ne_eq] at this
  simpa using Ne.symm this

theorem makeDirectory?_of_isDirectory {disk : Disk} {path : Path}
    (h : disk.isDirectory path = true) : disk.makeDirectory? path = some disk := by
  unfold isDirectory at h
  split at h
  · rename_i hg
    rw [makeDirectory?, hg]
  · cases h

end Disk

end Logbook
