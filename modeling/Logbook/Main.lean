import Logbook.Command.Run
import Logbook.Identifier
import Std.Time.DateTime.Timestamp

/-!
# The program

Brings in the files that a command may touch, runs it on them, and writes back what it changed.
-/

namespace Logbook.Program

/-- A path as the system writes it. -/
def systemPath (path : Path) : String :=
  "/" ++ String.intercalate "/" path

/-- What the system has at a path. -/
def lookAt (path : Path) : IO (Option Disk.Entry) := do
  try
    return some (.file (← IO.FS.readBinFile (systemPath path)))
  catch
    | .noFileOrDirectory .. => return none
    | _ => return some .directory

/-- The disk with what the system has at a path and above it. -/
def fetch (disk : Disk) (path : Path) : IO Disk :=
  (List.range path.length).foldlM
    (fun disk i => do
      let part := path.take (i + 1)
      if (disk.get? part).isSome || !disk.isDirectory (Path.parent part) then return disk
      match ← lookAt part with
      | some entry => return disk.put part entry
      | none => return disk)
    disk

/-- Writes to the system what differs between two disks. -/
def commit (before after : Disk) : IO Unit := do
  for (path, entry) in after.entries.reverse do
    if before.get? path != some entry then
      match entry with
      | .directory => IO.FS.createDirAll (systemPath path)
      | .file content => IO.FS.writeBinFile (systemPath path) content
  for (path, _) in before.entries do
    if (after.get? path).isNone then IO.FS.removeFile (systemPath path)

/-- All that can be read from a stream. -/
partial def readAll (stream : IO.FS.Stream) (seen : ByteArray) : IO ByteArray := do
  let bytes ← stream.read 65536
  if bytes.isEmpty then return seen else readAll stream (seen ++ bytes)

/-- The variables of the process. -/
def readVariables : IO Variables := do
  let content ← IO.FS.readBinFile "/proc/self/environ"
  let fields := Text.lines (· == '\x00') (Text.Utf8.decode content.toList)
  return fields.map fun cs =>
    (String.ofList (cs.takeWhile (· != '=')), String.ofList ((cs.dropWhile (· != '=')).drop 1))

/-- A supply of stamps of the current instant with random identifiers. -/
def readStamps (now : Int) : IO Stamp.Supply := do
  let bytes ← IO.getRandomBytes 16
  let seed := bytes.toList.foldl (fun n b => n * 256 + b.toNat) 0
  return fun i => ⟨Identifier.ofNat (seed + i), now⟩

/-- Whether a command reads the standard input. -/
def readsInput (i : Invocation) : Bool :=
  match i.command with
  | .ingest _ _ none => true
  | _ => false

end Logbook.Program

open Logbook Program in
/-- Runs the program with its arguments. -/
def main (args : List String) : IO UInt32 := do
  let directory := Route.target (Route.ofString (← IO.currentDir).toString).steps []
  let vars ← readVariables
  let now := (← Std.Time.Timestamp.now).toMillisecondsSinceUnixEpoch.toInt
  let stamps ← readStamps now
  let disk ← (Settings.places vars directory).foldlM fetch .empty
  let host : Host := ⟨disk, directory, vars, [], fun _ => now, stamps⟩
  let host ← match Command.parse args with
    | .error _ => pure host
    | .ok i => do
      let disk ← (Command.Invocation.paths i host).foldlM fetch disk
      let stdin ← if readsInput i then readAll (← IO.getStdin) .empty else pure .empty
      pure { host with disk, stdin := stdin.toList }
  let (outcome, disk) := Command.run args host
  commit host.disk disk
  IO.print outcome.out
  IO.eprint outcome.err
  return outcome.code.toUInt32
