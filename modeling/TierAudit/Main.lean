import Std.Time.DateTime.Timestamp
import TierAudit.FileSystem.Change
import TierAudit.Program

/-!
# The program

Reads what a command line asks for from the disk, and writes the reply.  The disk is read into a
`FileSystem` first, so that everything else is a function of what was there.
-/

namespace TierAudit.Disk

/-- Whether something can be done with a file or a directory. -/
def allows (action : IO Unit) : IO Bool := do
  try
    action
    return true
  catch _ => return false

/-- What the program may do with a directory. -/
def accessOf (directory : Location) : IO Access := do
  let here ← IO.FS.realPath directory.path.text
  let read ← allows do discard here.readDir
  let search ← allows do discard (here / ".").metadata
  return ⟨read, search⟩

/-- Adds what stands at a place, if there is anything.  Of a file on the way to somewhere else the
content does not matter. -/
def capture (files : FileSystem) (place : Place) (isLast : Bool) : IO FileSystem := do
  let location := place.location
  let known := files.root.at? location
  if place.isRemoved || known.any (fun node => node.isDirectory || !isLast) then return files
  try
    let here ← IO.FS.realPath location.path.text
    match (← here.metadata).type with
    | .dir => return files.put location (.directory (← accessOf location) [])
    | .file =>
      if !isLast then return files.put location (.file .full [])
      try
        return files.put location (.file .full (← IO.FS.readBinFile here).toList)
      catch _ => return files.put location (.file ⟨false, false⟩ [])
    | _ => return files.put location (.device .full)
  catch _ => return files

/-- Adds everything on the way of the steps of a path. -/
def captureSteps (files : FileSystem) (here : Place) : List String → IO FileSystem
  | [] => capture files here true
  | step :: rest => do captureSteps (← capture files here false) (here.advance step) rest

/-- Adds everything on the way of a path. -/
def capturePath (files : FileSystem) (path : Path) : IO FileSystem :=
  captureSteps files (files.origin path) path.steps

/-- The names in a directory, as far as it can be listed. -/
def names (directory : Location) : IO (List String) := do
  try
    let entries ← (← IO.FS.realPath directory.path.text).readDir
    return entries.toList.map (·.fileName)
  catch _ => return []

/-- Adds the tier files beside a project. -/
def captureWorkspace (files : FileSystem) (project : Path) : IO FileSystem := do
  let some location := files.directory? project | return files
  let workspace := location.dropLast
  let mut files := files
  for application in ← names workspace do
    for tier in Tier.all do
      let location := workspace ++ [application, Workspace.filesDirectory, tier.fileName]
      files ← capturePath files (Location.path location)
  return files

/-- What the working directory is, without anything in it.  If it has been removed it is taken to be
so deep that no path leads out of it. -/
def start : IO FileSystem := do
  try
    let path : Path := ⟨(← IO.currentDir).toString⟩
    let location := path.steps.filter Path.namesEntry
    let root := Node.emptyDirectory.put location .emptyDirectory
    return (FileSystem.of? root (.ofLocation location)).getD default
  catch _ => return (FileSystem.of? .emptyDirectory ⟨[], FileSystem.maxPath⟩).getD default

/-- The files that a command looks at.  What a configuration file says decides on the others. -/
def read (command : CommandLine.Command) : IO FileSystem := do
  let mut files ← start
  for _ in [0:2] do
    for path in Program.paths files command do
      files ← capturePath files path
  match command with
  | .check options => captureWorkspace files options.project
  | _ => return files

/-- The variables of the environment that matter. -/
def environment : IO Environment := do
  let entries ← Program.settingNames.filterMapM fun name => do
    return (← IO.getEnv name).map fun value => (name, value)
  return ⟨entries⟩

/-- The moment that it is. -/
def now : IO Timestamp := do
  let nanos := (← Std.Time.Timestamp.now).toNanosecondsSinceUnixEpoch.val
  return ⟨nanos.fdiv 1000000000, (nanos.fmod 1000000000).toNat⟩

end TierAudit.Disk

open TierAudit in
def main (arguments : List String) : IO UInt32 := do
  let started ← IO.monoMsNow
  let environment ← Disk.environment
  let files ← match CommandLine.Command.read environment arguments with
    | .ok command => Disk.read command
    | .error _ => Disk.start
  let elapsed := (← IO.monoMsNow) - started
  let reply := Program.run ⟨arguments, environment, files, ⟨← Disk.now, elapsed.toUInt64⟩⟩
  IO.print reply.output
  IO.eprint reply.errors
  return reply.exitCode.toUInt32
