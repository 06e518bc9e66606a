import TierAudit.FileSystem.Error
import TierAudit.FileSystem.Place

/-!
# File system — looking things up

Following a path from the root or from the working directory.  Every step has to start in a
directory, also one that stays (`.` or nothing at all) or goes up; and to take a name from there, one
has to be allowed to look it up.

A path is followed in two ways.  `locate` asks for it as a whole: then `.` and `..` are looked up
like any other name.  `resolve` finds out the location that it leads to, by asking for the absolute
path of every name on the way.
-/

namespace TierAudit

/-- The files that a program can see, and where it runs. -/
structure FileSystem where
  root : Node
  workingDirectory : Place
  /-- Entries have proper names, and no directory has two of one name. -/
  wellNamed : root.isWellNamed = true
  /-- The working directory is a directory; of one that has been removed, so is what is left. -/
  anchored : root.hasDirectory workingDirectory.location = true

instance : Inhabited FileSystem := ⟨⟨.emptyDirectory, .ofLocation [], rfl, rfl⟩⟩

namespace FileSystem

/-- The node at a place.  A removed directory has no entries. -/
def nodeAt? (fs : FileSystem) (place : Place) : Option Node :=
  if place.isRemoved then some .emptyDirectory else fs.root.at? place.location

/-- One step of a path. -/
def next (fs : FileSystem) (here : Place) (step : String) : Except OsError Place :=
  match fs.nodeAt? here with
  | none => .error .noEntry
  | some node =>
    if !node.isDirectory then .error .notDirectory
    else if !Path.namesEntry step then .ok (here.advance step)
    else if !node.access.search then .error .permissionDenied
    else if !here.isRemoved && maxName < step.utf8ByteSize then .error .nameTooLong
    else if (node.child? step).isSome then .ok (here.advance step)
    else .error .noEntry

/-- Where the steps of a path start. -/
def origin (fs : FileSystem) (path : Path) : Place :=
  if path.isAbsolute then .ofLocation [] else fs.workingDirectory

/-! ### Paths as a whole -/

/-- Whether a step of a path stands for a directory that has to be looked up in another: in this
one, or in the one above. -/
def looksUp (step : String) : Bool := step = "." || step = ".."

/-- One step of a path that is asked for as a whole. -/
def follow (fs : FileSystem) (here : Place) (step : String) : Except OsError Place :=
  let isClosed := (fs.nodeAt? here).any fun node => node.isDirectory && !node.access.search
  if looksUp step && isClosed then .error .permissionDenied else fs.next here step

/-- The place that a path leads to.  An empty path leads nowhere. -/
def locate (fs : FileSystem) (path : Path) : Except OsError Place :=
  if path.text.toList.contains '\x00' then .error .nulInPath
  else if path.text = "" then .error .noEntry
  else if maxPath < path.text.utf8ByteSize then .error .nameTooLong
  else path.steps.foldlM fs.follow (fs.origin path)

/-- The node that a path leads to. -/
def node? (fs : FileSystem) (path : Path) : Option Node :=
  match fs.locate path with
  | .ok place => fs.nodeAt? place
  | .error _ => none

def isFile (fs : FileSystem) (path : Path) : Bool := (fs.node? path).any (·.isFile)

def isDirectory (fs : FileSystem) (path : Path) : Bool := (fs.node? path).any (·.isDirectory)

def pathExists (fs : FileSystem) (path : Path) : Bool := (fs.node? path).isSome

/-- The node that a path leads to, opened for reading. -/
def opened (fs : FileSystem) (path : Path) : Except OsError Node := do
  match fs.nodeAt? (← fs.locate path) with
  | some node => if node.access.read then .ok node else .error .permissionDenied
  | none => .error .noEntry

/-- The content of a file. -/
def read (fs : FileSystem) (path : Path) : Except OsError Bytes := do
  match ← fs.opened path with
  | .file _ content => .ok content
  | .device _ => .ok []
  | .directory _ _ => .error .isDirectory

/-- The names in a directory, in the order of its listing. -/
def list (fs : FileSystem) (path : Path) : Except OsError (List String) := do
  match fs.nodeAt? (← fs.locate path) with
  | some (.directory access entries) =>
    if access.read then .ok (entries.map (·.1)) else .error .permissionDenied
  | some _ => .error .notDirectory
  | none => .error .noEntry

/-! ### Locations -/

/-- Whether the steps behind a name ask for a directory of that name: they stay there, up to the end
or to a step up. -/
def asksForDirectory (steps : List String) : Bool :=
  !steps.isEmpty &&
    match steps.dropWhile Path.stays with
    | [] => true
    | step :: _ => step = ".."

/-- Follows the steps of a path.  Where a step leads is asked for by its absolute path, with a slash
behind the name of what has to be a directory.  So it has to be in reach, and one has to be able to
get to it from the root; the working directory itself can be a place of which neither is true. -/
def trace (fs : FileSystem) : Place → List String → Except OsError Place
  | here, [] => .ok here
  | here, step :: rest => do
    let location := (here.advance step).location
    let namesDirectory := Path.namesEntry step && asksForDirectory rest
    if isInReach (if namesDirectory then location ++ [""] else location) then
      let there ← fs.next here step
      if fs.root.leadsTo there.location then trace fs there rest else .error .permissionDenied
    else .error .nameTooLong

/-- The location that a path leads to.  The path itself may be of any length.  A removed working
directory has no location, nor has what a path leads to from there. -/
def resolve (fs : FileSystem) (path : Path) : Except OsError Location :=
  if path.text.toList.contains '\x00' then .error .nulInPath
  else if path.text = "" || (fs.origin path).isRemoved then .error .noEntry
  else (fs.trace (fs.origin path) path.steps).map (·.location)

/-- The location of the directory that a path leads to. -/
def directory? (fs : FileSystem) (path : Path) : Option Location :=
  if fs.isDirectory path then (fs.resolve path).toOption else none

end FileSystem

end TierAudit
