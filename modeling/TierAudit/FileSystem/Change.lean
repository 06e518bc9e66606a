import TierAudit.FileSystem.Lookup

/-!
# File system — changes

Putting files and directories where there are none yet.  What cannot be done changes nothing.
-/

namespace TierAudit

namespace Node

/-- Replaces the entry of a name, or adds one at the end. -/
def putEntry (name : String) (child : Node) : List (String × Node) → List (String × Node)
  | [] => [(name, child)]
  | entry :: rest =>
    if entry.1 = name then (name, child) :: rest else entry :: putEntry name child rest

/-- Puts a node at a location, with the directories that lead there.  Nothing changes if there is
something else than a directory in the way. -/
def put : Node → Location → Node → Node
  | _, [], new => new
  | directory access entries, name :: rest, new =>
    let child := ((directory access entries).child? name).getD emptyDirectory
    directory access (putEntry name (child.put rest new) entries)
  | node, _ :: _, _ => node

end Node

namespace FileSystem

/-- These files, seen from there, if that is possible. -/
def of? (root : Node) (workingDirectory : Place) : Option FileSystem :=
  if h : root.isWellNamed = true ∧ root.hasDirectory workingDirectory.location = true then
    some ⟨root, workingDirectory, h.1, h.2⟩
  else none

/-- Puts a node at a location. -/
def put (fs : FileSystem) (location : Location) (node : Node) : FileSystem :=
  (of? (fs.root.put location node) fs.workingDirectory).getD fs

end FileSystem

end TierAudit
