import TierAudit.FileSystem.Name
import TierAudit.Text.Bytes

/-!
# File system — nodes

A tree of directories and files, without links, and the node that stands at a location in it.  The
entries of a directory are in the order in which a listing gives them.  The program may not be
allowed to open a node, or to look up names in a directory.
-/

namespace TierAudit

/-- What the program may do with a node. -/
structure Access where
  /-- To open it: a file to read it, a directory to list it. -/
  read : Bool
  /-- To look up names in it, if it is a directory. -/
  search : Bool
  deriving DecidableEq, Repr, Inhabited

/-- Everything is allowed. -/
def Access.full : Access := ⟨true, true⟩

/-- A directory, a file, or a device: something that is neither and reads as empty. -/
inductive Node where
  | file (access : Access) (content : Bytes)
  | directory (access : Access) (entries : List (String × Node))
  | device (access : Access)
  deriving Inhabited

namespace Node

/-- A directory without entries. -/
def emptyDirectory : Node := .directory .full []

def access : Node → Access
  | file access _ => access
  | directory access _ => access
  | device access => access

def isFile : Node → Bool
  | file _ _ => true
  | _ => false

def isDirectory : Node → Bool
  | directory _ _ => true
  | _ => false

/-- The entries of a directory; anything else has none. -/
def entries : Node → List (String × Node)
  | directory _ entries => entries
  | _ => []

/-- The entry of a name. -/
def child? (node : Node) (name : String) : Option Node :=
  (node.entries.find? (·.1 = name)).map (·.2)

/-- The node at a location. -/
def at? (node : Node) : Location → Option Node
  | [] => some node
  | name :: rest => (node.child? name).bind fun child => child.at? rest

/-- Whether a location can be got to: there is an entry for each of its names, and it may be looked
up. -/
def leadsTo (node : Node) : Location → Bool
  | [] => true
  | name :: rest => node.access.search && (node.child? name).any fun child => child.leadsTo rest

def hasDirectory (node : Node) (location : Location) : Bool :=
  (node.at? location).any (·.isDirectory)

mutual

/-- Whether the entries of a directory have proper names, each its own, and so on below. -/
def isWellNamed : Node → Bool
  | file _ _ => true
  | directory _ entries => areWellNamed entries
  | device _ => true

def areWellNamed : List (String × Node) → Bool
  | [] => true
  | (name, node) :: rest =>
    decide (IsName name) && rest.all (·.1 ≠ name) && node.isWellNamed && areWellNamed rest

end

end Node

end TierAudit
