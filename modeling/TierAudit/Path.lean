import TierAudit.Text.Pieces

/-!
# Paths

Paths as they are written: names separated by slashes, absolute if they begin with one.  What a path
leads to is the file system's business.
-/

namespace TierAudit

/-- A path as it is written. -/
structure Path where
  text : String
  deriving DecidableEq, Repr, Inhabited

namespace Path

/-- The names between the slashes of a path; two slashes in a row hold an empty one. -/
def steps (path : Path) : List String := (Text.pieces '/' path.text.toList).map String.ofList

/-- Whether a step of a path stays where it is. -/
def stays (step : String) : Bool := step = "" || step = "."

/-- Whether a step of a path is the name of an entry. -/
def namesEntry (step : String) : Bool := !stays step && step ≠ ".."

def isAbsolute (path : Path) : Bool := path.text.toList.head? = some '/'

/-- The last name of a path, if it is the name of a file. -/
def fileName? (path : Path) : Option String :=
  (path.steps.filter fun step => step ≠ "" && step ≠ ".").getLast?.filter (· ≠ "..")

/-- How a file is called in a message: by its name, or by the whole path if it has none. -/
def label (path : Path) : String := path.fileName?.getD path.text

/-- The path of a name in a directory. -/
def join (directory : Path) (name : String) : Path :=
  if (Path.mk name).isAbsolute || directory.text = "" then ⟨name⟩
  else if directory.text.toList.getLast? = some '/' then ⟨directory.text ++ name⟩
  else ⟨directory.text ++ "/" ++ name⟩

end Path

end TierAudit
