import TierAudit.FileSystem.Lookup
import TierAudit.Substvar

/-!
# Substitution variable files — on disk

Reading a tier's file, or a baseline.  A baseline is trusted only if it is a regular file that can be
opened; whether the path is at fault or the content makes a difference to the check.
-/

namespace TierAudit.Substvar

/-- A file that could not be read, and why. -/
structure FileError where
  /-- The name of the file, without its directory. -/
  file : String
  cause : Cause
  deriving DecidableEq, Repr

def FileError.message (error : FileError) : String := error.file ++ ": " ++ error.cause.message

/-- The variables of a file. -/
def load (fs : FileSystem) (path : Path) : Except FileError Variables :=
  match fs.read path with
  | .error error => .error ⟨path.label, .unreadable error⟩
  | .ok bytes => (ofBytes bytes).mapError (⟨path.label, ·⟩)

/-- Why there is nothing to compare with. -/
inductive BaselineError where
  | missing (path : Path)
  | notAFile (path : Path)
  | unreadable (path : Path) (error : OsError)
  | unparsable (error : FileError)
  deriving DecidableEq, Repr

namespace BaselineError

/-- Whether it is the path that is at fault, and not the content. -/
def isInvalidPath : BaselineError → Bool
  | unparsable _ => false
  | _ => true

def message : BaselineError → String
  | missing path => "baseline " ++ path.text ++ " does not exist"
  | notAFile path => "baseline " ++ path.text ++ " is not a regular file"
  | unreadable path error => "baseline " ++ path.text ++ " is not readable: " ++ error.message
  | unparsable error => error.message

end BaselineError

/-- A baseline has to be a regular file that can be opened. -/
def checkBaseline (fs : FileSystem) (path : Path) : Except BaselineError Unit :=
  if !fs.pathExists path then .error (.missing path)
  else if !fs.isFile path then .error (.notAFile path)
  else match fs.opened path with
    | .error error => .error (.unreadable path error)
    | .ok _ => .ok ()

/-- The variables of a baseline. -/
def loadBaseline (fs : FileSystem) (path : Path) : Except BaselineError Variables := do
  checkBaseline fs path
  (load fs path).mapError .unparsable

end TierAudit.Substvar
