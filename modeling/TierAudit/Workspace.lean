import TierAudit.FileSystem.Lookup
import TierAudit.Text.Case

/-!
# Workspaces

A project stands in a workspace beside the application that owns its tier files:

```text
workspace/
  Orders.module/
  Orders.parent/
  Orders/
    META-INF/
      IT.substvar
```
-/

namespace TierAudit
open Text

namespace Workspace

/-- The directory of an application that holds its tier files. -/
def filesDirectory : String := "META-INF"

/-- Why no tier file was found. -/
inductive Failure where
  | notFound (project : Path) (file : String)
  | unreadable (project : Path) (error : OsError)
  /-- The project is the root of the file system. -/
  | noWorkspace (project : Path)
  deriving DecidableEq, Repr

namespace Failure

/-- Why the siblings of a project cannot be listed. -/
def unlisted (project : Path) (reason : String) : String :=
  "cannot list siblings of " ++ project.text ++ ": " ++ reason

def message : Failure → String
  | notFound project file =>
    "no sibling of " ++ project.text ++ " contains " ++ filesDirectory ++ "/" ++ file
  | unreadable project error => unlisted project error.message
  | noWorkspace project => unlisted project "project directory has no parent"

end Failure

/-- Directories of these endings are parts of a project and own no tier files. -/
def skippedEndings : List String := [".module", ".parent"]

/-- Whether a directory is never taken for an application, in whatever case its name is written.  No
letter beyond ASCII has one of these endings' letters as its lower case. -/
def isSkipped (name : String) : Bool :=
  skippedEndings.any fun ending => (foldCase ending).isSuffixOf (foldCase name)

/-- The regular file of a name in a directory, if this can be listed. -/
def fileIn? (fs : FileSystem) (directory : Location) (file : String) : Option Location :=
  let location := directory ++ [file]
  match fs.list directory.path with
  | .ok names => if names.contains file && fs.isFile location.path then some location else none
  | .error _ => none

/-- The tier file of an application, if it has one that can be found. -/
def ownedFile? (fs : FileSystem) (workspace : Location) (file application : String) :
    Option Location :=
  let directory := workspace ++ [application]
  if !fs.isDirectory directory.path || isSkipped application then none
  else fileIn? fs (directory ++ [filesDirectory]) file

/-- The first tier file that an application beside the project owns. -/
def tierFile (fs : FileSystem) (project : Path) (file : String) : Except Failure Location :=
  match fs.resolve project with
  | .error error => .error (.unreadable project error)
  | .ok [] => .error (.noWorkspace project)
  | .ok (name :: names) =>
    let workspace : Location := (name :: names).dropLast
    match fs.list workspace.path with
    | .error error => .error (.unreadable project error)
    | .ok applications =>
      match applications.findSome? (ownedFile? fs workspace file) with
      | some location => .ok location
      | none => .error (.notFound project file)

end Workspace

end TierAudit
