/-!
# File system — errors

Why a path cannot be followed, or a file not be read or a directory not be listed, in the words of
the operating system.
-/

namespace TierAudit

/-- An error of the operating system. -/
inductive OsError where
  | noEntry
  | permissionDenied
  | notDirectory
  | isDirectory
  | nameTooLong
  /-- A path with the character U+0000 names nothing. -/
  | nulInPath
  deriving DecidableEq, Repr

def OsError.message : OsError → String
  | noEntry => "No such file or directory (os error 2)"
  | permissionDenied => "Permission denied (os error 13)"
  | notDirectory => "Not a directory (os error 20)"
  | isDirectory => "Is a directory (os error 21)"
  | nameTooLong => "File name too long (os error 36)"
  | nulInPath => "file name contained an unexpected NUL byte"

end TierAudit
