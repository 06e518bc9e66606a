import TierAudit.Path
import TierAudit.Tier

/-!
# Findings

What can be wrong with the files of a tier, how serious it is and how it is told.
-/

namespace TierAudit

/-- A warning says that a tier could not be checked, an error that it is not as it should be. -/
inductive Severity where
  | warning
  | error
  deriving DecidableEq, Repr

/-- The short form that a finding begins with. -/
def Severity.label : Severity → String
  | warning => "WARN"
  | error => "ERROR"

/-- What a finding is about. -/
inductive FindingKind where
  | missingTierFile
  | invalidBaseline
  | parseError
  | variableMismatch
  | schemaMismatch
  | passwordMismatch
  /-- The check itself has gone wrong. -/
  | internal
  deriving DecidableEq, Repr

/-- The name of a kind of finding in machine-readable reports. -/
def FindingKind.name : FindingKind → String
  | missingTierFile => "missing_tier_file"
  | invalidBaseline => "invalid_baseline"
  | parseError => "parse_error"
  | variableMismatch => "variable_mismatch"
  | schemaMismatch => "schema_mismatch"
  | passwordMismatch => "password_mismatch"
  | internal => "internal"

/-- Something that is said of a tier. -/
structure Finding where
  severity : Severity
  kind : FindingKind
  tier : Tier
  message : String
  deriving DecidableEq, Repr

/-- What a check can find wrong. -/
inductive Defect where
  | missingTierFile
  | invalidBaseline (path : Path)
  | unparsable (file cause : String)
  | variableMismatch (name expected found : String)
  | schemaMismatch (user expected found : String)
  | passwordMismatch (user expected found : String)
  | aborted
  deriving DecidableEq, Repr

namespace Defect

/-- A tier that could not be checked for want of a file is no error. -/
def severity : Defect → Severity
  | missingTierFile => .warning
  | invalidBaseline _ => .warning
  | _ => .error

def kind : Defect → FindingKind
  | missingTierFile => .missingTierFile
  | invalidBaseline _ => .invalidBaseline
  | unparsable _ _ => .parseError
  | variableMismatch _ _ _ => .variableMismatch
  | schemaMismatch _ _ _ => .schemaMismatch
  | passwordMismatch _ _ _ => .passwordMismatch
  | aborted => .internal

/-- What was expected and what was found in a file. -/
def contrast (expected found file : String) : String :=
  "Expected: '" ++ expected ++ "', Found: '" ++ found ++ "' in " ++ file

def message (tier : Tier) : Defect → String
  | missingTierFile => "Missing " ++ tier.fileName ++ " in application folder"
  | invalidBaseline path => "Invalid " ++ tier.baselineFileName ++ " file: " ++ path.text
  | unparsable file cause => "Error parsing: " ++ file ++ " - " ++ cause
  | variableMismatch name expected found =>
    "Variable '" ++ name ++ "' mismatch. " ++ contrast expected found tier.fileName
  | schemaMismatch user expected found =>
    "SCHEMA NAME mismatch for USER '" ++ user ++ "'. " ++ contrast expected found tier.fileName
  | passwordMismatch user expected found =>
    "Password mismatch for USER '" ++ user ++ "'. " ++ contrast expected found tier.fileName
  | aborted => "Validation of " ++ tier.fileName ++ " aborted unexpectedly"

end Defect

namespace Finding

/-- The finding that a tier has a defect. -/
def of (tier : Tier) (defect : Defect) : Finding :=
  ⟨defect.severity, defect.kind, tier, defect.message tier⟩

def isError (finding : Finding) : Bool := finding.severity = .error

/-- A finding on a line of its own. -/
def line (finding : Finding) : String :=
  finding.severity.label ++ " [" ++ finding.tier.name ++ "] " ++ finding.message

end Finding

end TierAudit
