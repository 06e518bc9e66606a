import TierAudit.Config
import TierAudit.Substvar.File
import TierAudit.Workspace

/-!
# Preflight

Checking the tiers of a project: finding a tier's file, reading it and its baseline, and comparing
what they declare.  Whatever is wrong with a tier is a finding; a check fails as a whole only
without a project or a usable configuration.
-/

namespace TierAudit.Preflight

/-- The findings on two files.  A baseline whose path is no good ends the check; otherwise each file
that cannot be read is a finding, and only two readable files are compared. -/
def compare (profile : Profile) (vars : Except Substvar.FileError Variables)
    (baseline : Except Substvar.BaselineError Variables) : List Finding :=
  let invalid := Finding.of profile.tier (.invalidBaseline profile.baseline)
  let unparsable := fun error : Substvar.FileError =>
    Finding.of profile.tier (.unparsable error.file error.cause.message)
  match vars, baseline with
  | _, .error (.missing _) => [invalid]
  | _, .error (.notAFile _) => [invalid]
  | _, .error (.unreadable _ _) => [invalid]
  | .ok vars, .ok baseline => profile.check vars baseline
  | .ok _, .error (.unparsable error) => [unparsable error]
  | .error error, .ok _ => [unparsable error]
  | .error error, .error (.unparsable error') => [unparsable error, unparsable error']

/-- Checks one tier of a project. -/
def checkTier (fs : FileSystem) (project : Path) (profile : Profile) : Outcome :=
  let outcome := fun tierFile findings =>
    (⟨profile.tier, profile.rule.key, tierFile, findings, 0⟩ : Outcome)
  match Workspace.tierFile fs project profile.tier.fileName with
  | .error _ => outcome none [.of profile.tier .missingTierFile]
  | .ok location =>
    outcome (some location.path)
      (compare profile (Substvar.load fs location.path)
        (Substvar.loadBaseline fs profile.baseline))

/-- Why a project cannot be checked. -/
inductive Failure where
  | config (error : ConfigError)
  | invalidProject (path : Path)
  deriving DecidableEq, Repr

def Failure.message : Failure → String
  | config error => error.message
  | invalidProject path =>
    "project directory " ++ path.text ++ " does not exist or is not a directory"

/-- Checks the configured tiers of a project, which is known by its location from here on.  Time is
measured outside: the report is given its moment and how long the check took. -/
def run (fs : FileSystem) (project : Path) (config : Config) (timestamp : Timestamp)
    (duration : UInt64) : Except Failure Report :=
  match fs.directory? project with
  | none => .error (.invalidProject project)
  | some location =>
    match config.profiles with
    | .error error => .error (.config error)
    | .ok profiles =>
      let ledger := config.schedule.run (checkTier fs location.path) profiles
      .ok (ledger.toReport location.path timestamp duration)

end TierAudit.Preflight
