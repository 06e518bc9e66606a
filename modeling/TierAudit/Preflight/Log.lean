import TierAudit.Config.Layers
import TierAudit.Log
import TierAudit.Preflight

/-!
# Preflight — log

What a check tells about itself: which files it has found and read, and why not.  Only what keeps
two files from being compared or a workspace from being listed is a warning.
-/

namespace TierAudit.Preflight
open Log

/-- The parts of the program that tell something. -/
inductive Source where
  | run
  | config
  | workspace
  | file
  | baseline
  | tier
  | credentials
  deriving DecidableEq, Repr

/-- The name by which a filter knows a source. -/
def Source.name : Source → String
  | run => "bw_preflight"
  | config => "bw_preflight::config"
  | workspace => "bw_preflight::project::layout"
  | file => "bw_preflight::project::substvar"
  | baseline => "bw_preflight::project::baseline"
  | tier => "bw_preflight::engine::orchestrator"
  | credentials => "bw_preflight::checks::credentials"

/-- A file has been read. -/
def parsed (file : Path) (vars : Variables) : Entry :=
  ⟨Source.file.name, .debug, "parsed substvar file",
    [("file", file.text), ("variables", toString vars.size)]⟩

/-- The path of a baseline is no good. -/
def rejected (error : Substvar.BaselineError) : Entry :=
  ⟨Source.baseline.name, .warn, "baseline rejected", [("error", error.message)]⟩

/-- A file cannot be read. -/
def unparsed (tier : Tier) (what error : String) : Entry :=
  ⟨Source.tier.name, .warn, "cannot parse " ++ what, [("tier", tier.name), ("error", error)]⟩

/-- Two files are held against each other. -/
def compared (profile : Profile) (vars baseline : Variables) : List Entry :=
  let keys := profile.credentials
  let lacksLogin := (vars.get? keys.user).isNone || (vars.get? keys.schemaName).isNone
  ⟨Source.tier.name, .debug, "comparing against baseline",
    [("tier", profile.tier.name), ("tier_variables", toString vars.size),
      ("baseline_variables", toString baseline.size),
      ("credential_rule", toString profile.credentialRule)]⟩ ::
    if profile.credentialRule && lacksLogin then
      [⟨Source.credentials.name, .debug, "USER or SCHEMA_NAME not set, skipping credential rule",
        [("tier", profile.tier.name)]⟩]
    else []

/-- What a comparison tells.  The baseline is read first. -/
def compareEntries (profile : Profile) (tierFile : Path) :
    Except Substvar.FileError Variables → Except Substvar.BaselineError Variables → List Entry
  | .ok vars, .ok baseline =>
    parsed profile.baseline baseline :: parsed tierFile vars :: compared profile vars baseline
  | .ok vars, .error error =>
    if error.isInvalidPath then [rejected error]
    else [parsed tierFile vars, unparsed profile.tier "baseline file" error.message]
  | .error error, .ok baseline =>
    [parsed profile.baseline baseline, unparsed profile.tier "tier file" error.message]
  | .error error, .error error' =>
    if error'.isInvalidPath then [rejected error']
    else
      [unparsed profile.tier "tier file" error.message,
        unparsed profile.tier "baseline file" error'.message]

/-- A status as the log has it. -/
def statusLabel : Status → String
  | .clean => "Clean"
  | .warn => "Warn"
  | .fail => "Fail"

/-- The workspace of a project cannot be listed. -/
def unlisted (fs : FileSystem) (project : Path) : List Entry :=
  match fs.resolve project with
  | .ok (name :: names) =>
    let workspace := Location.path (name :: names).dropLast
    match fs.list workspace with
    | .error error =>
      [⟨Source.workspace.name, .warn, "cannot read workspace directory",
        [("parent", workspace.text), ("error", error.message)]⟩]
    | .ok _ => []
  | _ => []

/-- What the check of one tier tells that has led to an outcome. -/
def tierEntries (fs : FileSystem) (project : Path) (profile : Profile) (outcome : Outcome) :
    List Entry :=
  let tier := ("tier", profile.tier.name)
  let steps := match Workspace.tierFile fs project profile.tier.fileName with
    | .error failure =>
      unlisted fs project ++
        [⟨Source.tier.name, .debug, "tier file not found", [tier, ("reason", failure.message)]⟩]
    | .ok location =>
      let application : Location := location.dropLast.dropLast
      ⟨Source.workspace.name, .debug, "resolved tier file",
        [("module", application.path.text), ("file", location.path.text)]⟩ ::
        compareEntries profile location.path (Substvar.load fs location.path)
          (Substvar.loadBaseline fs profile.baseline)
  steps ++
    [⟨Source.tier.name, .info, "tier validated",
      [tier, ("findings", toString outcome.findings.length),
        ("status", statusLabel outcome.status)]⟩]

/-- What a check tells that has led to a report.  Tiers that are not in the report have not been
checked. -/
def entries (fs : FileSystem) (profiles : List Profile) (report : Report) : List Entry :=
  let project := ("project", report.project.text)
  let checked := profiles.filterMap fun profile =>
    (report.outcome? profile.tier).map fun outcome => (profile, outcome)
  ⟨Source.run.name, .info, "starting substvar validation",
      [project, ("tiers", toString profiles.length)]⟩ ::
    checked.flatMap (fun (profile, outcome) => tierEntries fs report.project profile outcome) ++
    [⟨Source.tier.name, .info, "validation finished",
      [project, ("tiers", toString checked.length),
        ("duration_ms", toString report.duration.toNat)]⟩]

/-- What reading a single file tells. -/
def fileEntries (fs : FileSystem) (file : Path) : List Entry :=
  match Substvar.load fs file with
  | .ok vars => [parsed file vars]
  | .error _ => []

/-- What reading the configuration tells. -/
def configEntries (fs : FileSystem) (options : CommandLine.CheckOptions) : List Entry :=
  match options.config with
  | none => []
  | some path =>
    match Config.load fs path with
    | .error (.unreadable _ _) => []
    | .error (.notUtf8 _) => []
    | _ => [⟨Source.config.name, .debug, "loaded config file", [("path", path.text)]⟩]

end TierAudit.Preflight
