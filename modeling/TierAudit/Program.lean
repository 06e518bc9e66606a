import TierAudit.BuildInfo
import TierAudit.CommandLine.Command
import TierAudit.Config.Layers
import TierAudit.Log.Filter
import TierAudit.Preflight.Log

/-!
# Program

What the program answers to a command line: a text for standard output, one for standard error and
an exit code.

| code | meaning                                                    |
|------|------------------------------------------------------------|
| 0    | nothing was found, or nothing was checked                  |
| 1    | a check found errors                                       |
| 2    | a check found warnings only, or the command line was wrong |
| 3    | the command could not be carried out                       |
| 101  | the filter of the log would cut a character in two         |
-/

namespace TierAudit
open CommandLine

/-- How long a run took and when it was, as far as its report says so. -/
structure Clock where
  now : Timestamp
  /-- Milliseconds since the start. -/
  elapsed : UInt64
  deriving DecidableEq, Repr, Inhabited

/-- All that a run depends on. -/
structure Invocation where
  arguments : List String
  environment : Environment
  files : FileSystem
  clock : Clock

/-- What a run leaves behind. -/
structure Reply where
  exitCode : Nat
  output : String
  errors : String
  deriving DecidableEq, Repr

namespace Program

/-- Why a command cannot be carried out. -/
inductive Failure where
  | preflight (failure : Preflight.Failure)
  | file (error : Substvar.FileError)
  deriving DecidableEq, Repr

def Failure.message : Failure → String
  | preflight failure => failure.message
  | file error => error.message

/-- The exit code of a command that cannot be carried out. -/
def failureCode : Nat := 3

/-- The exit code of a wrong command line. -/
def usageCode : Nat := 2

/-- The exit code of a run that breaks off. -/
def abortCode : Nat := 101

/-- The variable of the environment that asks for a report without colors, whatever its value. -/
def noColorVariable : String := "NO_COLOR"

/-- The variable of the environment that says what to show of the log. -/
def logVariable : String := "RUST_LOG"

/-- The variables of the environment that a run depends on. -/
def settingNames : List String :=
  ["BW_PREFLIGHT_BASELINE_DIR", "BW_PREFLIGHT_CONFIG", "BW_PREFLIGHT_FORMAT", noColorVariable,
    logVariable]

def helpText : String :=
  "Environment variable consistency checks for TIBCO BusinessWorks projects\n\n" ++
  "Usage: bw-preflight [check] [PROJECT] [OPTIONS]\n" ++
  "       bw-preflight <COMMAND>\n\n" ++
  "Commands:\n" ++
  "  check    Validate the tier files of a project (default)\n" ++
  "  list     List the rule of every tier\n" ++
  "  version  Print version information\n" ++
  "  parse    Print the variables of one substvar file\n" ++
  "  help     Print this message\n\n" ++
  "Options:\n" ++
  "      --tier <TIER>           Validate only this tier (repeatable)\n" ++
  "      --baseline <TIER=PATH>  Baseline file for a tier (repeatable)\n" ++
  "      --baseline-dir <DIR>    Directory holding predefined_<TIER>.substvar baseline files\n" ++
  "      --config <FILE>         Load configuration from a TOML file\n" ++
  "      --format <FORMAT>       Output format: text, json or junit\n" ++
  "  -q, --quiet                 Only output tiers with findings\n" ++
  "  -v, --verbose               Include detailed diagnostic information\n" ++
  "      --no-color              Disable colored output\n" ++
  "      --parallel              Validate tiers in parallel\n" ++
  "      --max-parallel <N>      Maximum number of tiers validated at once\n" ++
  "      --fail-fast             Stop after the first tier with an error\n" ++
  "  -h, --help                  Print help\n" ++
  "  -V, --version               Print version\n"

/-- The reply of a command that has been carried out. -/
def done (exitCode : Nat) (output : String) : Reply := ⟨exitCode, output ++ "\n", ""⟩

/-- The reply to a command that cannot be carried out. -/
def failed (failure : Failure) : Reply :=
  ⟨failureCode, "", "Error: " ++ failure.message ++ "\n"⟩

/-- The reply to a command line that leads to no command. -/
def halted : Halt → Reply
  | .help => ⟨0, helpText, ""⟩
  | .version => done 0 BuildInfo.current.heading
  | .usage error =>
    ⟨usageCode, "", "error: " ++ error.message ++ "\n\nFor more information, try '--help'.\n"⟩

/-- The report of a check. -/
def report (invocation : Invocation) (options : CheckOptions) : Except Failure Report :=
  match Config.ofOptions invocation.files options with
  | .error error => .error (.preflight (.config error))
  | .ok config =>
    (Preflight.run invocation.files options.project config invocation.clock.now
      invocation.clock.elapsed).mapError .preflight

/-- Whether a report is shown in color. -/
def showColors (environment : Environment) (options : CheckOptions) : Bool :=
  !options.noColor && !environment.isSet noColorVariable

/-- What to show of the log where the environment does not say: everything if the command is
verbose, and only warnings if not. -/
def defaultFilter : Command → Log.Filter
  | .check options => [.upTo (some (if options.verbose then .debug else .warn))]
  | _ => [.upTo (some .warn)]

/-- What to show of the log.  What the environment asks for does not count if it is malformed. -/
def logFilter (environment : Environment) (command : Command) : Except Log.Fault Log.Filter :=
  match (environment.get? logVariable).map Log.Filter.read with
  | some (.error .malformed) | none => .ok (defaultFilter command)
  | some filter => filter

/-- What a check tells about itself. -/
def checkEntries (invocation : Invocation) (options : CheckOptions) : List Log.Entry :=
  Preflight.configEntries invocation.files options ++
    match Config.ofOptions invocation.files options, report invocation options with
    | .ok config, .ok report =>
      Preflight.entries invocation.files (config.profiles.toOption.getD []) report
    | _, _ => []

/-- What a command tells about itself. -/
def entries (invocation : Invocation) : Command → List Log.Entry
  | .check options => checkEntries invocation options
  | .parse file _ => Preflight.fileEntries invocation.files file
  | _ => []

/-- The log of a command.  Its styles are left out only if colors are refused in so many words. -/
def log (invocation : Invocation) (command : Command) (filter : Log.Filter) : String :=
  Log.render (((invocation.environment.get? noColorVariable).getD "") = "") filter
    invocation.clock.now (entries invocation command)

/-- The reply to a check, without the log. -/
def check (invocation : Invocation) (options : CheckOptions) : Reply :=
  match report invocation options with
  | .error failure => failed failure
  | .ok report =>
    done report.summary.exitCode
      (report.render options.format (showColors invocation.environment options)
        ⟨options.verbose, options.quiet⟩)

/-- The reply to a command, without the log. -/
def answer (invocation : Invocation) : Command → Reply
  | .version => done 0 BuildInfo.current.text
  | .list => ⟨0, Rule.listing, ""⟩
  | .parse file format =>
    match Substvar.load invocation.files file with
    | .error error => failed (.file error)
    | .ok vars => done 0 (vars.render file format)
  | .check options => check invocation options

/-- The reply to a command that is broken off before it begins. -/
def aborted (fault : Log.Fault) : Reply := ⟨abortCode, "", fault.message ++ "\n"⟩

/-- Carries out a command.  The log comes before anything else that is written to standard
error. -/
def perform (invocation : Invocation) (command : Command) : Reply :=
  match logFilter invocation.environment command with
  | .error fault => aborted fault
  | .ok filter =>
    let answer := answer invocation command
    { answer with errors := log invocation command filter ++ answer.errors }

/-- The reply to a command line. -/
def run (invocation : Invocation) : Reply :=
  match Command.read invocation.environment invocation.arguments with
  | .error halt => halted halt
  | .ok command => perform invocation command

/-- The paths that a command looks at, as far as the files known so far can tell. -/
def paths (files : FileSystem) : Command → List Path
  | .parse file _ => [file]
  | .check options =>
    options.project :: options.config.toList ++
      match Config.ofOptions files options with
      | .ok config =>
        match config.profiles with
        | .ok profiles => profiles.map (·.baseline)
        | .error _ => []
      | .error _ => []
  | _ => []

end Program

end TierAudit
