import TierAudit.CommandLine.Argument
import TierAudit.Environment
import TierAudit.Path
import TierAudit.Report.Format
import TierAudit.Text.Blank

/-!
# Command line — what is given

The values that the arguments of a command line, and after them the environment, give.  Every value
is read when its argument is taken; only `--tier` and `--baseline` may be repeated.
-/

namespace TierAudit.CommandLine
open Text

/-! ### Values -/

/-- How the value of an argument is read.  The argument is named first, for what is wrong. -/
abbrev Reader (α : Type) := String → String → Except UsageError α

def readTier : Reader Tier := fun argument text =>
  (Tier.read text).mapError fun unknown => .unreadableValue argument text (.unknownTier unknown)

/-- A path is any text but the empty one. -/
def readPath : Reader Path := fun argument text =>
  if text = "" then .error (.missingValue argument) else .ok ⟨text⟩

/-- The baseline of a tier, as in `IT=/srv/gv/predefined_IT.substvar`. -/
def baselineOf (text : String) : Except ValueFault (Tier × Path) :=
  match assignment? text with
  | none => .error (.notAnAssignment text)
  | some (tier, path) => do
    let tier ← (Tier.read tier).mapError .unknownTier
    if trim path = "" then .error (.emptyBaseline tier) else .ok (tier, ⟨path⟩)

def readBaseline : Reader (Tier × Path) := fun argument text =>
  (baselineOf text).mapError (.unreadableValue argument text)

def readFormat : Reader Format := fun argument text =>
  match Format.ofName? text with
  | some format => .ok format
  | none =>
    if text = "" then .error (.missingValue argument)
    else .error (.impossibleValue argument text (Format.all.map Format.name))

/-- The largest count. -/
def maxCount : Nat := Nat.pow 2 64 - 1

def readCount : Reader Nat := fun argument text =>
  (Numeral.readSigned maxCount text.toList).mapError fun fault =>
    .unreadableValue argument text (.notANumber fault)

/-! ### Taking arguments -/

/-- What has been given so far. -/
structure Given where
  operand : Option Path
  flags : List Flag
  tiers : List Tier
  baselines : List (Tier × Path)
  baselineDir : Option Path
  config : Option Path
  format : Option Format
  maxParallel : Option Nat
  deriving DecidableEq, Repr

/-- A value for what may be given once. -/
def once {α : Type} (read : Reader α) (argument : String) (old : Option α) (text : String) :
    Except UsageError (Option α) :=
  match old with
  | some _ => .error (.repeatedArgument argument)
  | none => (read argument text).map some

/-- The value of a variable of the environment for what has not been given. -/
def fallback {α : Type} (read : Reader α) (argument : String) (environment : Environment)
    (name : String) (old : Option α) : Except UsageError (Option α) :=
  match old, environment.get? name with
  | none, some text => (read argument text).map some
  | old, _ => .ok old

namespace Given

/-- Nothing is given. -/
def nothing : Given := ⟨none, [], [], [], none, none, none, none⟩

/-- Gives a setting a value. -/
def set (given : Given) (text : String) (setting : Setting) : Except UsageError Given :=
  let argument := setting.label
  match setting with
  | .tier => do
    let tier ← readTier argument text
    return { given with tiers := given.tiers ++ [tier] }
  | .baseline => do
    let baseline ← readBaseline argument text
    return { given with baselines := given.baselines ++ [baseline] }
  | .baselineDir => do
    let path ← once readPath argument given.baselineDir text
    return { given with baselineDir := path }
  | .config => do
    let path ← once readPath argument given.config text
    return { given with config := path }
  | .format => do
    let format ← once readFormat argument given.format text
    return { given with format }
  | .maxParallel => do
    let count ← once readCount argument given.maxParallel text
    return { given with maxParallel := count }

/-- Raises a flag.  Help and the version are given at once. -/
def raise (given : Given) : Flag → Except Halt Given
  | .help => .error .help
  | .version => .error .version
  | flag =>
    if flag ∈ given.flags then .error (.usage (.repeatedArgument flag.label))
    else .ok { given with flags := given.flags ++ [flag] }

/-- How help writes what has been given. -/
def labels (given : Given) : List String :=
  let setting (isGiven : Bool) (setting : Setting) :=
    if isGiven then [setting.label] else []
  (given.operand.map fun _ => Signature.project).toList ++
    setting (!given.tiers.isEmpty) .tier ++ setting (!given.baselines.isEmpty) .baseline ++
    setting given.baselineDir.isSome .baselineDir ++ setting given.config.isSome .config ++
    setting given.format.isSome .format ++ given.flags.map Flag.label ++
    setting given.maxParallel.isSome .maxParallel

/-- What is wrong with a word that stands where a command could, after an argument that has not been
taken yet. -/
def misplaced (given : Given) (pending : Option Argument) (text : String) : Halt :=
  let others := (given.labels ++ (pending.bind Argument.label?).toList).eraseDups
  .usage (.misplacedWord text others)

/-- Takes an argument. -/
def take (given : Given) : Argument → Except Halt Given
  | .flag flag => given.raise flag
  | .attached setting text => (given.set text setting).mapError .usage
  | .separate setting (some text) => (given.set text setting).mapError .usage
  | .separate setting none => .error (.usage (.missingValue setting.label))
  | .operand label text => do
    let path ← (readPath label text).mapError .usage
    return { given with operand := some path }
  | .wrong error => .error (.usage error)
  | .misplaced text => .error (given.misplaced none text)

/-- Takes arguments from left to right.  A word that is no argument is complained of before the
pending value in front of it is looked at. -/
def takeAll : Given → List Argument → Except Halt Given
  | given, [] => .ok given
  | given, argument :: rest =>
    match argument.isPending, rest with
    | true, .wrong error :: _ => .error (.usage error)
    | true, .misplaced text :: _ => .error (given.misplaced (some argument) text)
    | _, _ => do takeAll (← given.take argument) rest

/-- Lets the environment give what the command line has not. -/
def complete (given : Given) (environment : Environment) : Except UsageError Given := do
  let baselineDir ← fallback readPath Setting.baselineDir.label environment
    "BW_PREFLIGHT_BASELINE_DIR" given.baselineDir
  let config ← fallback readPath Setting.config.label environment "BW_PREFLIGHT_CONFIG" given.config
  let format ← fallback readFormat Setting.format.label environment "BW_PREFLIGHT_FORMAT"
    given.format
  return { given with baselineDir, config, format }

/-- What words give to a command. -/
def ofWords (signature : Signature) (words : List String) : Except Halt Given :=
  nothing.takeAll (Argument.ofWords signature false words)

end Given

end TierAudit.CommandLine
