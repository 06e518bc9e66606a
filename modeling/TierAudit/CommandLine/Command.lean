import TierAudit.CommandLine.Given

/-!
# Command line — commands

The commands of the program.  The first word names one, and a command line whose first word names
none is a check:

```text
bw-preflight [check] [PROJECT] [OPTIONS]
bw-preflight list
bw-preflight version
bw-preflight parse FILE [--format FORMAT]
bw-preflight help [COMMAND]
```
-/

namespace TierAudit.CommandLine

/-- What a check is asked to do. -/
structure CheckOptions where
  project : Path
  tiers : List Tier
  baselines : List (Tier × Path)
  baselineDir : Option Path
  config : Option Path
  format : Format
  quiet : Bool
  verbose : Bool
  noColor : Bool
  parallel : Bool
  maxParallel : Option Nat
  failFast : Bool
  deriving DecidableEq, Repr

/-- A command. -/
inductive Command where
  | check (options : CheckOptions)
  | list
  | version
  | parse (file : Path) (format : Format)
  deriving DecidableEq, Repr

/-- The words that name a command. -/
inductive CommandWord where
  | check
  | list
  | version
  | parse
  | help
  deriving DecidableEq, Repr

namespace CommandWord

def all : List CommandWord := [check, list, version, parse, help]

def name : CommandWord → String
  | check => "check"
  | list => "list"
  | version => "version"
  | parse => "parse"
  | help => "help"

def ofText? (text : String) : Option CommandWord := all.find? (·.name = text)

end CommandWord

namespace Signature

/-- What a check takes after its own word. -/
def check : Signature where
  flags := [.help, .quiet, .verbose, .noColor, .parallel, .failFast]
  settings := [.tier, .baseline, .baselineDir, .config, .format, .maxParallel]
  operand := some project
  surplusOperand := fun text => .wrong (.unknownArgument text)

/-- What a check takes on a command line without a command word.  A second operand there stands
where a command could. -/
def bare : Signature where
  flags := .version :: check.flags
  settings := check.settings
  operand := check.operand
  surplusOperand := .misplaced

/-- A command without arguments. -/
def nothing : Signature where
  flags := [.help]
  settings := []
  operand := none
  surplusOperand := fun text => .wrong (.unknownArgument text)

def parse : Signature where
  flags := [.help]
  settings := [.format]
  operand := some file
  surplusOperand := fun text => .wrong (.unknownArgument text)

end Signature

/-- The check that is asked for. -/
def Given.toCheck (given : Given) : CheckOptions where
  project := given.operand.getD ⟨"."⟩
  tiers := given.tiers
  baselines := given.baselines
  baselineDir := given.baselineDir
  config := given.config
  format := given.format.getD .text
  quiet := given.flags.contains .quiet
  verbose := given.flags.contains .verbose
  noColor := given.flags.contains .noColor
  parallel := given.flags.contains .parallel
  maxParallel := given.maxParallel
  failFast := given.flags.contains .failFast

namespace Command

/-- A check of words, and of the environment for what they leave open. -/
def readCheck (signature : Signature) (environment : Environment) (words : List String) :
    Except Halt Command := do
  let given ← Given.ofWords signature words
  let given ← (given.complete environment).mapError .usage
  return .check given.toCheck

/-- A command without arguments. -/
def readBare (command : Command) (words : List String) : Except Halt Command := do
  let _ ← Given.ofWords .nothing words
  return command

def readParse (words : List String) : Except Halt Command := do
  let given ← Given.ofWords .parse words
  match given.operand with
  | some file => return .parse file (given.format.getD .text)
  | none => .error (.usage (.missingArgument Signature.file))

/-- Help on a command.  No command has commands of its own. -/
def readHelp : List String → Halt
  | [] => .help
  | [word] => if (CommandWord.ofText? word).isSome then .help else .usage (.unknownCommand word)
  | word :: other :: _ =>
    if (CommandWord.ofText? word).isSome then .usage (.unknownCommand other)
    else .usage (.unknownCommand word)

/-- The command of a command line.  What the environment says has to make sense for every
command. -/
def read (environment : Environment) (words : List String) : Except Halt Command :=
  let named (command : Except Halt Command) : Except Halt Command := do
    let command ← command
    let _ ← (Given.nothing.complete environment).mapError .usage
    return command
  match words with
  | [] => readCheck .bare environment []
  | word :: rest =>
    match CommandWord.ofText? word with
    | some .check => named (readCheck .check environment rest)
    | some .list => named (readBare .list rest)
    | some .version => named (readBare .version rest)
    | some .parse => named (readParse rest)
    | some .help => .error (readHelp rest)
    | none => readCheck .bare environment words

end Command

end TierAudit.CommandLine
