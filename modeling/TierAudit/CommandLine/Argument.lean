import TierAudit.CommandLine.Halt
import TierAudit.CommandLine.Word

/-!
# Command line — arguments

The words of a command line as arguments.  Which options there are, and whether there is an operand,
depends on the command; its `Signature` says so.
-/

namespace TierAudit.CommandLine

/-- An option without a value. -/
inductive Flag where
  | help
  | version
  | quiet
  | verbose
  | noColor
  | parallel
  | failFast
  deriving DecidableEq, Repr

/-- An option with a value. -/
inductive Setting where
  | tier
  | baseline
  | baselineDir
  | config
  | format
  | maxParallel
  deriving DecidableEq, Repr

namespace Flag

def name : Flag → String
  | help => "help"
  | version => "version"
  | quiet => "quiet"
  | verbose => "verbose"
  | noColor => "no-color"
  | parallel => "parallel"
  | failFast => "fail-fast"

/-- The short form of a flag. -/
def letter? : Flag → Option Char
  | help => some 'h'
  | version => some 'V'
  | quiet => some 'q'
  | verbose => some 'v'
  | _ => none

/-- How help writes a flag. -/
def label (flag : Flag) : String := "--" ++ flag.name

end Flag

namespace Setting

def name : Setting → String
  | tier => "tier"
  | baseline => "baseline"
  | baselineDir => "baseline-dir"
  | config => "config"
  | format => "format"
  | maxParallel => "max-parallel"

/-- What help calls the value of a setting. -/
def valueName : Setting → String
  | tier => "TIER"
  | baseline => "TIER=PATH"
  | baselineDir => "DIR"
  | config => "FILE"
  | format => "FORMAT"
  | maxParallel => "N"

/-- How help writes a setting. -/
def label (setting : Setting) : String := "--" ++ setting.name ++ " <" ++ setting.valueName ++ ">"

end Setting

/-- An argument. -/
inductive Argument where
  | flag (flag : Flag)
  /-- A setting with its value in the same word. -/
  | attached (setting : Setting) (value : String)
  /-- A setting with its value in the next word, if that can be one. -/
  | separate (setting : Setting) (value : Option String)
  | operand (label text : String)
  /-- A word that is no argument.  Nothing is read after it. -/
  | wrong (error : UsageError)
  /-- A word that stands where a command could.  Nothing is read after it. -/
  | misplaced (text : String)
  deriving DecidableEq, Repr

/-- What a command takes. -/
structure Signature where
  flags : List Flag
  settings : List Setting
  /-- How help writes the operand, if there is one. -/
  operand : Option String
  /-- What an operand is that is not taken. -/
  surplusOperand : String → Argument

namespace Signature

/-- How help writes the operand of a check. -/
def project : String := "[PROJECT]"

/-- How help writes the operand of `parse`. -/
def file : String := "<FILE>"

def flag? (signature : Signature) (name : String) : Option Flag :=
  signature.flags.find? (·.name = name)

def flagOfLetter? (signature : Signature) (letter : Char) : Option Flag :=
  signature.flags.find? (·.letter? = some letter)

def setting? (signature : Signature) (name : String) : Option Setting :=
  signature.settings.find? (·.name = name)

end Signature

namespace Argument

/-- The value of an argument of more than one word, and an operand, is looked at only when the next
argument has been read. -/
def isPending : Argument → Bool
  | separate _ _ => true
  | operand _ _ => true
  | _ => false

/-- How help writes an argument that is one. -/
def label? : Argument → Option String
  | flag raised => some raised.label
  | attached setting _ => some setting.label
  | separate setting (some _) => some setting.label
  | operand label _ => some label
  | _ => none

/-- The flags in a word with one hyphen, up to the first letter that is none. -/
def ofLetters (signature : Signature) : List Char → List Argument
  | [] => []
  | letter :: rest =>
    match signature.flagOfLetter? letter with
    | some raised => .flag raised :: ofLetters signature rest
    | none => [.wrong (.unknownArgument (String.ofList ['-', letter]))]

/-- The argument of a word with two hyphens, given the value that follows it. -/
def ofLong (signature : Signature) (name : String) (value next : Option String) : Argument :=
  match signature.setting? name, value with
  | some setting, some value => .attached setting value
  | some setting, none => .separate setting next
  | none, value =>
    match signature.flag? name, value with
    | some raised, none => .flag raised
    | some raised, some value => .wrong (.surplusValue raised.label value)
    | none, _ => .wrong (.unknownArgument ("--" ++ name))

/-- The argument of a word that is no option; `taken` says that there has been an operand. -/
def ofPlain (signature : Signature) (taken : Bool) (text : String) : Argument :=
  match signature.operand, taken with
  | some label, false => .operand label text
  | _, _ => signature.surplusOperand text

/-- The arguments of words that are no options. -/
def ofOperands (signature : Signature) (taken : Bool) : List String → List Argument
  | [] => []
  | text :: rest => ofPlain signature taken text :: ofOperands signature true rest

/-- The value in front of the words, if there is one. -/
def nextValue? : List String → Option String
  | [] => none
  | word :: _ => if (Word.ofText word).isPlain then some word else none

/-- The arguments of words; `taken` says that there has been an operand. -/
def ofWords (signature : Signature) (taken : Bool) : List String → List Argument
  | [] => []
  | word :: rest =>
    match Word.ofText word with
    | .escape => ofOperands signature taken rest
    | .short letters => ofLetters signature letters ++ ofWords signature taken rest
    | .plain text => ofPlain signature taken text :: ofWords signature true rest
    | .long name value =>
      let next := nextValue? rest
      match ofLong signature name value next, next, rest with
      | .separate setting value, some _, _ :: rest =>
        .separate setting value :: ofWords signature taken rest
      | argument, _, rest => argument :: ofWords signature taken rest
termination_by words => words.length

end Argument

end TierAudit.CommandLine
