import TierAudit.Text.Numeral
import TierAudit.Tier

/-!
# Command line — halts

Why a command line leads to no command: it asks for help or for the version, or it is wrong.
-/

namespace TierAudit.CommandLine
open Text

/-- What is wrong with the value of an option. -/
inductive ValueFault where
  | unknownTier (unknown : UnknownTier)
  /-- A baseline is written without an equals sign. -/
  | notAnAssignment (text : String)
  | emptyBaseline (tier : Tier)
  | notANumber (fault : Numeral.Fault)
  deriving DecidableEq, Repr

def ValueFault.message : ValueFault → String
  | unknownTier unknown => unknown.message
  | notAnAssignment text => "expected TIER=PATH, got '" ++ text ++ "'"
  | emptyBaseline tier => "empty baseline path for tier " ++ tier.name
  | notANumber fault => fault.message

/-- What is wrong with a command line.  An argument is known by how help writes it. -/
inductive UsageError where
  /-- A value is missing, or is empty where it must not be. -/
  | missingValue (argument : String)
  /-- A value is none of those to choose from. -/
  | impossibleValue (argument value : String) (choices : List String)
  /-- A value cannot be read. -/
  | unreadableValue (argument value : String) (fault : ValueFault)
  | unknownArgument (text : String)
  /-- An argument that may be given once is repeated. -/
  | repeatedArgument (argument : String)
  /-- A word stands where a command could, but arguments stand in front of it. -/
  | misplacedWord (text : String) (others : List String)
  /-- A flag is given a value. -/
  | surplusValue (argument value : String)
  | missingArgument (argument : String)
  | unknownCommand (text : String)
  deriving DecidableEq, Repr

def UsageError.message : UsageError → String
  | missingValue argument =>
    "a value is required for '" ++ argument ++ "' but none was supplied"
  | impossibleValue argument value choices =>
    "invalid value '" ++ value ++ "' for '" ++ argument ++ "'\n  [possible values: " ++
      ", ".intercalate choices ++ "]"
  | unreadableValue argument value fault =>
    "invalid value '" ++ value ++ "' for '" ++ argument ++ "': " ++ fault.message
  | unknownArgument text => "unexpected argument '" ++ text ++ "' found"
  | repeatedArgument argument =>
    "the argument '" ++ argument ++ "' cannot be used multiple times"
  | misplacedWord text [other] =>
    "the subcommand '" ++ text ++ "' cannot be used with '" ++ other ++ "'"
  | misplacedWord text others =>
    "the subcommand '" ++ text ++ "' cannot be used with:" ++
      String.join (others.map ("\n  " ++ ·))
  | surplusValue argument value =>
    "unexpected value '" ++ value ++ "' for '" ++ argument ++
      "' found; no more were expected"
  | missingArgument argument =>
    "the following required arguments were not provided:\n  " ++ argument
  | unknownCommand text => "unrecognized subcommand '" ++ text ++ "'"

/-- Why no command is run. -/
inductive Halt where
  | help
  | version
  | usage (error : UsageError)
  deriving DecidableEq, Repr

end TierAudit.CommandLine
