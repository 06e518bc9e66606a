/-!
# Command line — words

What a single word of a command line looks like, before anything is known of options.
-/

namespace TierAudit.CommandLine

/-- The two sides of the first equals sign. -/
def assignment? (text : String) : Option (String × String) :=
  match text.toList.dropWhile (· ≠ '=') with
  | [] => none
  | _ :: value => some (String.ofList (text.toList.takeWhile (· ≠ '=')), String.ofList value)

/-- The forms of a word. -/
inductive Word where
  /-- Two hyphens: from here on nothing is an option. -/
  | escape
  /-- Two hyphens and a name, with or without a value. -/
  | long (name : String) (value : Option String)
  /-- One hyphen and letters. -/
  | short (letters : List Char)
  /-- Anything else, a single hyphen included. -/
  | plain (text : String)
  deriving DecidableEq, Repr

namespace Word

def ofText (text : String) : Word :=
  match text.toList with
  | ['-', '-'] => .escape
  | '-' :: '-' :: rest =>
    match assignment? (String.ofList rest) with
    | some (name, value) => .long name (some value)
    | none => .long (String.ofList rest) none
  | '-' :: letter :: rest => .short (letter :: rest)
  | _ => .plain text

/-- Whether a word can be the value of the option in front of it. -/
def isPlain : Word → Bool
  | plain _ => true
  | _ => false

end Word

end TierAudit.CommandLine
