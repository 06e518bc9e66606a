/-!
# Text — patterns

What a regular expression is made of.  A pattern is kept as it is written, so that it can be told
how deep it is and which groups it names; what it matches is not said here.
-/

namespace TierAudit.Text

/-- What can be switched on and off inside a pattern. -/
inductive Flag where
  /-- Letters match in either case. -/
  | ignoresCase
  /-- Lines have edges as the text has. -/
  | manyLines
  /-- Any character includes the line feed. -/
  | spansLines
  /-- Repetitions are as short as can be. -/
  | isLazy
  /-- Characters are those of Unicode, and otherwise single bytes. -/
  | unicode
  /-- Lines end with a carriage return and a line feed. -/
  | carriageReturns
  /-- Blanks and comments in the pattern are passed over. -/
  | spaced
  deriving DecidableEq, Repr

/-- Flags that are set together, each to be on or off. -/
abbrev Flags := List (Flag × Bool)

/-- What a flag is set to, if it is. -/
def Flags.state? (flags : Flags) (flag : Flag) : Option Bool :=
  (flags.find? (·.1 = flag)).map (·.2)

/-- A character that stands for itself. -/
structure Literal where
  char : Char
  /-- Whether it is written as the number of a byte. -/
  isByte : Bool
  deriving DecidableEq, Repr

/-- How two sets of characters make one. -/
inductive SetOperation where
  | intersection
  | difference
  | symmetricDifference
  deriving DecidableEq, Repr

/-- What stands between brackets. -/
inductive CharSet where
  | nothing
  | literal (c : Literal)
  | range (first last : Literal)
  /-- A set of ASCII by its name, as in `[:alpha:]`, or all but that. -/
  | named (isNegated : Bool) (name : String)
  /-- Digits, blanks or the characters of words, or all but these. -/
  | shorthand (isNegated : Bool)
  /-- The characters of a category, by the first letter of its name. -/
  | category (letter : Char)
  /-- Brackets inside brackets. -/
  | bracketed (isNegated : Bool) (set : CharSet)
  | union (parts : List CharSet)
  | combined (operation : SetOperation) (a b : CharSet)
  deriving Repr, Inhabited

inductive Pattern where
  | nothing
  | literal (c : Literal)
  /-- Any one character. -/
  | any
  /-- The beginning or the end of a line or of the text. -/
  | edge
  /-- A place where a word begins or ends, or where none does. -/
  | wordEdge
  | shorthand (isNegated : Bool)
  | category (letter : Char)
  /-- One character of a set, or any that is not in it. -/
  | oneOf (isNegated : Bool) (set : CharSet)
  | repeated (part : Pattern)
  /-- A pattern between parentheses, with flags that are set inside only. -/
  | group (name : Option String) (flags : Flags) (part : Pattern)
  /-- Flags that are set from there to the end of the group. -/
  | setting (flags : Flags)
  | sequence (parts : List Pattern)
  | choice (branches : List Pattern)
  deriving Repr, Inhabited

/-! ### Depth -/

namespace CharSet

mutual

/-- How deep sets are nested in a set. -/
def depth : CharSet → Nat
  | bracketed _ set => set.depth + 1
  | union parts => depthOfAll parts + 1
  | combined _ a b => max a.depth b.depth + 1
  | _ => 0

/-- The greatest depth of sets. -/
def depthOfAll : List CharSet → Nat
  | [] => 0
  | set :: rest => max set.depth (depthOfAll rest)

end

/-- The union of sets.  That of one set is the set itself. -/
def ofParts : List CharSet → CharSet
  | [] => nothing
  | [part] => part
  | parts => union parts

end CharSet

namespace Pattern

mutual

/-- How deep patterns are nested in a pattern. -/
def depth : Pattern → Nat
  | oneOf _ set => set.depth + 1
  | repeated part => part.depth + 1
  | group _ _ part => part.depth + 1
  | sequence parts => depthOfAll parts + 1
  | choice branches => depthOfAll branches + 1
  | _ => 0

/-- The greatest depth of patterns. -/
def depthOfAll : List Pattern → Nat
  | [] => 0
  | part :: rest => max part.depth (depthOfAll rest)

end

/-! ### Names -/

mutual

/-- The names of the groups of a pattern. -/
def names : Pattern → List String
  | repeated part => part.names
  | group name _ part => name.toList ++ part.names
  | sequence parts => namesOfAll parts
  | choice branches => namesOfAll branches
  | _ => []

def namesOfAll : List Pattern → List String
  | [] => []
  | part :: rest => part.names ++ namesOfAll rest

end

/-- Patterns one after another.  One alone is itself. -/
def ofParts : List Pattern → Pattern
  | [] => nothing
  | [part] => part
  | parts => sequence parts

/-- A choice between patterns.  Between one there is none. -/
def ofBranches : List Pattern → Pattern
  | [branch] => branch
  | branches => choice branches

end Pattern

end TierAudit.Text
