import TierAudit.Text.Alphanumeric
import TierAudit.Text.Blank
import TierAudit.Text.Numeral
import TierAudit.Text.Pattern

/-!
# Text — reading patterns

The pattern of a text, if it is one.  Braces that close do not occur in the texts that are read
here, so nothing that would need one does either: no count after a part, and no number or category
between braces.

Every step of a reader uses up a character, so a reader that is given the length of the text as the
number of its steps never runs out of them.
-/

namespace TierAudit.Text

/-! ### Flags -/

/-- The flag of a letter. -/
def Flag.ofLetter? : Char → Option Flag
  | 'i' => some .ignoresCase
  | 'm' => some .manyLines
  | 's' => some .spansLines
  | 'U' => some .isLazy
  | 'u' => some .unicode
  | 'R' => some .carriageReturns
  | 'x' => some .spaced
  | _ => none

/-- The flags of a text: those before a minus sign are set on, and those after it off.  None is
given twice, and a minus sign is not the last. -/
def Flags.ofText? (text : List Char) : Option Flags := do
  let set := text.takeWhile (· ≠ '-')
  let cleared := text.drop set.length
  let on ← set.mapM Flag.ofLetter?
  let off ← (cleared.drop 1).mapM Flag.ofLetter?
  guard (cleared ≠ ['-'] && (on ++ off).Nodup)
  return on.map (·, true) ++ off.map (·, false)

namespace Pattern

/-! ### Blanks and comments -/

/-- What follows blanks and comments, from inside a comment or not. -/
def skipFrom : Bool → List Char → List Char
  | _, [] => []
  | true, c :: rest => skipFrom (c ≠ '\n') rest
  | false, c :: rest =>
    if isBlank c then skipFrom false rest
    else if c = '#' then skipFrom true rest
    else c :: rest

/-- What is read next, where blanks and comments are passed over or not. -/
def skip (spaced : Bool) (text : List Char) : List Char :=
  if spaced then skipFrom false text else text

/-- The character that tells what a dash before it means.  Blanks do not count for it, nor does the
sign that begins a comment. -/
def afterDash? (spaced : Bool) (text : List Char) : Option Char :=
  if spaced then
    match text.dropWhile isBlank with
    | '#' :: rest => (rest.dropWhile isBlank).head?
    | rest => rest.head?
  else text.head?

/-! ### Escapes -/

/-- The character of so many hexadecimal digits, and what follows them. -/
def numbered? (spaced : Bool) : Nat → Nat → List Char → Option (Char × List Char)
  | 0, code, text => if code.isValidChar then some (Char.ofNat code, text) else none
  | _ + 1, _, [] => none
  | digits + 1, code, c :: rest =>
    (Numeral.digit? 16 c).bind fun d => numbered? spaced digits (code * 16 + d) (skip spaced rest)

/-- The control character of a letter. -/
def control? : Char → Option Char
  | 'a' => some '\x07'
  | 'f' => some '\x0c'
  | 'n' => some '\n'
  | 'r' => some '\r'
  | 't' => some '\t'
  | 'v' => some '\x0b'
  | _ => none

/-- Whether a character stands for itself after a backslash. -/
def isEscapable (c : Char) : Bool := c.toNat < 128 && !c.isAlphanum && c ≠ '<' && c ≠ '>'

/-- What stands after a backslash. -/
def escape? (spaced : Bool) : List Char → Option (Pattern × List Char)
  | [] => none
  | c :: rest =>
    match c with
    | 'x' => (numbered? spaced 2 0 (skip spaced rest)).map fun (c, rest) =>
      (literal ⟨c, true⟩, rest)
    | 'u' => (numbered? spaced 4 0 (skip spaced rest)).map fun (c, rest) =>
      (literal ⟨c, false⟩, rest)
    | 'U' => (numbered? spaced 8 0 (skip spaced rest)).map fun (c, rest) =>
      (literal ⟨c, false⟩, rest)
    | 'p' | 'P' =>
      match skip spaced rest with
      | [] => none
      | letter :: rest =>
        if letter = '\x7b' || letter = '\\' then none else some (category letter, skip spaced rest)
    | 'd' | 's' | 'w' => some (shorthand false, rest)
    | 'D' | 'S' | 'W' => some (shorthand true, rest)
    | 'A' | 'z' => some (edge, rest)
    | 'b' | 'B' | '<' | '>' => some (wordEdge, rest)
    | _ =>
      match control? c with
      | some control => some (literal ⟨control, false⟩, rest)
      | none => if isEscapable c then some (literal ⟨c, false⟩, rest) else none

/-! ### Sets -/

/-- The names of sets of ASCII. -/
def setNames : List String :=
  ["alnum", "alpha", "ascii", "blank", "cntrl", "digit", "graph", "lower", "print", "punct",
    "space", "upper", "word", "xdigit"]

/-- A set by its name, after an opening bracket. -/
def namedSet? : List Char → Option (CharSet × List Char)
  | ':' :: text =>
    let isNegated := text.head? = some '^'
    let text := if isNegated then text.drop 1 else text
    let name := text.takeWhile (· ≠ ':')
    match text.drop name.length with
    | ':' :: ']' :: rest =>
      if String.ofList name ∈ setNames then some (.named isNegated (String.ofList name), rest)
      else none
    | _ => none
  | _ => none

/-- A pattern for one character as a set. -/
def toSet? : Pattern → Option CharSet
  | literal c => some (.literal c)
  | shorthand isNegated => some (.shorthand isNegated)
  | category letter => some (.category letter)
  | _ => none

/-- What stands between brackets for itself. -/
def setItem? (spaced : Bool) : List Char → Option (Pattern × List Char)
  | [] => none
  | '\\' :: rest => escape? spaced rest
  | c :: rest => some (literal ⟨c, false⟩, rest)

/-- A range between brackets, or one item.  A dash makes a range, unless the set ends behind it or
another dash follows. -/
def setRange? (spaced : Bool) (text : List Char) : Option (CharSet × List Char) := do
  let (first, rest) ← setItem? spaced text
  match skip spaced rest with
  | [] => none
  | '-' :: behind =>
    let next := afterDash? spaced behind
    if next = some ']' || next = some '-' then return (← first.toSet?, '-' :: behind)
    else
      let (last, rest) ← setItem? spaced (skip spaced behind)
      match first, last with
      | literal a, literal b => if a.char ≤ b.char then return (.range a b, rest) else none
      | _, _ => none
  | rest => return (← first.toSet?, rest)

/-- The sign of an operation between sets, and what follows it. -/
def operation? : List Char → Option (SetOperation × List Char)
  | '&' :: '&' :: rest => some (.intersection, rest)
  | '-' :: '-' :: rest => some (.difference, rest)
  | '~' :: '~' :: rest => some (.symmetricDifference, rest)
  | _ => none

/-- What is on the left of the items of a set, if there is an operation. -/
abbrev LeftSide := Option (SetOperation × CharSet)

/-- The set of the items so far, the last of them first, with what is on their left. -/
def LeftSide.close (left : LeftSide) (items : List CharSet) : CharSet :=
  match left with
  | none => .ofParts items.reverse
  | some (operation, a) => .combined operation a (.ofParts items.reverse)

/-- The rest of a set after some items, the last of them first, up to the bracket that closes it.
At the start dashes are items, and so is a closing bracket as the first of them. -/
def setFrom? : Nat → Bool → Bool → LeftSide → List CharSet → List Char →
    Option (CharSet × List Char)
  | 0, _, _, _, _, _ => none
  | fuel + 1, spaced, atStart, left, items, text =>
    let text := skip spaced text
    match operation? text, atStart, text with
    | _, _, [] => none
    | _, true, '-' :: rest =>
      setFrom? fuel spaced true left (.literal ⟨'-', false⟩ :: items) rest
    | some (operation, rest), _, _ =>
      setFrom? fuel spaced false (some (operation, left.close items)) [] rest
    | _, _, ']' :: rest =>
      if atStart && items.isEmpty then
        setFrom? fuel spaced false left [.literal ⟨']', false⟩] rest
      else some (left.close items, rest)
    | _, _, '[' :: rest =>
      match namedSet? rest with
      | some (set, rest) => setFrom? fuel spaced false left (set :: items) rest
      | none => do
        let inner := skip spaced rest
        let isNegated := inner.head? = some '^'
        let (set, rest) ←
          setFrom? fuel spaced true none [] (if isNegated then inner.drop 1 else inner)
        setFrom? fuel spaced false left (.bracketed isNegated set :: items) rest
    | _, _, _ => do
      let (set, rest) ← setRange? spaced text
      setFrom? fuel spaced false left (set :: items) rest

/-! ### Groups -/

/-- Whether a character can stand in the name of a group, as the first or later. -/
def isNameChar (isFirst : Bool) (c : Char) : Bool :=
  if isFirst then c = '_' || isAlphabetic c
  else c = '_' || c = '.' || c = '[' || c = ']' || isAlphanumeric c

/-- What a parenthesis opens. -/
inductive Opening where
  | group (name : Option String) (flags : Flags)
  /-- Flags, with nothing else up to the closing parenthesis. -/
  | setting (flags : Flags)
  deriving Repr

/-- The group of a name that ends with an angle bracket. -/
def namedGroup? (text : List Char) : Option (Opening × List Char) :=
  let name := text.takeWhile (· ≠ '>')
  match name, text.drop name.length with
  | first :: others, _ :: rest =>
    if isNameChar true first && others.all (isNameChar false) then
      some (.group (some (String.ofList name)) [], rest)
    else none
  | _, _ => none

/-- What an opening parenthesis before a text opens, and what follows. -/
def opening? (spaced : Bool) (text : List Char) : Option (Opening × List Char) :=
  match skip spaced text with
  | '?' :: 'P' :: '<' :: rest => namedGroup? rest
  | '?' :: '<' :: rest => namedGroup? rest
  | '?' :: rest => do
    let signs := rest.takeWhile fun c => c ≠ ':' && c ≠ ')'
    let flags ← Flags.ofText? signs
    match rest.drop signs.length with
    | ':' :: rest => return (.group none flags, rest)
    | ')' :: rest => if flags.isEmpty then none else return (.setting flags, rest)
    | _ => none
  | rest => some (.group none [], rest)

/-! ### Patterns -/

/-- Whether a part can be repeated. -/
def isRepeatable : Pattern → Bool
  | setting _ => false
  | _ => true

/-- A part that is neither a group nor a set, and is not repeated here. -/
def atom? (spaced : Bool) : List Char → Option (Pattern × List Char)
  | [] => none
  | '\\' :: rest => escape? spaced rest
  | '.' :: rest => some (any, rest)
  | '^' :: rest => some (edge, rest)
  | '$' :: rest => some (edge, rest)
  | c :: rest => some (literal ⟨c, false⟩, rest)

/-- The branches of a choice up to the parenthesis that closes its group, or to the end: the first
of them after some parts, the last of these first.  A question mark after a repetition belongs to
it. -/
def branches? : Nat → Bool → List Pattern → List Char → Option (List Pattern × List Char)
  | 0, _, _, _ => none
  | fuel + 1, spaced, parts, text =>
    match skip spaced text with
    | [] => some ([ofParts parts.reverse], [])
    | ')' :: rest => some ([ofParts parts.reverse], ')' :: rest)
    | '|' :: rest => (branches? fuel spaced [] rest).map fun (branches, rest) =>
      (ofParts parts.reverse :: branches, rest)
    | '\x7b' :: _ => none
    | '(' :: rest => do
      match ← opening? spaced rest with
      | (.setting flags, rest) =>
        branches? fuel ((flags.state? .spaced).getD spaced) (setting flags :: parts) rest
      | (.group name flags, rest) => do
        match ← branches? fuel ((flags.state? .spaced).getD spaced) [] rest with
        | (inner, ')' :: rest) =>
          branches? fuel spaced (group name flags (ofBranches inner) :: parts) rest
        | _ => none
    | '[' :: rest => do
      let inner := skip spaced rest
      let isNegated := inner.head? = some '^'
      let (set, rest) ←
        setFrom? fuel spaced true none [] (if isNegated then inner.drop 1 else inner)
      branches? fuel spaced (oneOf isNegated set :: parts) rest
    | c :: rest =>
      if c = '*' || c = '+' || c = '?' then
        match parts with
        | part :: parts =>
          if part.isRepeatable then
            branches? fuel spaced (repeated part :: parts)
              (if rest.head? = some '?' then rest.drop 1 else rest)
          else none
        | [] => none
      else do
        let (part, rest) ← atom? spaced (c :: rest)
        branches? fuel spaced (part :: parts) rest

/-- The pattern of a text, if all of it is one. -/
def ofText? (text : List Char) : Option Pattern := do
  match ← branches? (text.length + 1) false [] text with
  | (branches, []) => return ofBranches branches
  | _ => none

end Pattern

end TierAudit.Text
