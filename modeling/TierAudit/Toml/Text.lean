import TierAudit.Text.Numeral

/-!
# TOML — texts

The four ways to write a text: basic and literal, on one line or on several.  Every function is
given what follows the opening quotation marks, and returns the text with what follows the closing
ones.
-/

namespace TierAudit.Toml
open TierAudit.Text (Numeral.digit?)

/-- A text that was read and what follows it. -/
abbrev Taken := Option (List Char × List Char)

/-- Puts a character in front of the text. -/
def Taken.cons (c : Char) (taken : Taken) : Taken := taken.map fun (text, rest) => (c :: text, rest)

def isGap (c : Char) : Bool := c = ' ' || c = '\t'

/-- A character that may stand in a text or a comment: no control but the tab. -/
def isTextChar (c : Char) : Bool := c = '\t' || (0x20 ≤ c.toNat && c.toNat ≠ 0x7F)

/-- The character that a backslash and a letter stand for. -/
def simpleEscape? (c : Char) : Option Char :=
  match c with
  | 'b' => some '\x08'
  | 't' => some '\t'
  | 'n' => some '\n'
  | 'f' => some '\x0c'
  | 'r' => some '\r'
  | '"' => some '"'
  | '\\' => some '\\'
  | _ => none

/-- The character of a code point, if it is one. -/
def charOf? (code : Nat) : Option Char :=
  if h : code.isValidChar then some (Char.ofNatAux code h) else none

/-- Where the reader of a text stands in an escape. -/
inductive EscapeState where
  /-- In none. -/
  | outside
  | backslash
  /-- In a code point, of which `left + 1` digits are to come. -/
  | code (left value : Nat)
  /-- After a backslash at the end of a line, before the line ends. -/
  | lineEnd
  /-- In the blanks and line ends that such a backslash takes away. -/
  | joined

/-- What a backslash and a character begin. -/
def afterBackslash (c : Char) : Option (EscapeState ⊕ Char) :=
  if c = 'u' then some (.inl (.code 3 0))
  else if c = 'U' then some (.inl (.code 7 0))
  else (simpleEscape? c).map .inr

/-- What one more digit makes of a code point. -/
def afterDigit (left value : Nat) (c : Char) : Option (EscapeState ⊕ Char) := do
  let value := value * 16 + (← Numeral.digit? 16 c)
  match left with
  | 0 => (charOf? value).map .inr
  | left + 1 => return .inl (.code left value)

/-- The quotation marks at the end of a text on several lines: three close it, and up to two before
them belong to it. -/
def closing? (quote : Char) (cs : List Char) : Taken :=
  let run := (cs.takeWhile (· = quote)).length
  if run < 3 then none
  else
    let extra := min (run - 3) 2
    some (List.replicate extra quote, cs.drop (3 + extra))

/-- A basic text on one line. -/
def basicLine : EscapeState → List Char → Taken
  | _, [] => none
  | .backslash, c :: rest =>
    match afterBackslash c with
    | some (.inl state) => basicLine state rest
    | some (.inr char) => (basicLine .outside rest).cons char
    | none => none
  | .code left value, c :: rest =>
    match afterDigit left value c with
    | some (.inl state) => basicLine state rest
    | some (.inr char) => (basicLine .outside rest).cons char
    | none => none
  | _, c :: rest =>
    if c = '"' then some ([], rest)
    else if c = '\\' then basicLine .backslash rest
    else if isTextChar c then (basicLine .outside rest).cons c
    else none

/-- A basic text on several lines. -/
def basicLines : EscapeState → List Char → Taken
  | _, [] => none
  | .backslash, c :: rest =>
    if isGap c || (c = '\r' && rest.head? = some '\n') then basicLines .lineEnd rest
    else if c = '\n' then basicLines .joined rest
    else match afterBackslash c with
      | some (.inl state) => basicLines state rest
      | some (.inr char) => (basicLines .outside rest).cons char
      | none => none
  | .code left value, c :: rest =>
    match afterDigit left value c with
    | some (.inl state) => basicLines state rest
    | some (.inr char) => (basicLines .outside rest).cons char
    | none => none
  | .lineEnd, c :: rest =>
    if isGap c || (c = '\r' && rest.head? = some '\n') then basicLines .lineEnd rest
    else if c = '\n' then basicLines .joined rest
    else none
  | state, c :: rest =>
    if c = '"' then
      match closing? '"' (c :: rest) with
      | some taken => some taken
      | none => (basicLines .outside rest).cons c
    else if c = '\\' then basicLines .backslash rest
    else if c = '\r' && rest.head? = some '\n' then basicLines state rest
    else match state with
      | .joined =>
        if isGap c || c = '\n' then basicLines .joined rest
        else if isTextChar c then (basicLines .outside rest).cons c
        else none
      | _ =>
        if c = '\n' || isTextChar c then (basicLines .outside rest).cons c else none

/-- A literal text on one line. -/
def literalLine : List Char → Taken
  | [] => none
  | c :: rest =>
    if c = '\'' then some ([], rest)
    else if isTextChar c then (literalLine rest).cons c
    else none

/-- A literal text on several lines. -/
def literalLines : List Char → Taken
  | [] => none
  | c :: rest =>
    if c = '\'' then
      match closing? '\'' (c :: rest) with
      | some taken => some taken
      | none => (literalLines rest).cons c
    else if c = '\r' && rest.head? = some '\n' then literalLines rest
    else if c = '\n' || isTextChar c then (literalLines rest).cons c
    else none

/-- A text on several lines may start on the next one. -/
def skipNewline (cs : List Char) : List Char :=
  match cs with
  | '\n' :: rest => rest
  | '\r' :: '\n' :: rest => rest
  | _ => cs

/-- A text in any of the four ways, or nothing if there is no quotation mark. -/
def text? (cs : List Char) : Option (String × List Char) :=
  let taken : Taken := match cs with
    | '"' :: '"' :: '"' :: rest => basicLines .outside (skipNewline rest)
    | '"' :: rest => basicLine .outside rest
    | '\'' :: '\'' :: '\'' :: rest => literalLines (skipNewline rest)
    | '\'' :: rest => literalLine rest
    | _ => none
  taken.map fun (text, rest) => (String.ofList text, rest)

end TierAudit.Toml
