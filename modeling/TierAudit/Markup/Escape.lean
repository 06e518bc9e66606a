import TierAudit.Text.Numeral

/-!
# Markup — escapes

The five characters that markup writes as entities, and reading entities and character references
back.  Offsets in faults count the bytes of the text in UTF-8.
-/

namespace TierAudit.Markup
open Text

/-- Why a character reference means no character. -/
inductive ReferenceFault where
  | sign
  | numeral (fault : Numeral.Fault)
  | zero
  | noCharacter (code : Nat)
  deriving DecidableEq, Repr

/-- Why a text cannot be unescaped. -/
inductive EscapeFault where
  /-- An `&` without a `;` before the next `&`. -/
  | unterminated (start stop : Nat)
  | unknownEntity (start stop : Nat) (name : String)
  | reference (fault : ReferenceFault)
  deriving DecidableEq, Repr

def ReferenceFault.message : ReferenceFault → String
  | sign => "unexpected number sign"
  | numeral fault => fault.message
  | zero => "0x0 character is not permitted in XML"
  | noCharacter code => "`" ++ toString code ++ "` is not a valid codepoint"

def EscapeFault.message : EscapeFault → String
  | unterminated start stop =>
    "Error while escaping character at range " ++ toString start ++ ".." ++ toString stop ++
      ": Cannot find ';' after '&'"
  | unknownEntity start stop name =>
    "at " ++ toString start ++ ".." ++ toString stop ++ ": unrecognized entity `" ++ name ++ "`"
  | reference fault => "invalid character reference: " ++ fault.message

/-! ### Writing -/

/-- A character as it stands in markup. -/
def escapeChar (c : Char) : List Char :=
  match c with
  | '<' => ['&', 'l', 't', ';']
  | '>' => ['&', 'g', 't', ';']
  | '&' => ['&', 'a', 'm', 'p', ';']
  | '\'' => ['&', 'a', 'p', 'o', 's', ';']
  | '"' => ['&', 'q', 'u', 'o', 't', ';']
  | c => [c]

/-- A text as it stands in markup. -/
def escape (s : String) : String :=
  String.ofList (s.toList.flatMap escapeChar)

/-! ### Reading -/

/-- The character of an entity's name. -/
def entity? (name : List Char) : Option Char :=
  match name with
  | ['l', 't'] => some '<'
  | ['g', 't'] => some '>'
  | ['a', 'm', 'p'] => some '&'
  | ['a', 'p', 'o', 's'] => some '\''
  | ['q', 'u', 'o', 't'] => some '"'
  | _ => none

/-- The number of a character reference, decimal or after an `x` hexadecimal. -/
def referenceCode (digits : List Char) : Except ReferenceFault Nat :=
  let (base, digits) := match digits with
    | 'x' :: digits => (16, digits)
    | digits => (10, digits)
  match digits with
  | '+' :: _ => .error .sign
  | '-' :: _ => .error .sign
  | digits => (Numeral.read base 0xFFFFFFFF digits).mapError .numeral

/-- The character that a character reference stands for. -/
def referenceChar (digits : List Char) : Except ReferenceFault Char := do
  let code ← referenceCode digits
  if code = 0 then .error .zero
  else if h : code.isValidChar then .ok (Char.ofNatAux code h)
  else .error (.noCharacter code)

/-- The character that stands between an `&` and a `;`.  The name starts at the byte `start`. -/
def unescapeName (start : Nat) (name : List Char) : Except EscapeFault Char :=
  match name with
  | '#' :: digits => (referenceChar digits).mapError .reference
  | name =>
    match entity? name with
    | some c => .ok c
    | none =>
      let text := String.ofList name
      .error (.unknownEntity start (start + text.utf8ByteSize) text)

/-- A character inside the name of an entity. -/
def isNameChar (c : Char) : Bool := c ≠ '&' && c ≠ ';'

/-- Unescapes what follows the first `offset` bytes of a text of `size` bytes. -/
def unescapeFrom (size : Nat) (offset : Nat) : List Char → Except EscapeFault (List Char)
  | [] => .ok []
  | c :: rest =>
    if c = '&' then
      let name := rest.takeWhile isNameChar
      match _h : rest.dropWhile isNameChar with
      | ';' :: after => do
        let char ← unescapeName (offset + 1) name
        let next := offset + 2 + (String.ofList name).utf8ByteSize
        return char :: (← unescapeFrom size next after)
      | _ => .error (.unterminated offset size)
    else do
      return c :: (← unescapeFrom size (offset + c.utf8Size) rest)
termination_by cs => cs.length
decreasing_by
  · have := (List.dropWhile_sublist (l := rest) isNameChar).length_le
    rw [_h] at this
    simp only [List.length_cons] at this ⊢
    omega
  · simp

/-- The text without escapes. -/
def unescape (s : String) : Except EscapeFault String :=
  String.ofList <$> unescapeFrom s.utf8ByteSize 0 s.toList

end TierAudit.Markup
