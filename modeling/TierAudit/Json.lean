/-!
# JSON

Values whose members keep their order, and how they are written: on one line, or indented by two
blanks a level.
-/

namespace TierAudit

inductive Json where
  | null
  | number (n : Nat)
  | text (s : String)
  | array (items : List Json)
  | object (members : List (String × Json))
  deriving Inhabited

namespace Json

/-- An optional value; what is missing is null. -/
def ofOption (value : Option Json) : Json := value.getD null

/-! ### Texts -/

/-- A digit of a number in hexadecimal. -/
def hexDigit (n : Nat) : Char := Nat.digitChar n

/-- A character as it stands between quotation marks.  A control is escaped by its letter, or else
by its number. -/
def escapeChar (c : Char) : List Char :=
  match c with
  | '"' => ['\\', '"']
  | '\\' => ['\\', '\\']
  | '\x08' => ['\\', 'b']
  | '\x0c' => ['\\', 'f']
  | '\n' => ['\\', 'n']
  | '\r' => ['\\', 'r']
  | '\t' => ['\\', 't']
  | c =>
    if c.toNat < 0x20 then
      ['\\', 'u', '0', '0', hexDigit (c.toNat / 16), hexDigit (c.toNat % 16)]
    else [c]

/-- A text between quotation marks. -/
def quote (s : String) : String :=
  String.ofList ('"' :: s.toList.flatMap escapeChar ++ ['"'])

/-! ### Layouts -/

/-- How a value is laid out. -/
inductive Layout where
  | compact
  | indented
  deriving DecidableEq, Repr

/-- What stands before an item at a depth. -/
def Layout.lineBreak (layout : Layout) (depth : Nat) : String :=
  match layout with
  | compact => ""
  | indented => "\n" ++ String.ofList (List.replicate (2 * depth) ' ')

/-- What stands between the name of a member and its value. -/
def Layout.colon : Layout → String
  | compact => ":"
  | indented => ": "

mutual

/-- A value at a depth. -/
def renderAt (layout : Layout) (depth : Nat) : Json → String
  | null => "null"
  | number n => toString n
  | text s => quote s
  | array [] => "[]"
  | array (item :: items) =>
    "[" ++ layout.lineBreak (depth + 1) ++ renderAt layout (depth + 1) item ++
      renderItems layout (depth + 1) items ++ layout.lineBreak depth ++ "]"
  | object [] => "\x7b\x7d"
  | object ((name, value) :: members) =>
    "\x7b" ++ layout.lineBreak (depth + 1) ++ quote name ++ layout.colon ++
      renderAt layout (depth + 1) value ++ renderMembers layout (depth + 1) members ++
      layout.lineBreak depth ++ "\x7d"

/-- The items of an array after the first. -/
def renderItems (layout : Layout) (depth : Nat) : List Json → String
  | [] => ""
  | item :: items =>
    "," ++ layout.lineBreak depth ++ renderAt layout depth item ++ renderItems layout depth items

/-- The members of an object after the first. -/
def renderMembers (layout : Layout) (depth : Nat) : List (String × Json) → String
  | [] => ""
  | (name, value) :: members =>
    "," ++ layout.lineBreak depth ++ quote name ++ layout.colon ++ renderAt layout depth value ++
      renderMembers layout depth members

end

/-- A value as a document. -/
def render (layout : Layout) (json : Json) : String := renderAt layout 0 json

end Json

end TierAudit
