import TierAudit.Toml.Scalar
import TierAudit.Toml.Table
import TierAudit.Toml.Text

/-!
# TOML — documents

Reading a whole document (TOML 1.0).  A text that is not one is refused, without saying where.

Every step of a reader uses up a character, so a reader that is given the length of the text as the
number of its steps never runs out of them.
-/

namespace TierAudit.Toml

/-! ### Gaps and line ends -/

def skipGaps (cs : List Char) : List Char := cs.dropWhile isGap

/-- What follows the line, if there is nothing more on it but blanks and a comment. -/
def endLine? (cs : List Char) : Option (List Char) :=
  let rest := match skipGaps cs with
    | '#' :: comment => comment.dropWhile isTextChar
    | rest => rest
  match rest with
  | [] => some []
  | '\n' :: rest => some rest
  | '\r' :: '\n' :: rest => some rest
  | _ => none

/-- Skips blanks, line ends and comments, from inside a comment or not. -/
def skipLines : Bool → List Char → List Char
  | _, [] => []
  | comment, c :: rest =>
    if c = '\n' then skipLines false rest
    else if c = '\r' && rest.head? = some '\n' then skipLines false rest
    else if comment then
      if isTextChar c then skipLines true rest else c :: rest
    else if isGap c then skipLines false rest
    else if c = '#' then skipLines true rest
    else c :: rest

/-! ### Keys -/

/-- A character of a key without quotation marks. -/
def isKeyChar (c : Char) : Bool := c.isAlphanum || c = '_' || c = '-'

/-- One part of a key. -/
def keyPart? (cs : List Char) : Option (String × List Char) :=
  match cs with
  | '"' :: rest => (basicLine .outside rest).map fun (key, rest) => (String.ofList key, rest)
  | '\'' :: rest => (literalLine rest).map fun (key, rest) => (String.ofList key, rest)
  | _ =>
    let key := cs.takeWhile isKeyChar
    if key.isEmpty then none else some (String.ofList key, cs.drop key.length)

/-- Arrays and tables are nested at most so deep, and a key has at most so many parts. -/
def maxDepth : Nat := 79

/-- A key of at most so many parts: those that lead to a table, the last one, and what follows. -/
def keyWithin? : Nat → List Char → Option (List String × String × List Char)
  | 0, _ => none
  | parts + 1, cs => do
    let (part, rest) ← keyPart? (skipGaps cs)
    match skipGaps rest with
    | '.' :: rest => do
      let (parts, last, rest) ← keyWithin? parts rest
      return (part :: parts, last, rest)
    | rest => return ([], part, rest)

/-- A key: the parts that lead to a table, the last part, and what follows. -/
def key? (cs : List Char) : Option (List String × String × List Char) := keyWithin? maxDepth cs

/-! ### Values -/

mutual

/-- The value that a text begins with and what follows it, where arrays and tables may be nested
`depth` deep. -/
def value? : Nat → Nat → List Char → Option (Value × List Char)
  | 0, _, _ => none
  | fuel + 1, depth, cs =>
    match cs, depth with
    | '[' :: _, 0 => none
    | '\x7b' :: _, 0 => none
    | '[' :: rest, depth + 1 =>
      (items? fuel depth rest).map fun (items, rest) => (.array items, rest)
    | '\x7b' :: rest, depth + 1 =>
      match skipGaps rest with
      | '\x7d' :: rest => some (.table .inlined [], rest)
      | rest => (pairs? fuel depth [] rest).map fun (entries, rest) =>
        (.table .inlined entries, rest)
    | '"' :: _, _ => (text? cs).map fun (text, rest) => (.text text, rest)
    | '\'' :: _, _ => (text? cs).map fun (text, rest) => (.text text, rest)
    | _, _ =>
      let (first, rest) := word cs
      (scalar? first).map fun value => (value, rest)

/-- The items of an array after its opening bracket or a comma. -/
def items? : Nat → Nat → List Char → Option (List Value × List Char)
  | 0, _, _ => none
  | fuel + 1, depth, cs =>
    match skipLines false cs with
    | ']' :: rest => some ([], rest)
    | cs => do
      let (value, rest) ← value? fuel depth cs
      match skipLines false rest with
      | ']' :: rest => return ([value], rest)
      | ',' :: rest => do
        let (values, rest) ← items? fuel depth rest
        return (value :: values, rest)
      | _ => none

/-- The entries of a table between braces, added to those before them. -/
def pairs? : Nat → Nat → Entries → List Char → Option (Entries × List Char)
  | 0, _, _, _ => none
  | fuel + 1, depth, entries, cs => do
    let (keys, key, rest) ← key? cs
    match rest with
    | '=' :: rest => do
      let (value, rest) ← value? fuel depth (skipGaps rest)
      let entries ← entries.assign? keys key value .inlined
      match skipGaps rest with
      | '\x7d' :: rest => return (entries, rest)
      | ',' :: rest => pairs? fuel depth entries rest
      | _ => none
    | _ => none

end

/-! ### Lines -/

/-- The table that the lines of a document add to. -/
structure Section where
  keys : List String
  root : Entries

/-- The keys of a header, with what follows the bracket that closes it. -/
def header? (cs : List Char) : Option (List String × String × List Char) := do
  let (keys, key, rest) ← key? cs
  match rest with
  | ']' :: rest => return (keys, key, rest)
  | _ => none

/-- Reads the line that a text begins with. -/
def line? (fuel : Nat) (here : Section) (cs : List Char) : Option (Section × List Char) :=
  match skipGaps cs with
  | '[' :: '[' :: rest => do
    let (keys, key, rest) ← header? rest
    match rest with
    | ']' :: rest =>
      return (⟨keys ++ [key], ← here.root.appendTable? keys key⟩, ← endLine? rest)
    | _ => none
  | '[' :: rest => do
    let (keys, key, rest) ← header? rest
    return (⟨keys ++ [key], ← here.root.openTable? keys key⟩, ← endLine? rest)
  | cs =>
    match endLine? cs with
    | some rest => some (here, rest)
    | none => do
      let (keys, key, rest) ← key? cs
      match rest with
      | '=' :: rest => do
        let (value, rest) ← value? fuel maxDepth (skipGaps rest)
        let root ← here.root.update? false
          (fun origin inner => inner.assign? keys key value origin) here.keys .header
        return (⟨here.keys, root⟩, ← endLine? rest)
      | _ => none

/-- Reads line after line. -/
def lines? : Nat → Section → List Char → Option Entries
  | _, here, [] => some here.root
  | 0, _, _ => none
  | fuel + 1, here, cs => do
    let (here, rest) ← line? (fuel + 1) here cs
    lines? fuel here rest

/-- The table that a document describes.  A byte-order mark at its start is not part of it. -/
def read? (text : String) : Option Entries :=
  let cs := match text.toList with
    | '\ufeff' :: cs => cs
    | cs => cs
  lines? (cs.length + 1) ⟨[], []⟩ cs

end TierAudit.Toml
