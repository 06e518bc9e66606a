import TierAudit.Markup.Attribute
import TierAudit.Text.Encoding

/-!
# Markup — events

The lexemes of a document in order, each with the encoding in force where it stands.  A scan checks
that every end tag closes the innermost open element, and learns the encoding from a byte-order mark
or from the first declaration that names one.
-/

namespace TierAudit.Markup
open Text

/-- A lexeme and the encoding its bytes are in. -/
structure Event where
  lexeme : Lexeme
  encoding : Encoding
  deriving DecidableEq, Repr

/-- What a scan knows between two lexemes. -/
structure Context where
  encoding : Encoding
  /-- The encoding was given by the caller or by a declaration, and no declaration changes it. -/
  settled : Bool
  /-- The names of the elements that are open, the innermost first. -/
  openNames : List Bytes
  deriving DecidableEq, Repr

namespace Context

/-- A tag's name for a message; one that cannot be decoded prints as nothing. -/
def nameText (context : Context) (name : Bytes) : String :=
  (context.encoding.decode? name).getD ""

/-- The encoding that a declaration names. -/
def declared? (body : Bytes) : Option Encoding :=
  (Attribute.value? (Bytes.ofText "encoding") body).bind Encoding.ofLabel?

/-- What is known after a lexeme. -/
def after (context : Context) : Lexeme → Except Fault Context
  | .start tag => .ok { context with openNames := tag.name :: context.openNames }
  | .finish name =>
    match context.openNames with
    | [] => .error (.unmatchedEnd (context.nameText name))
    | expected :: outer =>
      if name = expected then .ok { context with openNames := outer }
      else .error (.mismatchedEnd (context.nameText expected) (context.nameText name))
  | .declaration body =>
    if context.settled then .ok context
    else match declared? body with
      | some encoding => .ok { context with encoding, settled := true }
      | none => .ok context
  | _ => .ok context

end Context

/-- The events of a document up to its end or its first fault. -/
structure Scan where
  events : List Event
  /-- What is wrong, and how many bytes are left where it starts. -/
  fault : Option (Nat × Fault)

namespace Scan

/-- Scans the rest of a document. -/
def fromContext (context : Context) (bytes : Bytes) : Scan :=
  if _hne : bytes = [] then ⟨[], none⟩
  else match _h : lex bytes with
    | .error fault => ⟨[], some (bytes.length, fault)⟩
    | .ok (lexeme, rest) =>
      match context.after lexeme with
      | .error fault => ⟨[], some (bytes.length, fault)⟩
      | .ok context' =>
        let scan := fromContext context' rest
        ⟨⟨lexeme, context.encoding⟩ :: scan.events, scan.fault⟩
termination_by bytes.length
decreasing_by exact length_lex _hne _h

end Scan

/-- A document as the reader of a format sees it. -/
structure Document where
  events : List Event
  /-- What is wrong, and the offset of the byte where it starts; a byte-order mark does not
  count. -/
  fault : Option (Nat × Fault)

namespace Document

/-- Scans the content after a byte-order mark. -/
def scan (encoding : Encoding) (settled : Bool) (bytes : Bytes) : Document :=
  let scan := Scan.fromContext ⟨encoding, settled, []⟩ bytes
  ⟨scan.events, scan.fault.map fun (left, fault) => (bytes.length - left, fault)⟩

/-- A document from the bytes of a file: UTF-8, unless its first bytes or a declaration say
otherwise. -/
def ofBytes (bytes : Bytes) : Document :=
  match Encoding.ofMark? bytes with
  | some (encoding, mark) => scan encoding false (bytes.drop mark)
  | none => scan .utf8 false bytes

/-- A document from a text.  What it declares about its encoding does not matter. -/
def ofText (text : String) : Document :=
  let bytes := Bytes.ofText text
  match Encoding.ofMark? bytes with
  | some (_, mark) => scan .utf8 true (bytes.drop mark)
  | none => scan .utf8 true bytes

end Document

end TierAudit.Markup
