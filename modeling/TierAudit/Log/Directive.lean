import TierAudit.Log
import TierAudit.Text.Blank
import TierAudit.Text.Case
import TierAudit.Text.Extent
import TierAudit.Text.Numeral
import TierAudit.Text.Pattern.Mode
import TierAudit.Text.Pattern.Parser
import TierAudit.Text.Pieces

/-!
# Log — directives

The rules of which filters are made, and how they are written:

| directive            | lets through                                            |
|----------------------|---------------------------------------------------------|
| `info`               | entries down to a level; levels are also numbered       |
| `gate::store`        | everything from sources whose names begin like this     |
| `gate::store=info`   | entries from there down to a level                      |
| `gate[{file}]=info`  | entries from there that have a field                    |
| `gate[work]=info`    | entries told while some work is under way               |
| `[{size=12}]`        | entries told while work with such a field is under way  |

Nothing here is told as part of a work under way, so directives of the last two forms concern no
entry.

A directive is read without the blanks around it.  Its parts, however, are cut out of the text with
the blanks, at places that do not count the blanks in front.  So these spoil the parts of a
directive, and a part may even be cut inside a character.
-/

namespace TierAudit.Log
open Text

/-- Why a text is not read as a filter. -/
inductive Fault where
  /-- A text is not a directive. -/
  | malformed
  /-- A text is to be cut inside a character. -/
  | splitCharacter (text : String)
  deriving DecidableEq, Repr

/-- How many bytes of a text are shown in a message. -/
def maxShown : Nat := 256

def Fault.message : Fault → String
  | malformed => "invalid filter directive"
  | splitCharacter text =>
    let shown := fitting maxShown text.toList
    "a part of a directive begins or ends inside a character of `" ++ String.ofList shown ++
      (if shown.length < text.length then "`[...]" else "`")

/-- The limits of directives by name, numbered from zero.  The first lets nothing through. -/
def limits : List (String × Option Level) :=
  [("off", none), ("error", some .error), ("warn", some .warn), ("info", some .info),
    ("debug", some .debug), ("trace", some .trace)]

/-- The limit of a name, in whatever case it is written, or of a number. -/
def readLimit? (text : List Char) : Option (Option Level) :=
  match Numeral.readSigned 5 text with
  | .ok n => (limits[n]?).map (·.2)
  | .error _ =>
    (limits.find? fun limit => equalsIgnoringCase limit.1 (String.ofList text)).map (·.2)

/-- Which entries a directive is about, apart from their source. -/
inductive Scope where
  | everything
  /-- Entries with a field of this name. -/
  | field (name : String)
  /-- Entries that belong to a work under way. -/
  | work
  deriving DecidableEq, Repr

/-- One rule of a filter. -/
structure Directive where
  /-- How the names of the sources begin that it is about. -/
  source : Option String
  scope : Scope
  /-- The last level that it lets through, if it lets any through. -/
  limit : Option Level
  deriving DecidableEq, Repr

namespace Directive

/-- Everything down to a level. -/
def upTo (limit : Option Level) : Directive := ⟨none, .everything, limit⟩

def concerns (directive : Directive) (entry : Entry) : Bool :=
  (directive.source.all fun source => source.toList.isPrefixOf entry.source.toList) &&
    match directive.scope with
    | .everything => true
    | .field name => entry.hasField name
    | .work => false

def admits (directive : Directive) (entry : Entry) : Bool :=
  directive.limit.any fun limit => entry.level.rank ≤ limit.rank

/-- How specific a directive is about the source: the longer, the more so. -/
def sourceWeight (directive : Directive) : Nat :=
  directive.source.elim 0 fun source => source.utf8ByteSize + 1

/-- The name of the field that a directive asks for. -/
def fieldName (directive : Directive) : String :=
  match directive.scope with
  | .field name => name
  | _ => ""

/-- Whether a directive is less specific than another: in the source, or else in the field. -/
def isLess (a b : Directive) : Bool :=
  a.sourceWeight < b.sourceWeight ||
    (a.sourceWeight = b.sourceWeight && decide (a.fieldName < b.fieldName))

/-! ### Reading -/

/-- A directive as it is written, with the blanks around it. -/
abbrev Written := List Char

namespace Written

/-- The part from one byte to another. -/
def part (written : Written) (start stop : Nat) : Except Fault (List Char) :=
  match between? start stop written with
  | some part => .ok part
  | none => .error (.splitCharacter (String.ofList written))

/-- The limit from a byte on.  With nothing there, all is let through. -/
def limit (written : Written) (start : Nat) : Except Fault (Option Level) := do
  match ← written.part start (byteSize written) with
  | [] => return some .trace
  | text =>
    match readLimit? text with
    | some limit => return limit
    | none => .error .malformed

/-- The limit of what follows a bracket, from a byte on.  Without a limit, all is let through. -/
def limitBehind (written : Written) (start : Nat) : List Char → Except Fault (Option Level)
  | [] => .ok (some .trace)
  | '=' :: _ => written.limit (start + 1)
  | _ => .error .malformed

/-- Whether a field can have such a value: a number or what matches a pattern. -/
def isValue (text : List Char) : Bool :=
  Numeral.isReal text || (Pattern.ofText? text).any (·.isUsable)

/-- What is asked of a field: to be there, or to have a value.  What follows a second equals sign
does not count. -/
def scope (text : List Char) : Except Fault Scope :=
  match pieces '=' text with
  | [name] => if name.isEmpty then .error .malformed else .ok (.field (String.ofList name))
  | _ :: value :: _ => if isValue value then .ok .work else .error .malformed
  | [] => .error .malformed

/-- The directive of what follows an opening bracket, from a byte on. -/
def bracket (written : Written) (source : Option String) (start : Nat) (text : List Char) :
    Except Fault Directive := do
  let name := text.takeWhile fun c => c ≠ ']' && c ≠ '\x7b'
  let stop := start + byteSize name
  match text.drop name.length with
  | ']' :: rest =>
    let _ ← written.part start stop
    return ⟨source, .work, ← written.limitBehind (stop + 1) rest⟩
  | '\x7b' :: rest =>
    let work ← written.part start stop
    let field := rest.takeWhile (· ≠ '\x7d')
    let last := stop + 1 + byteSize field
    match rest.drop field.length with
    | '\x7d' :: rest =>
      let scope ← scope (← written.part (stop + 1) last)
      match rest with
      | ']' :: rest =>
        let limit ← written.limitBehind (last + 2) rest
        return ⟨source, if work.isEmpty then scope else .work, limit⟩
      | _ => .error .malformed
    | _ => .error .malformed
  | _ => .error .malformed

/-- The directive of a text that begins with a source, or is a limit.  A source that is a limit by
name is a source only with a limit of its own. -/
def sourced (written : Written) (text : List Char) : Except Fault Directive := do
  let source := text.takeWhile fun c => c ≠ '=' && c ≠ '['
  let stop := byteSize source
  match text.drop source.length with
  | [] =>
    match readLimit? written with
    | some limit => return upTo limit
    | none => return ⟨some (String.ofList written), .everything, some .trace⟩
  | '[' :: rest => written.bracket (some (String.ofList (← written.part 0 stop))) (stop + 1) rest
  | _ =>
    let source ← written.part 0 stop
    return ⟨some (String.ofList source), .everything, ← written.limit (stop + 1)⟩

end Written

/-- Whether a directive can begin with a character. -/
def opens (c : Char) : Bool := c = '-' || c = ':' || c = '_' || isAlphanumeric c

/-- The directive of a text. -/
def read (written : Written) : Except Fault Directive :=
  match cutEnds isBlank written with
  | [] => .error .malformed
  | '[' :: rest => written.bracket none 1 rest
  | c :: rest => if opens c then written.sourced (c :: rest) else .error .malformed

end Directive

end TierAudit.Log
