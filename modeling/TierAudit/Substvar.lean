import TierAudit.FileSystem.Error
import TierAudit.Markup.Escape
import TierAudit.Markup.Event
import TierAudit.Variables

/-!
# Substitution variable files

A file declares its variables in `globalVariable` elements, each with a `name` and a `value`
somewhere below it.  Elements are known by their local names; all other markup is skipped, but the
file has to be well-formed and to have one root element.
-/

namespace TierAudit.Substvar
open Markup Text

/-- Why a file declares no variables at all. -/
inductive Cause where
  | unreadable (error : OsError)
  | contentAfterRoot
  | textOutsideRoot
  | unexpectedEnd
  | noRoot
  | markup (offset : Nat) (fault : Fault)
  | undecodable
  | escape (fault : EscapeFault)
  deriving DecidableEq, Repr

def Cause.message : Cause → String
  | unreadable error => error.message
  | contentAfterRoot => "content after the root element"
  | textOutsideRoot => "text outside the root element"
  | unexpectedEnd => "unexpected end of document"
  | noRoot => "document has no root element"
  | markup offset fault => fault.message ++ " (at byte " ++ toString offset ++ ")"
  | undecodable => "Malformed input, decoding impossible"
  | escape fault => fault.message

/-! ### A declaration in the making -/

/-- The two parts of a declaration. -/
inductive Field where
  | name
  | value
  deriving DecidableEq, Repr

/-- The part that an element of this local name holds. -/
def Field.ofLocalName? (localName : Bytes) : Option Field :=
  if localName = Bytes.ofText "name" then some .name
  else if localName = Bytes.ofText "value" then some .value
  else none

/-- The local name of a declaration's element. -/
def globalVariable : Bytes := Bytes.ofText "globalVariable"

/-- The text of one part, collected up to the end of the element at `depth`. -/
structure Capture where
  field : Field
  depth : Nat
  text : String
  deriving DecidableEq, Repr

/-- A declaration whose element, at `depth`, is still open. -/
structure Pending where
  depth : Nat
  name : Option String
  value : Option String
  capture : Option Capture
  deriving DecidableEq, Repr

namespace Pending

/-- A declaration without its parts. -/
def new (depth : Nat) : Pending := ⟨depth, none, none, none⟩

def get (pending : Pending) : Field → Option String
  | .name => pending.name
  | .value => pending.value

def store (pending : Pending) (text : String) : Field → Pending
  | .name => { pending with name := some text }
  | .value => { pending with value := some text }

/-- The part that an element would give: the first of its kind, and none while another is being
collected. -/
def wanted? (pending : Pending) (localName : Bytes) : Option Field :=
  if pending.capture.isSome then none
  else (Field.ofLocalName? localName).filter fun field => (pending.get field).isNone

/-- An element begins at a depth. -/
def openElement (pending : Pending) (localName : Bytes) (depth : Nat) : Pending :=
  match pending.wanted? localName with
  | some field => { pending with capture := some ⟨field, depth, ""⟩ }
  | none => pending

/-- An element without content gives an empty text. -/
def emptyElement (pending : Pending) (localName : Bytes) : Pending :=
  match pending.wanted? localName with
  | some field => pending.store "" field
  | none => pending

/-- Text belongs to the part being collected. -/
def addText (pending : Pending) (text : String) : Pending :=
  { pending with capture := pending.capture.map fun c => { c with text := c.text ++ text } }

/-- The element at a depth ends. -/
def closeElement (pending : Pending) (depth : Nat) : Pending :=
  match pending.capture with
  | some c =>
    if c.depth = depth then { pending.store c.text c.field with capture := none } else pending
  | none => pending

/-- What the declaration declares: nothing without a name, and an empty value if it has none. -/
def declare (pending : Pending) (vars : Variables) : Variables :=
  match pending.name with
  | some name => vars.insert name (pending.value.getD "")
  | none => vars

end Pending

/-! ### Reading events -/

/-- What has been read so far. -/
structure Progress where
  vars : Variables
  /-- The number of open elements. -/
  depth : Nat
  seenRoot : Bool
  pending : Option Pending
  deriving DecidableEq

namespace Progress

/-- Before the first event. -/
def start : Progress := ⟨.empty, 0, false, none⟩

/-- An element begins. -/
def openElement (p : Progress) (localName : Bytes) : Except Cause Progress :=
  if p.seenRoot && p.depth = 0 then .error .contentAfterRoot
  else
    let depth := p.depth + 1
    let pending := match p.pending with
      | some pending => some (pending.openElement localName depth)
      | none => if localName = globalVariable then some (.new depth) else none
    .ok { p with depth, seenRoot := true, pending }

/-- An element without content. -/
def emptyElement (p : Progress) (localName : Bytes) : Except Cause Progress :=
  if p.seenRoot && p.depth = 0 then .error .contentAfterRoot
  else .ok { p with seenRoot := true, pending := p.pending.map (·.emptyElement localName) }

/-- The innermost element ends, and with its own element a declaration. -/
def closeElement (p : Progress) : Progress :=
  match p.pending with
  | some pending =>
    let pending := pending.closeElement p.depth
    if pending.depth = p.depth then
      { p with vars := pending.declare p.vars, depth := p.depth - 1, pending := none }
    else { p with depth := p.depth - 1, pending := some pending }
  | none => { p with depth := p.depth - 1 }

/-- Whether text would be collected here. -/
def capturing (p : Progress) : Bool :=
  (p.pending.bind (·.capture)).isSome

/-- Text stands inside the root element.  It is looked at only where it is collected. -/
def addText (p : Progress) (text : Except Cause String) : Except Cause Progress :=
  if p.capturing then do
    let text ← text
    return { p with pending := p.pending.map (·.addText text) }
  else .ok p

/-- The text of bytes in an encoding. -/
def decode (encoding : Encoding) (bytes : Bytes) : Except Cause String :=
  match encoding.decode? bytes with
  | some text => .ok text
  | none => .error .undecodable

/-- Reads one event. -/
def step (p : Progress) (event : Event) : Except Cause Progress :=
  match event.lexeme with
  | .start tag => p.openElement tag.localName
  | .empty tag => p.emptyElement tag.localName
  | .finish _ => .ok p.closeElement
  | .text run =>
    if p.depth = 0 then
      if run.all Bytes.isAsciiBlank then .ok p else .error .textOutsideRoot
    else p.addText do
      let text ← decode event.encoding run
      (unescape text).mapError .escape
  | .cdata body =>
    if p.depth = 0 then .error .textOutsideRoot else p.addText (decode event.encoding body)
  | _ => .ok p

/-- The variables, once the document has ended. -/
def finish (p : Progress) : Except Cause Variables :=
  if p.depth ≠ 0 then .error .unexpectedEnd
  else if !p.seenRoot then .error .noRoot
  else .ok p.vars

end Progress

/-- The variables of a sequence of events. -/
def ofEvents (events : List Event) : Except Cause Variables := do
  (← events.foldlM Progress.step .start).finish

/-- The variables of a document.  An event that cannot be read comes before a fault that follows
it. -/
def ofDocument (document : Document) : Except Cause Variables := do
  let progress ← document.events.foldlM Progress.step .start
  match document.fault with
  | some (offset, fault) => .error (.markup offset fault)
  | none => progress.finish

/-- The variables of a file's content. -/
def ofBytes (bytes : Bytes) : Except Cause Variables := ofDocument (.ofBytes bytes)

/-- The variables of a text. -/
def ofText (text : String) : Except Cause Variables := ofDocument (.ofText text)

end TierAudit.Substvar
