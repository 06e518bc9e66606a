import TierAudit.Time.Timestamp

/-!
# Log

What a run tells about itself on the way, for whoever wants to know why it came out as it did.  An
entry takes one line, unless its texts have line breaks of their own.
-/

namespace TierAudit.Log

/-- How much an entry matters, the most important level first. -/
inductive Level where
  | error
  | warn
  | info
  | debug
  | trace
  deriving DecidableEq, Repr

namespace Level

/-- The place of a level among the levels. -/
def rank : Level → Nat
  | error => 1
  | warn => 2
  | info => 3
  | debug => 4
  | trace => 5

/-- The name of a level, as wide as the widest. -/
def label : Level → String
  | error => "ERROR"
  | warn => " WARN"
  | info => " INFO"
  | debug => "DEBUG"
  | trace => "TRACE"

/-- The parameter of a level's color in an escape sequence. -/
def code : Level → String
  | error => "31"
  | warn => "33"
  | info => "32"
  | debug => "34"
  | trace => "35"

end Level

/-- Something to tell, and what it is about. -/
structure Entry where
  /-- The part of the program that tells it. -/
  source : String
  level : Level
  message : String
  /-- Names with values. -/
  fields : List (String × String)
  deriving DecidableEq, Repr

/-- A text in a style of the terminal. -/
def styled (showStyles : Bool) (code text : String) : String :=
  if showStyles then "\x1b[" ++ code ++ "m" ++ text ++ "\x1b[0m" else text

/-- The parameter of faint text in an escape sequence. -/
def faint : String := "2"

/-- The parameter of slanted text in an escape sequence. -/
def slanted : String := "3"

namespace Entry

/-- Whether an entry has a field of a name.  The message counts as one. -/
def hasField (entry : Entry) (name : String) : Bool :=
  name = "message" || entry.fields.any (·.1 = name)

def fieldText (showStyles : Bool) (field : String × String) : String :=
  styled showStyles slanted field.1 ++ styled showStyles faint "=" ++ field.2

/-- The entry as it is written. -/
def render (showStyles : Bool) (time : Timestamp) (entry : Entry) : String :=
  " ".intercalate
    (styled showStyles faint time.toExact :: styled showStyles entry.level.code entry.level.label ::
      entry.message :: entry.fields.map (fieldText showStyles)) ++ "\n"

end Entry

end TierAudit.Log
