/-!
# Markup — faults

What can be wrong with a piece of markup, and how it is told.
-/

namespace TierAudit.Markup

/-- Why markup cannot be read on.  The names of tags are given as they print. -/
inductive Fault where
  | unclosedInstruction
  | unclosedComment
  | unclosedCData
  | unclosedDoctype
  | unclosedTag
  /-- `<!` that starts neither a comment, nor a CDATA section, nor a document type. -/
  | unknownMarkup
  | namelessDoctype
  | mismatchedEnd (expected found : String)
  | unmatchedEnd (found : String)
  deriving DecidableEq, Repr

/-- Markup that never ends is a syntax error; markup that ends in the wrong place is ill-formed. -/
def Fault.message : Fault → String
  | unclosedInstruction =>
    "syntax error: processing instruction or xml declaration not closed: " ++
      "`?>` not found before end of input"
  | unclosedComment => "syntax error: comment not closed: `-->` not found before end of input"
  | unclosedCData => "syntax error: CDATA not closed: `]]>` not found before end of input"
  | unclosedDoctype => "syntax error: DOCTYPE not closed: `>` not found before end of input"
  | unclosedTag => "syntax error: tag not closed: `>` not found before end of input"
  | unknownMarkup => "syntax error: unknown or missed symbol in markup"
  | namelessDoctype =>
    "ill-formed document: `<!DOCTYPE>` declaration does not contain a name of a document type"
  | mismatchedEnd expected found =>
    "ill-formed document: expected `</" ++ expected ++ ">`, but `</" ++ found ++ ">` was found"
  | unmatchedEnd found =>
    "ill-formed document: close tag `</" ++ found ++ ">` does not match any open tag"

end TierAudit.Markup
