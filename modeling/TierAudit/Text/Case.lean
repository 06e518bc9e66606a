/-!
# Text — letter case

Comparing texts without regard to the case of the ASCII letters.  Letters beyond ASCII are compared
as they are.
-/

namespace TierAudit.Text

/-- The text with its ASCII letters in lower case. -/
def foldCase (s : String) : List Char := s.toList.map Char.toLower

def equalsIgnoringCase (a b : String) : Bool := foldCase a = foldCase b

end TierAudit.Text
