/-!
# Text — pieces

A text cut at a character.  There is one piece more than there are cuts, so pieces may be empty.
-/

namespace TierAudit.Text

/-- The pieces of a text between its separators. -/
def pieces (separator : Char) : List Char → List (List Char)
  | [] => [[]]
  | c :: rest =>
    if c = separator then [] :: pieces separator rest
    else match pieces separator rest with
      | [] => [[c]]
      | piece :: more => (c :: piece) :: more

end TierAudit.Text
