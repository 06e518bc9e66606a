/-!
# Text — columns

Filling a column with blanks, counted in characters.
-/

namespace TierAudit.Text

/-- As many blanks as asked for. -/
def blanks (count : Nat) : String := String.ofList (List.replicate count ' ')

/-- A text with blanks after it to fill a column.  A text that is too long is left as it is. -/
def padRight (width : Nat) (text : String) : String := text ++ blanks (width - text.length)

theorem length_padRight (width : Nat) (text : String) :
    (padRight width text).length = max width text.length := by
  simp only [padRight, blanks, String.length_append, String.length_ofList, List.length_replicate]
  omega

end TierAudit.Text
