import TierAudit.Text.CharClass.Alphabetic
import TierAudit.Text.CharClass.Numeric

/-!
# Text — letters and digits

Which characters words and numbers are written with, in every script.
-/

namespace TierAudit.Text

def isAlphabetic (c : Char) : Bool := CharClass.alphabetic.contains c

def isAlphanumeric (c : Char) : Bool := isAlphabetic c || CharClass.numeric.contains c

end TierAudit.Text
