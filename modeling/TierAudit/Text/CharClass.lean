/-!
# Text — character classes

Sets of characters, given by ranges of code points.
-/

namespace TierAudit.Text

/-- Characters given by ranges of code points, each from its first to its last. -/
structure CharClass where
  ranges : List (Nat × Nat)
  deriving DecidableEq, Repr

namespace CharClass

def contains (chars : CharClass) (c : Char) : Bool :=
  chars.ranges.any fun range => range.1 ≤ c.toNat && c.toNat ≤ range.2

end CharClass

end TierAudit.Text
