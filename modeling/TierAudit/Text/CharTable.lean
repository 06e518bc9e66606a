/-!
# Text — character tables

The characters of a coded character set by number.  A table is written in stretches, one after
another, and U+FFFD stands for a number without a character.
-/

namespace TierAudit.Text

/-- Characters of consecutive numbers. -/
inductive Stretch where
  /-- Characters written out in lines. -/
  | text (lines : List String)
  /-- Characters of consecutive code points, from the first to the last. -/
  | span (first last : Char)
  /-- Numbers without a character. -/
  | gap (length : Nat)
  deriving Repr

/-- The characters of a stretch in order. -/
def Stretch.chars : Stretch → List Char
  | text lines => lines.flatMap String.toList
  | span first last =>
    (List.range (last.toNat + 1 - first.toNat)).map fun n => Char.ofNat (first.toNat + n)
  | gap length => List.replicate length '\ufffd'

/-- The characters of a coded character set, from the number 0 on. -/
structure CharTable where
  cells : Array Char
  deriving DecidableEq, Repr

namespace CharTable

/-- The table of stretches one after another. -/
def ofStretches (stretches : List Stretch) : CharTable :=
  ⟨(stretches.flatMap Stretch.chars).toArray⟩

/-- The character of a number. -/
def char? (table : CharTable) (n : Nat) : Option Char :=
  table.cells[n]?.filter (· ≠ '\ufffd')

end CharTable

end TierAudit.Text
