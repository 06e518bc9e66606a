import TierAudit.Text.CharTable.Big5
import TierAudit.Text.DoubleByte
import TierAudit.Text.Grid

/-!
# Text — Big5

Reading Big5 with the Hong Kong supplement.
-/

namespace TierAudit.Text.Big5

/-- Rows of 157 cells. -/
def grid : Grid := ⟨[(0x81, 0xFE)], [(0x40, 0x7E), (0xA1, 0xFE)]⟩

/-- The characters of a cell.  Four cells hold a letter with a mark above it that is a character of
its own. -/
def cell? (n : Nat) : Option (List Char) :=
  match n with
  | 1133 => some ['Ê', '\u0304']
  | 1135 => some ['Ê', '\u030c']
  | 1164 => some ['ê', '\u0304']
  | 1166 => some ['ê', '\u030c']
  | _ => (CharTable.big5.char? n).map ([·])

/-- What the bytes of Big5 mean. -/
def code : DoubleByte where
  single? := DoubleByte.ascii?
  pair? lead trail := (grid.number? lead trail).bind cell?

/-- The text that a byte sequence encodes. -/
def decode? (bytes : Bytes) : Option (List Char) := code.decode? bytes

end TierAudit.Text.Big5
