import TierAudit.Text.CharTable.JisX0208
import TierAudit.Text.DoubleByte
import TierAudit.Text.Grid
import TierAudit.Text.JisX0201

/-!
# Text — Shift_JIS

Reading Shift_JIS as it is in use: ASCII and half-width katakana in one byte, JIS X 0208 with its
extensions and characters for private use in two.
-/

namespace TierAudit.Text.ShiftJis

/-- Rows of 188 cells, two rows of JIS X 0208 in each. -/
def grid : Grid := ⟨[(0x81, 0x9F), (0xE0, 0xFC)], [(0x40, 0x7E), (0x80, 0xFC)]⟩

/-- The number of the first cell for private use. -/
def privateStart : Nat := 8836

/-- The number after the last cell for private use. -/
def privateEnd : Nat := 10716

/-- The character of a cell. -/
def cell? (n : Nat) : Option Char :=
  if privateStart ≤ n && n < privateEnd then some (Char.ofNat (0xE000 + (n - privateStart)))
  else CharTable.jisX0208.char? n

/-- The character of a byte that stands alone. -/
def single? (b : UInt8) : Option Char :=
  if b ≤ 0x80 then some (Char.ofNat b.toNat) else JisX0201.upperKatakana? b

/-- What the bytes of Shift_JIS mean. -/
def code : DoubleByte where
  single? := single?
  pair? lead trail := (grid.number? lead trail).bind fun n => (cell? n).map ([·])

/-- The text that a byte sequence encodes. -/
def decode? (bytes : Bytes) : Option (List Char) := code.decode? bytes

end TierAudit.Text.ShiftJis
