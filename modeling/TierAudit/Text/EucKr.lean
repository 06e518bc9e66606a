import TierAudit.Text.CharTable.KsX1001
import TierAudit.Text.DoubleByte
import TierAudit.Text.Grid

/-!
# Text — EUC-KR

Reading EUC-KR as it is in use: the Hangul syllables that KS X 1001 lacks stand, in the order of
their code points, in the cells that it leaves free.
-/

namespace TierAudit.Text.EucKr

/-- The first list without what the second one holds, where both are in ascending order. -/
def without : List Char → List Char → List Char
  | [], _ => []
  | cs, [] => cs
  | c :: cs, d :: ds => if c = d then without cs ds else c :: without cs (d :: ds)

/-- All Hangul syllables. -/
def syllables : Stretch := .span '가' '힣'

/-- The syllables that KS X 1001 lacks. -/
def addedSyllables : CharTable :=
  let present := CharTable.ksX1001.cells.toList.filter fun c => '가' ≤ c && c ≤ '힣'
  ⟨(without syllables.chars present).toArray⟩

/-- The rows before those of KS X 1001. -/
def earlyRows : Grid := ⟨[(0x81, 0xA0)], [(0x41, 0x5A), (0x61, 0x7A), (0x81, 0xFE)]⟩

/-- The cells before those of KS X 1001 in its own rows. -/
def earlyCells : Grid := ⟨[(0xA1, 0xFE)], [(0x41, 0x5A), (0x61, 0x7A), (0x81, 0xA0)]⟩

/-- The character of two bytes. -/
def pair? (lead trail : UInt8) : Option Char :=
  match Grid.upper.number? lead trail with
  | some n => CharTable.ksX1001.char? n
  | none =>
    match earlyRows.number? lead trail with
    | some n => addedSyllables.char? n
    | none => do
      let n ← earlyCells.number? lead trail
      addedSyllables.char? (earlyRows.rows.size * earlyRows.cells.size + n)

/-- What the bytes of EUC-KR mean. -/
def code : DoubleByte where
  single? := DoubleByte.ascii?
  pair? lead trail := (pair? lead trail).map ([·])

/-- The text that a byte sequence encodes. -/
def decode? (bytes : Bytes) : Option (List Char) := code.decode? bytes

end TierAudit.Text.EucKr
