import TierAudit.Text.Bytes

/-!
# Text — grids

Where a character set of several bytes a character has its characters: in a grid, with a row for
each lead byte and in it a cell for each trail byte.  The cells are numbered row by row.
-/

namespace TierAudit.Text

/-- Bytes in order, given as ranges from a first to a last byte. -/
abbrev ByteRanges := List (UInt8 × UInt8)

namespace ByteRanges

/-- How many bytes there are. -/
def size : ByteRanges → Nat
  | [] => 0
  | (first, last) :: rest => last.toNat + 1 - first.toNat + size rest

/-- The place of a byte among the others, from 0 on. -/
def place? (b : UInt8) : ByteRanges → Option Nat
  | [] => none
  | (first, last) :: rest =>
    if first ≤ b && b ≤ last then some (b.toNat - first.toNat)
    else (place? b rest).map (last.toNat + 1 - first.toNat + ·)

end ByteRanges

/-- The lead bytes of a grid and the trail bytes of each of its rows. -/
structure Grid where
  rows : ByteRanges
  cells : ByteRanges
  deriving DecidableEq, Repr

namespace Grid

/-- The number of the cell of two bytes. -/
def number? (grid : Grid) (lead trail : UInt8) : Option Nat := do
  return (← grid.rows.place? lead) * grid.cells.size + (← grid.cells.place? trail)

/-- The grid of 94 rows of 94 cells in which each byte has its upper bit set. -/
def upper : Grid := ⟨[(0xA1, 0xFE)], [(0xA1, 0xFE)]⟩

/-- The grid of 94 rows of 94 cells in the graphic characters of ASCII. -/
def lower : Grid := ⟨[(0x21, 0x7E)], [(0x21, 0x7E)]⟩

end Grid

end TierAudit.Text
