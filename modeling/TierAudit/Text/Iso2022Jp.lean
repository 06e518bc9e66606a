import TierAudit.Text.CharTable.JisX0208
import TierAudit.Text.Grid
import TierAudit.Text.JisX0201

/-!
# Text — ISO-2022-JP

Reading ISO-2022-JP, where escape sequences say to which character set the bytes after them belong.
-/

namespace TierAudit.Text.Iso2022Jp

/-- The character set that bytes belong to. -/
inductive Shift where
  | ascii
  /-- The variant of ASCII in JIS X 0201. -/
  | roman
  /-- The half-width katakana of JIS X 0201. -/
  | katakana
  /-- JIS X 0208, two bytes a character. -/
  | kanji
  deriving DecidableEq, Repr

/-- The character set that the two bytes after an escape byte call up. -/
def shift? : UInt8 → UInt8 → Option Shift
  | 0x28, 0x42 => some .ascii
  | 0x28, 0x4A => some .roman
  | 0x28, 0x49 => some .katakana
  | 0x24, 0x40 => some .kanji
  | 0x24, 0x42 => some .kanji
  | _, _ => none

/-- Whether a byte stands for itself in ASCII: not if it is an escape byte or one of the two that
shift in other systems. -/
def isPlain (b : UInt8) : Bool := b < 0x80 && b ≠ 0x0E && b ≠ 0x0F && b ≠ 0x1B

/-- The text that a byte sequence encodes, read in a character set.  `escaped` says that an escape
sequence has just been read: there may not be another one with nothing between them. -/
def decodeFrom (shift : Shift) (escaped : Bool) : Bytes → Option (List Char)
  | [] => some []
  | 0x1B :: a :: b :: rest => do
    let shift ← shift? a b
    if escaped then none else decodeFrom shift true rest
  | b :: rest =>
    match shift with
    | .ascii =>
      if isPlain b then (decodeFrom .ascii false rest).map (Char.ofNat b.toNat :: ·) else none
    | .roman =>
      if isPlain b then (decodeFrom .roman false rest).map (JisX0201.roman b :: ·) else none
    | .katakana => do
      return (← JisX0201.lowerKatakana? b) :: (← decodeFrom .katakana false rest)
    | .kanji =>
      match rest with
      | [] => none
      | trail :: rest => do
        let n ← Grid.lower.number? b trail
        return (← CharTable.jisX0208.char? n) :: (← decodeFrom .kanji false rest)

/-- The text that a byte sequence encodes. -/
def decode? (bytes : Bytes) : Option (List Char) := decodeFrom .ascii false bytes

end TierAudit.Text.Iso2022Jp
