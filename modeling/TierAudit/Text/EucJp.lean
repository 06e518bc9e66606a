import TierAudit.Text.CharTable.JisX0208
import TierAudit.Text.CharTable.JisX0212
import TierAudit.Text.Grid
import TierAudit.Text.JisX0201

/-!
# Text — EUC-JP

Reading EUC-JP: ASCII in one byte, JIS X 0208 in two, half-width katakana after the byte `8E` and
JIS X 0212 in two bytes after the byte `8F`.
-/

namespace TierAudit.Text.EucJp

/-- The text that a byte sequence encodes. -/
def decode? : Bytes → Option (List Char)
  | [] => some []
  | 0x8E :: b :: rest => do return (← JisX0201.upperKatakana? b) :: (← decode? rest)
  | 0x8F :: lead :: trail :: rest => do
    let n ← Grid.upper.number? lead trail
    return (← CharTable.jisX0212.char? n) :: (← decode? rest)
  | b :: rest =>
    if b < 0x80 then (decode? rest).map (Char.ofNat b.toNat :: ·)
    else
      match rest with
      | [] => none
      | trail :: rest => do
        let n ← Grid.upper.number? b trail
        return (← CharTable.jisX0208.char? n) :: (← decode? rest)

end TierAudit.Text.EucJp
