import TierAudit.Text.Bytes

/-!
# Text — JIS X 0201

The Japanese one-byte character set: a variant of ASCII and the half-width katakana.
-/

namespace TierAudit.Text.JisX0201

/-- The characters of the katakana half, from the first on. -/
def katakana? (place : Nat) : Option Char :=
  if place < 63 then some (Char.ofNat (0xFF61 + place)) else none

/-- A byte of the katakana half that is written with its upper bit set. -/
def upperKatakana? (b : UInt8) : Option Char :=
  if b < 0xA1 then none else katakana? (b.toNat - 0xA1)

/-- A byte of the katakana half that is written without its upper bit. -/
def lowerKatakana? (b : UInt8) : Option Char :=
  if b < 0x21 then none else katakana? (b.toNat - 0x21)

/-- The variant of ASCII: the yen sign for the backslash and the overline for the tilde. -/
def roman (b : UInt8) : Char :=
  if b = 0x5C then '¥' else if b = 0x7E then '‾' else Char.ofNat b.toNat

end TierAudit.Text.JisX0201
