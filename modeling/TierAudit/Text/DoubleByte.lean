import TierAudit.Text.Bytes

/-!
# Text — encodings of one byte or two

Reading an encoding in which a byte either is a character or leads one of two bytes.
-/

namespace TierAudit.Text

/-- What the bytes of an encoding mean, alone and in pairs. -/
structure DoubleByte where
  /-- The character of a byte that stands alone. -/
  single? : UInt8 → Option Char
  /-- The characters of a lead byte and the byte after it. -/
  pair? : UInt8 → UInt8 → Option (List Char)

namespace DoubleByte

/-- The character of an ASCII byte. -/
def ascii? (b : UInt8) : Option Char :=
  if b < 0x80 then some (Char.ofNat b.toNat) else none

/-- The text that a byte sequence encodes. -/
def decode? (code : DoubleByte) : Bytes → Option (List Char)
  | [] => some []
  | b :: rest =>
    match code.single? b with
    | some c => (decode? code rest).map (c :: ·)
    | none =>
      match rest with
      | [] => none
      | trail :: rest => do return (← code.pair? b trail) ++ (← decode? code rest)

end DoubleByte

end TierAudit.Text
