import TierAudit.Text.Bytes

/-!
# Text — UTF-8

Reading UTF-8 strictly: a byte sequence that is too long for its character, a surrogate and a code
point past U+10FFFF are refused.
-/

namespace TierAudit.Text.Utf8

/-- A character of which `owed + 1` bytes are still to come. -/
structure Partial where
  owed : Nat
  /-- The bits read so far. -/
  code : Nat
  /-- The least code point that needs this many bytes. -/
  least : Nat

/-- The start of a character that takes more than one byte. -/
def lead? (b : UInt8) : Option Partial :=
  if b < 0xC0 then none
  else if b < 0xE0 then some ⟨0, b.toNat - 0xC0, 0x80⟩
  else if b < 0xF0 then some ⟨1, b.toNat - 0xE0, 0x800⟩
  else if b < 0xF8 then some ⟨2, b.toNat - 0xF0, 0x10000⟩
  else none

def isTail (b : UInt8) : Bool := 0x80 ≤ b && b ≤ 0xBF

/-- The character of a code point that is at least `least` and no surrogate. -/
def charFrom? (least code : Nat) : Option Char :=
  if h : code.isValidChar then
    if least ≤ code then some (Char.ofNatAux code h) else none
  else none

/-- The text that a byte sequence encodes, read from within a character or between two. -/
def decodeFrom : Option Partial → Bytes → Option (List Char)
  | none, [] => some []
  | some _, [] => none
  | none, b :: rest =>
    if b < 0x80 then (decodeFrom none rest).map (Char.ofNat b.toNat :: ·)
    else (lead? b).bind fun p => decodeFrom (some p) rest
  | some p, b :: rest =>
    let code := p.code * 0x40 + (b.toNat - 0x80)
    if !isTail b then none
    else match p.owed with
      | 0 => (charFrom? p.least code).bind fun c => (decodeFrom none rest).map (c :: ·)
      | n + 1 => decodeFrom (some ⟨n, code, p.least⟩) rest

/-- The text that a byte sequence encodes. -/
def decode? (bytes : Bytes) : Option (List Char) := decodeFrom none bytes

end TierAudit.Text.Utf8
