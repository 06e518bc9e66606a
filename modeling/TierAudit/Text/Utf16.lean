import TierAudit.Text.Bytes

/-!
# Text — UTF-16

Reading UTF-16 strictly, in either byte order: half a unit at the end and a surrogate without its
partner are refused.
-/

namespace TierAudit.Text.Utf16

/-- Which byte of a unit comes first. -/
inductive ByteOrder where
  | littleEndian
  | bigEndian
  deriving DecidableEq, Repr

/-- The unit that two bytes make. -/
def unit : ByteOrder → UInt8 → UInt8 → Nat
  | .littleEndian, a, b => b.toNat * 0x100 + a.toNat
  | .bigEndian, a, b => a.toNat * 0x100 + b.toNat

def isHighSurrogate (u : Nat) : Bool := 0xD800 ≤ u && u < 0xDC00

def isLowSurrogate (u : Nat) : Bool := 0xDC00 ≤ u && u < 0xE000

/-- The character that a pair of surrogates stands for. -/
def pair (high low : Nat) : Char :=
  Char.ofNat (0x10000 + (high - 0xD800) * 0x400 + (low - 0xDC00))

/-- The text that a byte sequence encodes. -/
def decode? (order : ByteOrder) : Bytes → Option (List Char)
  | [] => some []
  | [_] => none
  | a :: b :: rest =>
    let u := unit order a b
    if isLowSurrogate u then none
    else if isHighSurrogate u then
      match rest with
      | c :: d :: rest =>
        let v := unit order c d
        if isLowSurrogate v then (decode? order rest).map (pair u v :: ·) else none
      | _ => none
    else (decode? order rest).map (Char.ofNat u :: ·)

end TierAudit.Text.Utf16
