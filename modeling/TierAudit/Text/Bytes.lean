/-!
# Text — bytes

Raw file content, before any encoding has been applied, and the ASCII bytes that markup is made of.
-/

namespace TierAudit

/-- The content of a file. -/
abbrev Bytes := List UInt8

namespace Bytes

/-- The byte of an ASCII character. -/
def ofAscii (c : Char) : UInt8 := c.toNat.toUInt8

/-- The bytes of a text in UTF-8. -/
def ofText (s : String) : Bytes := s.toList.flatMap String.utf8EncodeChar

/-- The blanks that separate the parts of a tag: space, tab, line feed and carriage return. -/
def isTagBlank (b : UInt8) : Bool :=
  b == 0x20 || b == 0x09 || b == 0x0A || b == 0x0D

/-- The blanks that may stand outside the root element: the tag blanks and the form feed. -/
def isAsciiBlank (b : UInt8) : Bool :=
  isTagBlank b || b == 0x0C

/-- An ASCII letter in lower case, any other byte as it is. -/
def lower (b : UInt8) : UInt8 :=
  if 0x41 ≤ b && b ≤ 0x5A then b + 0x20 else b

/-- Splits at the first place where a marker stands: what comes before it and what follows it. -/
def cutAt? (marker : Bytes) : Bytes → Option (Bytes × Bytes)
  | [] => if marker.isEmpty then some ([], []) else none
  | b :: rest =>
    if marker.isPrefixOf (b :: rest) then some ([], (b :: rest).drop marker.length)
    else (cutAt? marker rest).map fun (before, after) => (b :: before, after)

/-- A split leaves no more than there was. -/
theorem length_of_cutAt? {marker bytes before after : Bytes}
    (h : cutAt? marker bytes = some (before, after)) : after.length ≤ bytes.length := by
  induction bytes generalizing before with
  | nil =>
    simp only [cutAt?] at h
    split at h <;> simp_all
  | cons b rest ih =>
    simp only [cutAt?] at h
    split at h
    · simp only [Option.some.injEq, Prod.mk.injEq] at h
      rw [← h.2, List.length_drop]
      omega
    · obtain ⟨⟨x, y⟩, hxy, hab⟩ := Option.map_eq_some_iff.1 h
      simp only [Prod.mk.injEq] at hab
      have := ih (hab.2 ▸ hxy)
      simp only [List.length_cons]
      omega

end Bytes

end TierAudit
