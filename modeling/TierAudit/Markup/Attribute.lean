import TierAudit.Markup.Lexeme

/-!
# Markup — attributes

The `name="value"` pairs of a tag or a declaration.  They are read from the left up to the first one
that is malformed: without `=`, without quotation marks, or with a quotation mark that never closes.
-/

namespace TierAudit.Markup
open Bytes (isTagBlank)

/-- A name with its value, the quotation marks taken off. -/
structure Attribute where
  name : Bytes
  value : Bytes
  deriving DecidableEq, Repr

namespace Attribute

/-- A byte that may stand inside a name, after its first byte. -/
def isNameByte (b : UInt8) : Bool := b ≠ 0x3D && !isTagBlank b

/-- The first attribute of a text and what follows it. -/
def next? (bytes : Bytes) : Option (Attribute × Bytes) :=
  match bytes.dropWhile isTagBlank with
  | [] => none
  | first :: more =>
    match (more.dropWhile isNameByte).dropWhile isTagBlank with
    | 0x3D :: more' =>
      match more'.dropWhile isTagBlank with
      | quote :: inside =>
        if quote = 0x22 ∨ quote = 0x27 then
          (Bytes.cutAt? [quote] inside).map fun (value, rest) =>
            (⟨first :: more.takeWhile isNameByte, value⟩, rest)
        else none
      | [] => none
    | _ => none

theorem length_of_dropWhile_eq {p : UInt8 → Bool} {bytes rest : Bytes} {b : UInt8}
    (h : bytes.dropWhile p = b :: rest) : rest.length < bytes.length := by
  have := (List.dropWhile_sublist (l := bytes) p).length_le
  rw [h] at this
  exact this

theorem length_next? {bytes rest : Bytes} {a : Attribute} (h : next? bytes = some (a, rest)) :
    rest.length < bytes.length := by
  unfold next? at h
  split at h
  · simp at h
  · rename_i first more hfirst
    have h₁ := length_of_dropWhile_eq hfirst
    split at h
    · rename_i more' hmore
      have h₂ := length_of_dropWhile_eq hmore
      have h₃ := (List.dropWhile_sublist (l := more) isNameByte).length_le
      split at h
      · rename_i quote inside hinside
        have h₄ := length_of_dropWhile_eq hinside
        split at h
        · obtain ⟨⟨value, rest'⟩, hcut, heq⟩ := Option.map_eq_some_iff.1 h
          simp only [Prod.mk.injEq] at heq
          have h₅ := Bytes.length_of_cutAt? hcut
          rw [heq.2] at h₅
          omega
        · simp at h
      · simp at h
    · simp at h

/-- The attributes of a text, in order. -/
def all (bytes : Bytes) : List Attribute :=
  match _h : next? bytes with
  | none => []
  | some (a, rest) => a :: all rest
termination_by bytes.length
decreasing_by exact length_next? _h

/-- The value of the first attribute of a name. -/
def value? (name : Bytes) (bytes : Bytes) : Option Bytes :=
  ((all bytes).find? (·.name = name)).map (·.value)

end Attribute

/-- The attributes of a tag, in order. -/
def Tag.attributes (tag : Tag) : List Attribute :=
  Attribute.all (tag.content.dropWhile (!isTagBlank ·))

end TierAudit.Markup
