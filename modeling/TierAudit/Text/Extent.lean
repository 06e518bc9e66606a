/-!
# Text — extents

Parts of a text that are named by the bytes between which they stand, counted in UTF-8.  A part
cannot begin or end inside a character.
-/

namespace TierAudit.Text

/-- How many bytes characters take. -/
def byteSize : List Char → Nat
  | [] => 0
  | c :: rest => c.utf8Size + byteSize rest

/-- The characters that take so many bytes at the beginning of a text. -/
def takeBytes? : Nat → List Char → Option (List Char)
  | 0, _ => some []
  | _ + 1, [] => none
  | size + 1, c :: rest =>
    if c.utf8Size ≤ size + 1 then (takeBytes? (size + 1 - c.utf8Size) rest).map (c :: ·) else none

/-- What follows so many bytes. -/
def dropBytes? : Nat → List Char → Option (List Char)
  | 0, text => some text
  | _ + 1, [] => none
  | size + 1, c :: rest =>
    if c.utf8Size ≤ size + 1 then dropBytes? (size + 1 - c.utf8Size) rest else none

/-- The part of a text from one byte to another. -/
def between? (start stop : Nat) (text : List Char) : Option (List Char) :=
  (dropBytes? start text).bind (takeBytes? (stop - start))

/-- The characters at the beginning of a text that take at most so many bytes together. -/
def fitting : Nat → List Char → List Char
  | _, [] => []
  | size, c :: rest =>
    if c.utf8Size ≤ size then c :: fitting (size - c.utf8Size) rest else []

end TierAudit.Text
