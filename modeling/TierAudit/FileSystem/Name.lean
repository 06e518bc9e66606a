import TierAudit.Path

/-!
# File system — names

What an entry of a directory can be called, and the names that lead from the root to a node.
-/

namespace TierAudit

namespace FileSystem

/-- No name is longer than this, in bytes. -/
def maxName : Nat := 255

/-- A path is asked for as a whole only up to this length, in bytes. -/
def maxPath : Nat := 4095

end FileSystem

/-- A name that an entry of a directory can have. -/
structure IsName (name : String) : Prop where
  entry : Path.namesEntry name = true
  no_slash : '/' ∉ name.toList
  no_nul : '\x00' ∉ name.toList
  short : name.utf8ByteSize ≤ FileSystem.maxName

instance (name : String) : Decidable (IsName name) :=
  decidable_of_iff (Path.namesEntry name = true ∧ '/' ∉ name.toList ∧ '\x00' ∉ name.toList ∧
      name.utf8ByteSize ≤ FileSystem.maxName)
    ⟨fun ⟨entry, no_slash, no_nul, short⟩ => ⟨entry, no_slash, no_nul, short⟩,
      fun h => ⟨h.entry, h.no_slash, h.no_nul, h.short⟩⟩

/-- The names that lead from the root to a node. -/
abbrev Location := List String

namespace Location

/-- The absolute path of a location. -/
def path (location : Location) : Path := ⟨"/" ++ "/".intercalate location⟩

/-- How many bytes the names take, each with the slash before it. -/
def size : Location → Nat
  | [] => 0
  | name :: rest => 1 + name.utf8ByteSize + size rest

end Location

/-- Whether the absolute path of a location can be asked for. -/
def FileSystem.isInReach (location : Location) : Bool := location.size ≤ maxPath

end TierAudit
