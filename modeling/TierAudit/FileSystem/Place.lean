import TierAudit.FileSystem.Node

/-!
# File system — places

Where one can stand.  A directory that has been removed is still there for whoever is in it: it has
no entries any more, and the way up leads out of it as before.
-/

namespace TierAudit

/-- A location, or a removed directory that was somewhere below it. -/
structure Place where
  location : Location
  /-- How many removed directories lead from the location down to the place. -/
  removed : Nat
  deriving DecidableEq, Repr, Inhabited

namespace Place

/-- The place of a location. -/
def ofLocation (location : Location) : Place := ⟨location, 0⟩

def isRemoved (place : Place) : Bool := place.removed ≠ 0

/-- The place above.  The root is above itself. -/
def parent : Place → Place
  | ⟨location, 0⟩ => ofLocation location.dropLast
  | ⟨location, removed + 1⟩ => ⟨location, removed⟩

/-- The place of an entry.  What is below a removed directory is removed too. -/
def child : Place → String → Place
  | ⟨location, 0⟩, name => ofLocation (location ++ [name])
  | ⟨location, removed + 1⟩, _ => ⟨location, removed + 2⟩

/-- Where a step of a path leads, whether there is anything or not. -/
def advance (here : Place) (step : String) : Place :=
  if Path.stays step then here
  else if step = ".." then here.parent
  else here.child step

end Place

end TierAudit
