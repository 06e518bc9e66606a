/-!
# Environment

The variables that a program is started with.
-/

namespace TierAudit

/-- Names with their values. -/
structure Environment where
  entries : List (String × String)
  deriving DecidableEq, Repr, Inhabited

namespace Environment

/-- No variable is set. -/
def empty : Environment := ⟨[]⟩

/-- The value of a variable, if it is set. -/
def get? (environment : Environment) (name : String) : Option String :=
  (environment.entries.find? (·.1 = name)).map (·.2)

/-- Whether a variable is set, be it to nothing. -/
def isSet (environment : Environment) (name : String) : Bool := (environment.get? name).isSome

end Environment

end TierAudit
