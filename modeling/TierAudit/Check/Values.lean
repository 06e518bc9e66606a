import TierAudit.Finding
import TierAudit.Variables

/-!
# Check — values

Holding the variables of a tier against those of its baseline.  Only a name that both declare is
compared, and an excluded name is not.
-/

namespace TierAudit.Check

/-- The finding on a baseline variable, if the tier gives it another value. -/
def mismatch? (tier : Tier) (vars : Variables) (expected : Variable) : Option Finding :=
  match vars.get? expected.name with
  | some found =>
    if found = expected.value then none
    else some (.of tier (.variableMismatch expected.name expected.value found))
  | none => none

/-- The mismatches of a tier, in the order of the baseline. -/
def values (tier : Tier) (vars baseline : Variables) (exclusions : List String) : List Finding :=
  (baseline.entries.filter fun v => v.name ∉ exclusions).filterMap (mismatch? tier vars)

end TierAudit.Check
