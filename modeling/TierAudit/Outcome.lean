import TierAudit.Finding

/-!
# Outcomes

What the check of one tier has found, and the status that follows from it.
-/

namespace TierAudit

/-- The state of a tier after its check. -/
inductive Status where
  /-- Nothing was found. -/
  | clean
  /-- There are warnings only. -/
  | warn
  /-- There is an error. -/
  | fail
  deriving DecidableEq, Repr

/-- The status in machine-readable reports. -/
def Status.name : Status → String
  | clean => "clean"
  | warn => "warn"
  | fail => "fail"

/-- The result of checking one tier. -/
structure Outcome where
  tier : Tier
  ruleKey : String
  /-- The tier's file, if there is one. -/
  tierFile : Option Path
  findings : List Finding
  /-- How long the check took, in milliseconds. -/
  duration : UInt64
  deriving DecidableEq, Repr

namespace Outcome

/-- The worst of the findings decides. -/
def status (outcome : Outcome) : Status :=
  if outcome.findings.any (·.isError) then .fail
  else if outcome.findings.isEmpty then .clean
  else .warn

def errors (outcome : Outcome) : List Finding := outcome.findings.filter (·.isError)

def warnings (outcome : Outcome) : List Finding := outcome.findings.filter fun f => !f.isError

end Outcome

end TierAudit
