import TierAudit.Outcome

/-!
# Report — summary

The counts of a list of outcomes and the exit code that follows from them.  Counts of tiers and
findings are words of 32 bits, and the time is a word of 64.
-/

namespace TierAudit

/-- Counts over outcomes. -/
structure Summary where
  clean : UInt32
  warned : UInt32
  failed : UInt32
  total : UInt32
  errors : UInt32
  warnings : UInt32
  /-- The sum of the times that the checks took, in milliseconds. -/
  duration : UInt64
  deriving DecidableEq, Repr

namespace Summary

/-- The counts of no outcome. -/
def empty : Summary := ⟨0, 0, 0, 0, 0, 0, 0⟩

/-- Counts a tier by its status. -/
def addStatus (summary : Summary) : Status → Summary
  | .clean => { summary with clean := summary.clean + 1 }
  | .warn => { summary with warned := summary.warned + 1 }
  | .fail => { summary with failed := summary.failed + 1 }

/-- Counts a finding by its severity. -/
def addFinding (summary : Summary) (finding : Finding) : Summary :=
  match finding.severity with
  | .error => { summary with errors := summary.errors + 1 }
  | .warning => { summary with warnings := summary.warnings + 1 }

/-- Counts an outcome with its findings. -/
def add (summary : Summary) (outcome : Outcome) : Summary :=
  let summary := { summary with
    total := summary.total + 1
    duration := summary.duration + outcome.duration }
  outcome.findings.foldl addFinding (summary.addStatus outcome.status)

/-- The counts of outcomes. -/
def ofOutcomes (outcomes : List Outcome) : Summary := outcomes.foldl add empty

/-- Errors give 1, warnings without errors 2. -/
def exitCode (summary : Summary) : Nat :=
  if 0 < summary.errors then 1
  else if 0 < summary.warnings then 2
  else 0

end Summary

end TierAudit
