import TierAudit.Report.Summary
import TierAudit.Time.Timestamp

/-!
# Report — ledgers and reports

Outcomes are recorded in a ledger as they come in; the report holds them in the order of the tiers,
and those of one tier in the order in which they were recorded.
-/

namespace TierAudit

/-- The result of checking a project. -/
structure Report where
  project : Path
  timestamp : Timestamp
  tiers : List Outcome
  /-- How long the whole check took, in milliseconds. -/
  duration : UInt64
  deriving DecidableEq, Repr

namespace Report

def summary (report : Report) : Summary := Summary.ofOutcomes report.tiers

/-- Every finding, grouped by tier. -/
def findings (report : Report) : List Finding := report.tiers.flatMap (·.findings)

/-- The first outcome of a tier. -/
def outcome? (report : Report) (tier : Tier) : Option Outcome :=
  report.tiers.find? (·.tier = tier)

end Report

/-- Outcomes in the order in which they were recorded. -/
structure Ledger where
  outcomes : List Outcome
  deriving DecidableEq, Repr

namespace Ledger

/-- Nothing recorded. -/
def empty : Ledger := ⟨[]⟩

def record (ledger : Ledger) (outcome : Outcome) : Ledger := ⟨ledger.outcomes ++ [outcome]⟩

/-- Records outcomes one after another. -/
def recordAll (ledger : Ledger) (outcomes : List Outcome) : Ledger :=
  ⟨ledger.outcomes ++ outcomes⟩

/-- Whether a tier that has been recorded failed. -/
def hasFailures (ledger : Ledger) : Bool := ledger.outcomes.any fun o => o.status = .fail

def size (ledger : Ledger) : Nat := ledger.outcomes.length

/-- The outcomes in the order of the tiers. -/
def byTier (ledger : Ledger) : List Outcome :=
  Tier.all.flatMap fun tier => ledger.outcomes.filter (·.tier = tier)

/-- The report on a project. -/
def toReport (ledger : Ledger) (project : Path) (timestamp : Timestamp) (duration : UInt64) :
    Report :=
  ⟨project, timestamp, ledger.byTier, duration⟩

end Ledger

end TierAudit
