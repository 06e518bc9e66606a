import TierAudit.Profile
import TierAudit.Report.Ledger

/-!
# Schedules

In what batches tiers are checked, and when to stop.  The tiers of a batch are checked side by side
and all of them are recorded before the next batch starts.
-/

namespace TierAudit

/-- How a run is organised. -/
structure Schedule where
  parallel : Bool
  /-- Stop after the first batch with a failed tier. -/
  failFast : Bool
  /-- How many tiers may be checked side by side. -/
  maxParallel : Nat
  deriving DecidableEq, Repr

namespace Schedule

/-- The number of tiers in a batch, at least one. -/
def batchSize (schedule : Schedule) : Nat :=
  if schedule.parallel then max schedule.maxParallel 1 else 1

/-- Cuts a list into batches of `size + 1` items; the last may be shorter. -/
def chunks {α : Type} (size : Nat) : List α → List (List α)
  | [] => []
  | x :: rest => (x :: rest.take size) :: chunks size (rest.drop size)
termination_by xs => xs.length
decreasing_by
  simp only [List.length_drop, List.length_cons]
  omega

def batches {α : Type} (schedule : Schedule) (items : List α) : List (List α) :=
  chunks (schedule.batchSize - 1) items

/-- Checks one batch after another. -/
def runBatches (schedule : Schedule) (check : Profile → Outcome) :
    Ledger → List (List Profile) → Ledger
  | ledger, [] => ledger
  | ledger, batch :: rest =>
    let ledger := ledger.recordAll (batch.map check)
    if schedule.failFast && ledger.hasFailures then ledger
    else runBatches schedule check ledger rest

/-- Checks profiles in the order in which they are given. -/
def run (schedule : Schedule) (check : Profile → Outcome) (profiles : List Profile) : Ledger :=
  runBatches schedule check .empty (schedule.batches profiles)

/-- Checks those of the profiles whose tier is asked for. -/
def runTiers (schedule : Schedule) (check : Profile → Outcome) (profiles : List Profile)
    (tiers : List Tier) : Ledger :=
  schedule.run check (profiles.filter fun p => tiers.contains p.tier)

end Schedule

end TierAudit
