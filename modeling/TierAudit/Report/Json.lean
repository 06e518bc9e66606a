import TierAudit.Json
import TierAudit.Report.Ledger

/-!
# Report — as JSON

The report for programs, with everything that it holds.
-/

namespace TierAudit

namespace Severity

/-- The name of a severity in machine-readable reports. -/
def name : Severity → String
  | warning => "warning"
  | error => "error"

end Severity

namespace Finding

def toJson (finding : Finding) : Json := .object [
  ("severity", .text finding.severity.name),
  ("kind", .text finding.kind.name),
  ("tier", .text finding.tier.name),
  ("message", .text finding.message)]

end Finding

namespace Outcome

def toJson (outcome : Outcome) : Json := .object [
  ("status", .text outcome.status.name),
  ("tier", .text outcome.tier.name),
  ("rule_key", .text outcome.ruleKey),
  ("tier_file", .ofOption (outcome.tierFile.map fun path => .text path.text)),
  ("findings", .array (outcome.findings.map Finding.toJson)),
  ("duration_ms", .number outcome.duration.toNat)]

end Outcome

namespace Summary

def toJson (summary : Summary) : Json := .object [
  ("clean", .number summary.clean.toNat),
  ("warned", .number summary.warned.toNat),
  ("failed", .number summary.failed.toNat),
  ("total", .number summary.total.toNat),
  ("errors", .number summary.errors.toNat),
  ("warnings", .number summary.warnings.toNat),
  ("total_duration_ms", .number summary.duration.toNat)]

end Summary

namespace Report

def toJson (report : Report) : Json := .object [
  ("project", .text report.project.text),
  ("timestamp", .text report.timestamp.toExact),
  ("total_duration_ms", .number report.duration.toNat),
  ("exit_code", .number report.summary.exitCode),
  ("summary", report.summary.toJson),
  ("tiers", .array (report.tiers.map Outcome.toJson))]

end Report

end TierAudit
