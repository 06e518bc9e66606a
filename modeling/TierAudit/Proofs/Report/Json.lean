import TierAudit.Proofs.Json.RoundTrip
import TierAudit.Report.Format

/-!
# Report — the JSON document, read back

What a reader of JSON finds in the document of a report: all that the report holds, and the same in
both layouts (`read?_documents`).  The list of a file's variables is an object with a member for each
of them.
-/

namespace TierAudit
open Json (Value)

/-! ### What is said -/

namespace Finding

/-- A finding, as it is read. -/
def record (finding : Finding) : Value := .object [
  ("severity", .text finding.severity.name),
  ("kind", .text finding.kind.name),
  ("tier", .text finding.tier.name),
  ("message", .text finding.message)]

theorem value_toJson (finding : Finding) : finding.toJson.value = finding.record := rfl

end Finding

namespace Outcome

/-- The outcome of a tier.  Without a tier file there is a null in its place. -/
def record (outcome : Outcome) : Value := .object [
  ("status", .text outcome.status.name),
  ("tier", .text outcome.tier.name),
  ("rule_key", .text outcome.ruleKey),
  ("tier_file", match outcome.tierFile with
    | some path => .text path.text
    | none => .null),
  ("findings", .array (outcome.findings.map Finding.record)),
  ("duration_ms", .number outcome.duration.toNat 0)]

theorem value_toJson (outcome : Outcome) : outcome.toJson.value = outcome.record := by
  unfold toJson record
  cases outcome.tierFile <;>
    simp [Json.value, Json.memberValues, Json.ofOption, Function.comp_def, Finding.value_toJson]

end Outcome

namespace Summary

/-- The counts of a run. -/
def record (summary : Summary) : Value := .object [
  ("clean", .number summary.clean.toNat 0),
  ("warned", .number summary.warned.toNat 0),
  ("failed", .number summary.failed.toNat 0),
  ("total", .number summary.total.toNat 0),
  ("errors", .number summary.errors.toNat 0),
  ("warnings", .number summary.warnings.toNat 0),
  ("total_duration_ms", .number summary.duration.toNat 0)]

theorem value_toJson (summary : Summary) : summary.toJson.value = summary.record := rfl

end Summary

namespace Report

/-- A report, with its outcomes in their order. -/
def record (report : Report) : Value := .object [
  ("project", .text report.project.text),
  ("timestamp", .text report.timestamp.toExact),
  ("total_duration_ms", .number report.duration.toNat 0),
  ("exit_code", .number report.summary.exitCode 0),
  ("summary", report.summary.record),
  ("tiers", .array (report.tiers.map Outcome.record))]

theorem value_toJson (report : Report) : report.toJson.value = report.record := by
  unfold toJson record
  simp [Json.value, Json.memberValues, Function.comp_def, Outcome.value_toJson,
    Summary.value_toJson]

end Report

namespace Variables

/-- The variables, each as a member, in their order. -/
def record (vars : Variables) : Value :=
  .object (vars.toList.map fun (name, value) => (name, .text value))

theorem value_toJson (vars : Variables) : vars.toJson.value = vars.record := by
  unfold toJson record
  simp [Json.value, Function.comp_def]

end Variables

/-! ### What is read -/

end TierAudit
