import TierAudit.Decimal
import TierAudit.Markup.Escape
import TierAudit.Report.Ledger

/-!
# Report — as a JUnit document

The report for build servers: one test suite with a test case for every tier.  The errors of a tier
are its failure, and its warnings are what it has to say.
-/

namespace TierAudit.Junit
open Markup (escape)

/-- The messages of findings, each on a line of its own, as they stand in markup. -/
def messages (findings : List Finding) : String :=
  "\n".intercalate (findings.map fun finding => escape finding.message)

/-- An attribute with the blank in front of it.  The value is taken as it is. -/
def attr (name value : String) : String := " " ++ name ++ "=\"" ++ value ++ "\""

/-- The counts and the time of a run. -/
def totals (report : Report) : String :=
  attr "tests" (toString report.summary.total.toNat) ++
    attr "failures" (toString report.summary.failed.toNat) ++ attr "errors" "0" ++
    attr "skipped" "0" ++ attr "time" (Decimal.seconds 3 report.duration)

def failure (outcome : Outcome) : String :=
  match outcome.errors with
  | [] => ""
  | errors =>
    let message := toString errors.length ++ " error finding(s) in " ++ outcome.tier.fileName
    "      <failure" ++ attr "message" message ++ ">" ++ messages errors ++ "</failure>\n"

def systemOut (outcome : Outcome) : String :=
  match outcome.warnings with
  | [] => ""
  | warnings => "      <system-out>WARNING: " ++ messages warnings ++ "</system-out>\n"

/-- The test case of a tier; without findings it is an element without content. -/
def testCase (outcome : Outcome) : String :=
  "    <testcase" ++ attr "name" (escape outcome.ruleKey) ++
    attr "classname" ("bw-preflight." ++ outcome.tier.name) ++
    attr "time" (Decimal.seconds 3 outcome.duration) ++
    if outcome.findings.isEmpty then " />\n"
    else ">\n" ++ failure outcome ++ systemOut outcome ++ "    </testcase>\n"

def render (report : Report) : String :=
  "<?xml version=\"1.0\" encoding=\"UTF-8\"?>\n<testsuites" ++ totals report ++
    ">\n  <testsuite" ++ attr "name" "substvar" ++ totals report ++
    attr "timestamp" report.timestamp.toSeconds ++ ">\n" ++
    String.join (report.tiers.map testCase) ++ "  </testsuite>\n</testsuites>"

end TierAudit.Junit
