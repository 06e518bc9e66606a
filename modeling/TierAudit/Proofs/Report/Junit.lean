import TierAudit.Proofs.Markup.Element
import TierAudit.Proofs.Report.Summary
import TierAudit.Proofs.Text.Figures
import TierAudit.Report.Junit

/-!
# Report — the JUnit document, read back

What a reader finds in the JUnit document of a report (`document_render`): its test cases are the
tiers in their order, and rule keys and messages come back as they are, whatever characters they
have.  Elements and attributes are given here as data (`suites`), with no word on how they are
written.

The counts in the document come from the summary of the report and not from the test cases.  Below
`2 ^ 32` tiers they agree (`CountsTiers.toNat_ofOutcomes`, `hasChild_failure`).
-/

namespace TierAudit

/-! ### Texts that are written as they are -/

namespace Markup
open Text

theorem not_mem_specialChars_of_isFigure {c : Char} (h : isFigure c = true) :
    c ∉ specialChars := by
  intro hc
  simp only [specialChars, List.mem_cons, List.not_mem_nil, or_false] at hc
  rcases hc with rfl | rfl | rfl | rfl | rfl <;> exact absurd h (by decide)

theorem escape_of_isFigures {s : String} (h : IsFigures s) : escape s = s :=
  escape_eq_self fun c hc => not_mem_specialChars_of_isFigure (h c hc)

@[simp] theorem escape_repr (n : Nat) : escape n.repr = n.repr :=
  escape_of_isFigures (isFigures_toString n)

@[simp] theorem escape_seconds (places : Nat) (milliseconds : UInt64) :
    escape (Decimal.seconds places milliseconds) = Decimal.seconds places milliseconds :=
  escape_of_isFigures (isFigures_seconds places milliseconds)

@[simp] theorem escape_toSeconds (timestamp : Timestamp) :
    escape timestamp.toSeconds = timestamp.toSeconds :=
  escape_of_isFigures (isFigures_toSeconds timestamp)

@[simp] theorem escape_tierName (tier : Tier) : escape tier.name = tier.name := by
  cases tier <;> rfl

/-- Texts are escaped one by one, if what stands between them needs no escape. -/
theorem escape_intercalate {separator : String} (h : escape separator = separator)
    (texts : List String) :
    escape (separator.intercalate texts) = separator.intercalate (texts.map escape) := by
  induction texts with
  | nil => rfl
  | cons text rest ih =>
      cases rest with
      | nil => rfl
      | cons next rest =>
          rw [List.map_cons] at ih
          rw [String.intercalate_cons_cons, escape_append, escape_append, h, ih, List.map_cons,
            List.map_cons, String.intercalate_cons_cons]

end Markup

/-! ### The elements of the document -/

namespace Junit
open Markup

/-- The elements that hold text. -/
def textNames : List String := ["failure", "system-out"]

/-- Messages, each on a line of its own. -/
def messageLines (findings : List Finding) : String :=
  "\n".intercalate (findings.map (·.message))

/-- The failure of a tier says how many errors there are, and in which file. -/
def failureLabel (outcome : Outcome) : Label :=
  ⟨"failure", [("message",
    toString outcome.errors.length ++ " error finding(s) in " ++ outcome.tier.fileName)]⟩

/-- A tier with errors has a failure. -/
def failureElements (outcome : Outcome) : List Element :=
  if outcome.errors = [] then []
  else [.text (failureLabel outcome) (messageLines outcome.errors)]

/-- A tier with warnings has something to say. -/
def systemOutElements (outcome : Outcome) : List Element :=
  if outcome.warnings = [] then []
  else [.text ⟨"system-out", []⟩ ("WARNING: " ++ messageLines outcome.warnings)]

def caseLabel (outcome : Outcome) : Label :=
  ⟨"testcase", [("name", outcome.ruleKey), ("classname", "bw-preflight." ++ outcome.tier.name),
    ("time", Decimal.seconds 3 outcome.duration)]⟩

/-- The test case of a tier. -/
def caseElement (outcome : Outcome) : Element :=
  if outcome.findings = [] then .empty (caseLabel outcome)
  else .parent (caseLabel outcome) (failureElements outcome ++ systemOutElements outcome)

section
variable (report : Report) (tests failures : Nat)

def totalAttributes : List (String × String) :=
  [("tests", toString tests), ("failures", toString failures), ("errors", "0"), ("skipped", "0"),
    ("time", Decimal.seconds 3 report.duration)]

def suiteLabel : Label :=
  ⟨"testsuite", ("name", "substvar") :: totalAttributes report tests failures ++
    [("timestamp", report.timestamp.toSeconds)]⟩

/-- The root: one test suite with a test case for every tier. -/
def suites : Element :=
  .parent ⟨"testsuites", totalAttributes report tests failures⟩
    [.parent (suiteLabel report tests failures) (report.tiers.map caseElement)]

end

/-! ### What is written of them -/

theorem attributesMarkup_append (attributes attributes' : List (String × String)) :
    attributesMarkup (attributes ++ attributes') =
      attributesMarkup attributes ++ attributesMarkup attributes' := by
  induction attributes with
  | nil => rw [List.nil_append, attributesMarkup, String.empty_append]
  | cons pair rest ih =>
      simp only [List.cons_append, attributesMarkup, ih, String.append_assoc]

theorem messages_eq (findings : List Finding) :
    messages findings = escape (messageLines findings) := by
  rw [messageLines, escape_intercalate rfl, List.map_map]
  rfl

theorem failure_of_ne {outcome : Outcome} (h : outcome.errors ≠ []) :
    failure outcome = "      " ++
      ((failureLabel outcome).enclose (escape (messageLines outcome.errors)) ++ "\n") := by
  unfold failure
  split
  · next hnil => exact absurd hnil h
  · rw [← String.toList_inj]
    simp [Label.enclose, Label.markup, failureLabel, attributesMarkup, attr, messages_eq,
      Tier.fileName, show escape " error finding(s) in " = " error finding(s) in " from rfl,
      show escape ".substvar" = ".substvar" from rfl]

theorem systemOut_of_ne {outcome : Outcome} (h : outcome.warnings ≠ []) :
    systemOut outcome = "      " ++ (Label.enclose ⟨"system-out", []⟩
      (escape ("WARNING: " ++ messageLines outcome.warnings)) ++ "\n") := by
  unfold systemOut
  split
  · next hnil => exact absurd hnil h
  · rw [← String.toList_inj]
    simp [Label.enclose, Label.markup, attributesMarkup, messages_eq,
      show escape "WARNING: " = "WARNING: " from rfl]

theorem testCase_of_nil {outcome : Outcome} (h : outcome.findings = []) :
    testCase outcome = "    " ++ ((caseLabel outcome).alone ++ "\n") := by
  delta testCase
  rw [← String.toList_inj]
  simp [h, Label.alone, Label.markup, caseLabel, attributesMarkup, attr,
    show escape "bw-preflight." = "bw-preflight." from rfl]

theorem testCase_of_ne {outcome : Outcome} (h : outcome.findings ≠ []) :
    testCase outcome = "    " ++ ((caseLabel outcome).enclose
      ("\n" ++ (failure outcome ++ systemOut outcome ++ "    ")) ++ "\n") := by
  delta testCase
  rw [← String.toList_inj]
  simp [h, Label.enclose, Label.markup, caseLabel, attributesMarkup, attr,
    show escape "bw-preflight." = "bw-preflight." from rfl]

theorem totals_eq (report : Report) :
    totals report = attributesMarkup
      (totalAttributes report report.summary.total.toNat report.summary.failed.toNat) := by
  rw [← String.toList_inj]
  simp [totals, totalAttributes, attributesMarkup, attr, show escape "0" = "0" from rfl]

/-- What stands behind the declaration. -/
def rootMarkup (report : Report) (tests failures : Nat) : String :=
  Label.enclose ⟨"testsuites", totalAttributes report tests failures⟩
    ("\n  " ++ ((suiteLabel report tests failures).enclose
      ("\n" ++ (String.join (report.tiers.map testCase) ++ "  ")) ++ "\n"))

theorem render_eq (report : Report) :
    render report = "<?xml" ++ " version=\"1.0\" encoding=\"UTF-8\"" ++ "?>" ++
      ("\n" ++ (rootMarkup report report.summary.total.toNat report.summary.failed.toNat ++ "")) := by
  have hsuite : (suiteLabel report report.summary.total.toNat report.summary.failed.toNat).markup =
      "testsuite" ++ attr "name" "substvar" ++ totals report ++
        attr "timestamp" report.timestamp.toSeconds := by
    rw [totals_eq, ← String.toList_inj]
    simp [Label.markup, suiteLabel, attributesMarkup, attributesMarkup_append, attr,
      show escape "substvar" = "substvar" from rfl]
  have hroot : Label.markup ⟨"testsuites",
      totalAttributes report report.summary.total.toNat report.summary.failed.toNat⟩ =
      "testsuites" ++ totals report := by
    rw [totals_eq, Label.markup]
  have hname : (suiteLabel report report.summary.total.toNat report.summary.failed.toNat).name =
      "testsuite" := rfl
  unfold render rootMarkup Label.enclose
  rw [hsuite, hroot, hname, ← String.toList_inj]
  simp only [String.toList_append]
  simp

/-! ### What it is read as -/

theorem readsAmong_failure (outcome : Outcome) :
    ReadsAmong textNames (failure outcome) (failureElements outcome) := by
  unfold failureElements
  split
  · next hnil =>
    rw [failure, hnil]
    exact .empty
  · next hne =>
    rw [failure_of_ne hne]
    have hplain : (failureLabel outcome).IsPlain :=
      .of_names ["failure", "message"] rfl (by decide)
    exact .element (by decide) (.text hplain (by simp [failureLabel, textNames])) (by decide)

theorem readsAmong_systemOut (outcome : Outcome) :
    ReadsAmong textNames (systemOut outcome) (systemOutElements outcome) := by
  unfold systemOutElements
  split
  · next hnil =>
    rw [systemOut, hnil]
    exact .empty
  · next hne =>
    rw [systemOut_of_ne hne]
    have hplain : Label.IsPlain ⟨"system-out", []⟩ := .of_names ["system-out"] rfl (by decide)
    exact .element (by decide) (.text hplain (by decide)) (by decide)

theorem readsAmong_testCase (outcome : Outcome) :
    ReadsAmong textNames (testCase outcome) [caseElement outcome] := by
  have hplain : (caseLabel outcome).IsPlain :=
    .of_names ["testcase", "name", "classname", "time"] rfl (by decide)
  unfold caseElement
  split
  · next hnil =>
    rw [testCase_of_nil hnil]
    exact .element (by decide) (.empty hplain) (by decide)
  · next hne =>
    rw [testCase_of_ne hne]
    refine .element (by decide) (.parent hplain ?_ ?_) (by decide)
    · simp [caseLabel, textNames]
    · exact ((readsAmong_failure outcome).append (readsAmong_systemOut outcome)).readsAsAll
        (by decide) (by decide)

theorem readsAs_rootMarkup (report : Report) (tests failures : Nat) :
    ReadsAs textNames (rootMarkup report tests failures) (suites report tests failures) := by
  have hcases : ReadsAmong textNames (String.join (report.tiers.map testCase))
      (report.tiers.map caseElement) := by
    rw [List.map_eq_flatMap (f := caseElement)]
    exact .join readsAmong_testCase report.tiers
  have hroot : Label.IsPlain ⟨"testsuites", totalAttributes report tests failures⟩ :=
    .of_names ["testsuites", "tests", "failures", "errors", "skipped", "time"] rfl (by decide)
  have hsuite : (suiteLabel report tests failures).IsPlain :=
    .of_names ["testsuite", "name", "tests", "failures", "errors", "skipped", "time", "timestamp"]
      rfl (by decide)
  refine .parent hroot (by simp [textNames]) (.cons (by decide) ?_ (.gap (by decide)))
  refine .parent hsuite (by simp [suiteLabel, textNames]) ?_
  exact hcases.readsAsAll (by decide) (by decide)

/-! ### The document -/

/-- A test case holds a failure exactly if its tier failed. -/
theorem hasChild_failure (outcome : Outcome) :
    (caseElement outcome).hasChild "failure" = true ↔ outcome.status = .fail := by
  have herrors : outcome.status = .fail ↔ outcome.errors ≠ [] := by
    rw [Outcome.status_eq_fail_iff, Outcome.errors, Ne, List.filter_eq_nil_iff]
    simp
  have hsystemOut : (systemOutElements outcome).any (·.label.name = "failure") = false := by
    unfold systemOutElements
    split <;> rfl
  unfold caseElement Element.hasChild
  split
  · next hnil => simp [herrors, Outcome.errors, hnil, Element.children]
  · rw [Element.children, List.any_append, hsystemOut, Bool.or_false, herrors, failureElements]
    split
    · next hnil => simp [hnil]
    · next hne => simp [hne, Element.label, failureLabel]

/-- **The document holds the report**, whatever its keys and messages.  It is read without a fault:
a declaration and one root element, with a test case for every tier in the order of the report. -/
theorem document_render (report : Report) :
    ∃ (root : Item) (tests failures : Nat),
      Document.ofText (render report) = ⟨Item.eventsAll [
        .aside (.declaration (Bytes.ofText " version=\"1.0\" encoding=\"UTF-8\"")) .utf8,
        .text (Bytes.ofText "\n") .utf8, root], none⟩ ∧
      root.element? textNames = some (suites report tests failures) ∧
      (report.tiers.length < UInt32.size →
        tests = report.tiers.length ∧
        failures = (report.tiers.map caseElement).countP (·.hasChild "failure") ∧
        failures = report.tiers.countP (·.status = .fail)) := by
  obtain ⟨root, hscan, hread⟩ :=
    readsAs_rootMarkup report report.summary.total.toNat report.summary.failed.toNat
  refine ⟨root, _, _, ?_, hread, fun hlt => ⟨?_, ?_, ?_⟩⟩
  · rw [render_eq]
    exact ofText_declared (by decide) (by rintro _ ⟨⟩; rfl)
      (scansAsAll_cons (by decide) hscan (.text (by decide)))
  · rw [Report.summary, Summary.countsTiers_total.toNat_ofOutcomes hlt, List.countP_true]
  · rw [Report.summary, Summary.countsTiers_failed.toNat_ofOutcomes hlt, List.countP_map]
    refine List.countP_congr fun outcome _ => ?_
    rw [Function.comp_apply, hasChild_failure, decide_eq_true_iff]
  · rw [Report.summary, Summary.countsTiers_failed.toNat_ofOutcomes hlt]

/-- A report of one tier, with a key and messages that look like markup. -/
def markupReport : Report where
  project := ⟨"/app"⟩
  timestamp := ⟨0, 0⟩
  tiers := [⟨.it, "\"/></testsuite>", none,
    [⟨.warning, .internal, .it, "-->"⟩, ⟨.error, .parseError, .it, "]]>"⟩,
      ⟨.error, .variableMismatch, .it, "<a b='&'"⟩],
    5⟩]
  duration := 1500

/-- They come back as they are. -/
theorem document_render_markupReport :
    markupReport.tiers.length < UInt32.size ∧ ∃ root : Item,
      Document.ofText (render markupReport) = ⟨Item.eventsAll [
        .aside (.declaration (Bytes.ofText " version=\"1.0\" encoding=\"UTF-8\"")) .utf8,
        .text (Bytes.ofText "\n") .utf8, root], none⟩ ∧
      root.element? textNames = some (
        let totals := [("tests", "1"), ("failures", "1"), ("errors", "0"), ("skipped", "0"),
          ("time", "1.500")]
        .parent ⟨"testsuites", totals⟩
          [.parent ⟨"testsuite",
              ("name", "substvar") :: totals ++ [("timestamp", "1970-01-01T00:00:00Z")]⟩
            [.parent ⟨"testcase", [("name", "\"/></testsuite>"), ("classname", "bw-preflight.IT"),
                ("time", "0.005")]⟩
              [.text ⟨"failure", [("message", "2 error finding(s) in IT.substvar")]⟩
                "]]>\n<a b='&'",
              .text ⟨"system-out", []⟩ "WARNING: -->"]]]) := by
  obtain ⟨root, tests, failures, hdocument, hread, hcounts⟩ := document_render markupReport
  obtain ⟨rfl, -, rfl⟩ := hcounts (by decide)
  exact ⟨by decide, root, hdocument, hread.trans rfl⟩

end Junit
end TierAudit
