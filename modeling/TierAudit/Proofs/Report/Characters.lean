import TierAudit.Proofs.Check.Repeated
import TierAudit.Proofs.Markup.Escape
import TierAudit.Proofs.Text.Figures
import TierAudit.Report.Junit

/-!
# Report — the characters of the JUnit document

Which characters the JUnit document of a report has.  Not every character may stand in an XML
document, and escaping does not help one that may not: it is written as it is.  All that the
document says of its own is made of characters that may, so that it depends on the rule keys and
the messages (`isXmlText_render_iff`), and a message depends on the texts that it repeats
(`isXmlText_message_iff`).
-/

namespace TierAudit

namespace Markup
open Text

/-! ### Characters of XML -/

/-- A character that may stand in a document of XML 1.0. -/
def IsXmlChar (c : Char) : Prop :=
  c.toNat = 0x09 ∨ c.toNat = 0x0A ∨ c.toNat = 0x0D ∨ (0x20 ≤ c.toNat ∧ c.toNat ≤ 0xD7FF) ∨
    (0xE000 ≤ c.toNat ∧ c.toNat ≤ 0xFFFD) ∨ (0x10000 ≤ c.toNat ∧ c.toNat ≤ 0x10FFFF)

/-- A text of such characters. -/
def IsXmlText (s : String) : Prop := ∀ c ∈ s.toList, IsXmlChar c

instance (c : Char) : Decidable (IsXmlChar c) := by
  unfold IsXmlChar
  infer_instance

-- Character by character of the text, not of all characters there are.
instance (s : String) : Decidable (IsXmlText s) := List.decidableBAll IsXmlChar s.toList

@[simp] theorem isXmlText_append {s t : String} :
    IsXmlText (s ++ t) ↔ IsXmlText s ∧ IsXmlText t := by
  simp only [IsXmlText, String.toList_append, List.mem_append, or_imp, forall_and]

theorem isXmlText_join {texts : List String} :
    IsXmlText (String.join texts) ↔ ∀ text ∈ texts, IsXmlText text := by
  simp only [IsXmlText, String.toList_join, List.mem_flatMap]
  constructor
  · exact fun h text htext c hc => h c ⟨text, htext, hc⟩
  · rintro h c ⟨text, htext, hc⟩
    exact h text htext c hc

theorem isXmlText_intercalate {separator : String} (h : IsXmlText separator)
    (texts : List String) :
    IsXmlText (separator.intercalate texts) ↔ ∀ text ∈ texts, IsXmlText text := by
  induction texts with
  | nil => simp [String.intercalate_nil, IsXmlText]
  | cons text rest ih =>
      cases rest with
      | nil => simp
      | cons next rest =>
          rw [String.intercalate_cons_cons, isXmlText_append, isXmlText_append, ih,
            List.forall_mem_cons (a := text)]
          simp only [h, and_true]

theorem isXmlText_of_isFigures {s : String} (h : IsFigures s) : IsXmlText s := by
  intro c hc
  have hfigure := h c hc
  rw [isFigure, Bool.or_eq_true] at hfigure
  rcases hfigure with hdigit | hsign
  · rw [Char.isDigit, Bool.and_eq_true, decide_eq_true_eq, decide_eq_true_eq] at hdigit
    have hlow : 0x30 ≤ c.toNat := hdigit.1
    have hhigh : c.toNat ≤ 0x39 := hdigit.2
    exact .inr (.inr (.inr (.inl ⟨by omega, by omega⟩)))
  · have hall : IsXmlText "+-.:TZ" := by decide
    exact hall c (List.contains_iff_mem.mp hsign)

/-- Escaping neither adds nor takes away a character that may not stand there. -/
theorem isXmlText_escape (s : String) : IsXmlText (escape s) ↔ IsXmlText s := by
  have hchar : ∀ c, IsXmlText (String.ofList (escapeChar c)) ↔ IsXmlChar c := by
    intro c
    unfold escapeChar
    split <;> first | decide | simp [IsXmlText]
  simp only [IsXmlText, String.toList_ofList] at hchar
  simp only [IsXmlText, escape, String.toList_ofList, List.mem_flatMap]
  constructor
  · exact fun h c hc => (hchar c).mp fun d hd => h d ⟨c, hc, hd⟩
  · rintro h d ⟨c, hc, hd⟩
    exact (hchar c).mpr (h c hc) d hd

end Markup

open Markup

theorem isXmlText_tierName (tier : Tier) : IsXmlText tier.name := by
  cases tier <;> decide

/-! ### What a finding repeats -/

namespace Defect

/-- All else in a message may stand in a document. -/
theorem isXmlText_message_iff (tier : Tier) (defect : Defect) :
    IsXmlText (defect.message tier) ↔ ∀ text ∈ defect.repeated, IsXmlText text := by
  have hname := isXmlText_tierName tier
  unfold message repeated
  cases defect <;> simp +decide only [contrast, Tier.fileName, Tier.baselineFileName, hname,
    isXmlText_append, List.forall_mem_cons, true_and, and_true]

end Defect

/-! ### The document -/

namespace Junit
open Text

theorem isXmlText_toString (n : Nat) : IsXmlText (toString n) :=
  isXmlText_of_isFigures (isFigures_toString n)

theorem isXmlText_seconds (milliseconds : UInt64) : IsXmlText (Decimal.seconds 3 milliseconds) :=
  isXmlText_of_isFigures (isFigures_seconds 3 milliseconds)

theorem isXmlText_messages (findings : List Finding) :
    IsXmlText (messages findings) ↔ ∀ finding ∈ findings, IsXmlText finding.message := by
  rw [messages, isXmlText_intercalate (by decide), List.forall_mem_map]
  simp only [isXmlText_escape]

theorem isXmlText_failure (outcome : Outcome) :
    IsXmlText (failure outcome) ↔ ∀ finding ∈ outcome.errors, IsXmlText finding.message := by
  unfold failure
  split
  · next hnil => simp +decide [hnil]
  · simp +decide only [attr, Tier.fileName, isXmlText_append, isXmlText_toString,
      isXmlText_tierName, isXmlText_messages, true_and, and_true]

theorem isXmlText_systemOut (outcome : Outcome) :
    IsXmlText (systemOut outcome) ↔ ∀ finding ∈ outcome.warnings, IsXmlText finding.message := by
  unfold systemOut
  split
  · next hnil => simp +decide [hnil]
  · simp +decide only [isXmlText_append, isXmlText_messages, true_and, and_true]

/-- A finding is an error or a warning. -/
theorem forall_mem_findings_iff (outcome : Outcome) (p : Finding → Prop) :
    (∀ finding ∈ outcome.findings, p finding) ↔
      (∀ finding ∈ outcome.errors, p finding) ∧ ∀ finding ∈ outcome.warnings, p finding := by
  simp only [Outcome.errors, Outcome.warnings, List.mem_filter]
  constructor
  · exact fun h => ⟨fun f hf => h f hf.1, fun f hf => h f hf.1⟩
  · rintro ⟨herrors, hwarnings⟩ f hf
    cases herror : f.isError with
    | true => exact herrors f ⟨hf, herror⟩
    | false => exact hwarnings f ⟨hf, by rw [herror, Bool.not_false]⟩

theorem isXmlText_testCase (outcome : Outcome) :
    IsXmlText (testCase outcome) ↔
      IsXmlText outcome.ruleKey ∧ ∀ finding ∈ outcome.findings, IsXmlText finding.message := by
  have hbody : IsXmlText (if outcome.findings.isEmpty then " />\n"
      else ">\n" ++ failure outcome ++ systemOut outcome ++ "    </testcase>\n") ↔
        ∀ finding ∈ outcome.findings, IsXmlText finding.message := by
    split
    · next hnil =>
      simp +decide [List.isEmpty_iff.mp hnil]
    · simp +decide only [isXmlText_append, isXmlText_failure, isXmlText_systemOut,
        forall_mem_findings_iff, true_and, and_true]
  unfold testCase
  rw [isXmlText_append, hbody]
  simp +decide only [attr, isXmlText_append, isXmlText_escape, isXmlText_tierName,
    isXmlText_seconds, true_and, and_true]

/-- **The characters of the document.**  They may all stand there exactly if those of the rule keys
and messages may. -/
theorem isXmlText_render_iff (report : Report) :
    IsXmlText (render report) ↔ ∀ outcome ∈ report.tiers,
      IsXmlText outcome.ruleKey ∧ ∀ finding ∈ outcome.findings, IsXmlText finding.message := by
  have htimestamp : IsXmlText report.timestamp.toSeconds :=
    isXmlText_of_isFigures (isFigures_toSeconds report.timestamp)
  unfold render totals attr
  simp +decide only [isXmlText_append, isXmlText_toString, isXmlText_seconds, htimestamp,
    isXmlText_join, List.forall_mem_map, isXmlText_testCase, true_and, and_true]

end Junit
end TierAudit
