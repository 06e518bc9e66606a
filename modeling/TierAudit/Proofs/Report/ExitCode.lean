import TierAudit.Report.Ledger

/-!
# Report — the exit code

The counters of a summary are the numbers of findings, taken modulo `2 ^ 32` (`Counts.ofOutcomes`).
Below that bound the exit code says whether a tier failed
(`exitCode_eq_one_iff`) and whether all are clean (`exitCode_eq_zero_iff`).
-/

namespace TierAudit

/-! ### The status of a tier -/

namespace Outcome

theorem status_eq_fail_iff {outcome : Outcome} :
    outcome.status = .fail ↔ ∃ f ∈ outcome.findings, f.isError = true := by
  unfold status
  split
  · next h => simpa using h
  · next h =>
    constructor
    · intro hs
      split at hs <;> cases hs
    · intro he
      exact absurd (by simpa using he) h

theorem status_eq_clean_iff {outcome : Outcome} :
    outcome.status = .clean ↔ outcome.findings = [] := by
  unfold status
  cases h : outcome.findings with
  | nil => simp
  | cons f rest => simp [apply_ite (· = Status.clean)]

end Outcome

/-! ### Counters -/

namespace Summary

/-- A counter of the findings of a kind: nothing else changes it. -/
structure Counts (counter : Summary → UInt32) (p : Finding → Bool) : Prop where
  empty : counter .empty = 0
  finding : ∀ summary finding,
    counter (summary.addFinding finding) = counter summary + if p finding then 1 else 0
  outcome : ∀ (summary : Summary) (status : Status) (total : UInt32) (duration : UInt64),
    counter ({ summary with total, duration }.addStatus status) = counter summary

theorem counts_errors : Counts errors (·.isError) where
  empty := rfl
  finding summary finding := by
    cases hf : finding.severity <;> simp [addFinding, Finding.isError, hf]
  outcome _ status _ _ := by cases status <;> rfl

theorem counts_warnings : Counts warnings (!·.isError) where
  empty := rfl
  finding summary finding := by
    cases hf : finding.severity <;> simp [addFinding, Finding.isError, hf]
  outcome _ status _ _ := by cases status <;> rfl

namespace Counts

variable {counter : Summary → UInt32} {p : Finding → Bool}

theorem addFindings (h : Counts counter p) (findings : List Finding) (summary : Summary) :
    counter (findings.foldl addFinding summary) =
      counter summary + UInt32.ofNat (findings.countP p) := by
  induction findings generalizing summary with
  | nil => simp
  | cons f rest ih =>
      rw [List.foldl_cons, ih, h.finding, List.countP_cons, UInt32.ofNat_add, UInt32.add_assoc]
      cases p f <;> simp [UInt32.add_comm]

theorem addOutcomes (h : Counts counter p) (outcomes : List Outcome) (summary : Summary) :
    counter (outcomes.foldl add summary) =
      counter summary + UInt32.ofNat ((outcomes.flatMap (·.findings)).countP p) := by
  induction outcomes generalizing summary with
  | nil => simp
  | cons o rest ih =>
      rw [List.foldl_cons, ih, List.flatMap_cons, List.countP_append, UInt32.ofNat_add,
        ← UInt32.add_assoc, add, h.addFindings, h.outcome]

/-- Findings are counted modulo `2 ^ 32`. -/
theorem ofOutcomes (h : Counts counter p) (outcomes : List Outcome) :
    counter (ofOutcomes outcomes) =
      UInt32.ofNat ((outcomes.flatMap (·.findings)).countP p) := by
  rw [Summary.ofOutcomes, h.addOutcomes, h.empty, UInt32.zero_add]

/-- Findings are counted exactly while there are fewer than `2 ^ 32`. -/
theorem toNat_ofOutcomes (h : Counts counter p) {outcomes : List Outcome}
    (hlt : (outcomes.flatMap (·.findings)).length < UInt32.size) :
    (counter (Summary.ofOutcomes outcomes)).toNat =
      (outcomes.flatMap (·.findings)).countP p := by
  have hcount := Nat.lt_of_le_of_lt (List.countP_le_length (p := p)) hlt
  rw [h.ofOutcomes, UInt32.toNat_ofNat', Nat.mod_eq_of_lt hcount]

/-- A counter that has not run over is positive if there is something to count. -/
theorem pos_iff (h : Counts counter p) {outcomes : List Outcome}
    (hlt : (outcomes.flatMap (·.findings)).length < UInt32.size) :
    0 < counter (Summary.ofOutcomes outcomes) ↔
      ∃ f ∈ outcomes.flatMap (·.findings), p f = true := by
  rw [UInt32.lt_iff_toNat_lt, h.toNat_ofOutcomes hlt]
  exact List.countP_pos_iff

end Counts

/-! ### The exit code -/

section
variable {outcomes : List Outcome}

/-- There is an error exactly if a tier failed. -/
theorem exists_error_iff :
    (∃ f ∈ outcomes.flatMap (·.findings), f.isError = true) ↔
      ∃ o ∈ outcomes, o.status = .fail := by
  constructor
  · rintro ⟨f, hf, herror⟩
    obtain ⟨o, ho, hf⟩ := List.mem_flatMap.mp hf
    exact ⟨o, ho, Outcome.status_eq_fail_iff.mpr ⟨f, hf, herror⟩⟩
  · rintro ⟨o, ho, hfail⟩
    obtain ⟨f, hf, herror⟩ := Outcome.status_eq_fail_iff.mp hfail
    exact ⟨f, List.mem_flatMap.mpr ⟨o, ho, hf⟩, herror⟩

/-- **One** is for a tier that failed. -/
theorem exitCode_eq_one_iff (h : (outcomes.flatMap (·.findings)).length < UInt32.size) :
    (ofOutcomes outcomes).exitCode = 1 ↔ ∃ o ∈ outcomes, o.status = .fail := by
  rw [← exists_error_iff, ← counts_errors.pos_iff h, exitCode]
  constructor
  · intro hcode
    split at hcode
    · next herror => exact herror
    · split at hcode <;> cases hcode
  · exact fun herror => if_pos herror

/-- **Zero** is for tiers that are all clean. -/
theorem exitCode_eq_zero_iff (h : (outcomes.flatMap (·.findings)).length < UInt32.size) :
    (ofOutcomes outcomes).exitCode = 0 ↔ ∀ o ∈ outcomes, o.status = .clean := by
  have herrors := counts_errors.pos_iff h
  have hwarnings := counts_warnings.pos_iff h
  constructor
  · intro hcode o ho
    rw [exitCode] at hcode
    split at hcode
    · cases hcode
    · next hne =>
      split at hcode
      · cases hcode
      · next hnw =>
        refine Outcome.status_eq_clean_iff.mpr (List.eq_nil_iff_forall_not_mem.mpr fun f hf => ?_)
        have hmem : f ∈ outcomes.flatMap (·.findings) := List.mem_flatMap.mpr ⟨o, ho, hf⟩
        cases hkind : f.isError with
        | true => exact hne (herrors.mpr ⟨f, hmem, hkind⟩)
        | false => exact hnw (hwarnings.mpr ⟨f, hmem, by rw [hkind]; rfl⟩)
  · intro hclean
    have hnone : ∀ f, f ∉ outcomes.flatMap (·.findings) := by
      intro f hf
      obtain ⟨o, ho, hf⟩ := List.mem_flatMap.mp hf
      rw [Outcome.status_eq_clean_iff.mp (hclean o ho)] at hf
      cases hf
    rw [exitCode, if_neg, if_neg]
    · exact fun hpos => (hwarnings.mp hpos).elim fun f hf => hnone f hf.1
    · exact fun hpos => (herrors.mp hpos).elim fun f hf => hnone f hf.1

/-- Two is for what remains. -/
theorem exitCode_eq_two_iff {summary : Summary} :
    summary.exitCode = 2 ↔ summary.exitCode ≠ 0 ∧ summary.exitCode ≠ 1 := by
  unfold exitCode
  split
  · simp
  · split <;> simp

/-- Nothing else has a part in it. -/
theorem exitCode_congr {outcomes' : List Outcome}
    (h : (outcomes.flatMap (·.findings)).length < UInt32.size)
    (h' : (outcomes'.flatMap (·.findings)).length < UInt32.size)
    (hfail : (∃ o ∈ outcomes, o.status = .fail) ↔ ∃ o ∈ outcomes', o.status = .fail)
    (hclean : (∀ o ∈ outcomes, o.status = .clean) ↔ ∀ o ∈ outcomes', o.status = .clean) :
    (ofOutcomes outcomes).exitCode = (ofOutcomes outcomes').exitCode := by
  have hone : (ofOutcomes outcomes).exitCode = 1 ↔ (ofOutcomes outcomes').exitCode = 1 := by
    rw [exitCode_eq_one_iff h, exitCode_eq_one_iff h', hfail]
  have hzero : (ofOutcomes outcomes).exitCode = 0 ↔ (ofOutcomes outcomes').exitCode = 0 := by
    rw [exitCode_eq_zero_iff h, exitCode_eq_zero_iff h', hclean]
  have htwo : (ofOutcomes outcomes).exitCode = 2 ↔ (ofOutcomes outcomes').exitCode = 2 := by
    rw [exitCode_eq_two_iff, exitCode_eq_two_iff, Ne, Ne, hone, hzero]
  by_cases h0 : (ofOutcomes outcomes).exitCode = 0
  · rw [h0, hzero.mp h0]
  by_cases h1 : (ofOutcomes outcomes).exitCode = 1
  · rw [h1, hone.mp h1]
  have h2 := exitCode_eq_two_iff.mpr ⟨h0, h1⟩
  rw [h2, htwo.mp h2]

end

end Summary

end TierAudit
