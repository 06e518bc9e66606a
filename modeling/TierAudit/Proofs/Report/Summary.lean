import Mathlib.Algebra.BigOperators.Group.List.Basic
import Mathlib.Algebra.GroupWithZero.Nat
import Mathlib.Data.List.Forall2
import TierAudit.Proofs.Report.ExitCode
import TierAudit.Proofs.Report.Order

/-!
# Report — the counts of a summary

A summary has each number in its word (`ofOutcomes_eq`): how many tiers there are of each status, how
many findings of each severity, and how long the checks took.  So it depends on neither the order of
the outcomes nor that of their findings (`Rearranges.ofOutcomes_eq`).

Within bounds (`InBounds`) the words are the numbers themselves (`isExact_ofOutcomes`), and no
addition on the way runs over (`ofOutcomes?_eq`).  What is conserved, and what the exit code says of
it, is put together in `ofOutcomes_conserves`.
-/

namespace TierAudit

namespace Summary

/-! ### Counters of tiers -/

/-- A counter of the tiers of a kind: findings do not change it. -/
structure CountsTiers (counter : Summary → UInt32) (p : Outcome → Bool) : Prop where
  empty : counter .empty = 0
  finding : ∀ summary finding, counter (summary.addFinding finding) = counter summary
  outcome : ∀ (summary : Summary) (outcome : Outcome),
    counter (({ summary with
      total := summary.total + 1
      duration := summary.duration + outcome.duration } : Summary).addStatus outcome.status) =
      counter summary + if p outcome then 1 else 0

theorem countsTiers_total : CountsTiers total fun _ => true where
  empty := rfl
  finding _ finding := by cases hf : finding.severity <;> simp [addFinding, hf]
  outcome _ outcome := by cases hs : outcome.status <;> simp [addStatus]

theorem countsTiers_clean : CountsTiers clean (·.status = .clean) where
  empty := rfl
  finding _ finding := by cases hf : finding.severity <;> simp [addFinding, hf]
  outcome _ outcome := by cases hs : outcome.status <;> simp [addStatus]

theorem countsTiers_warned : CountsTiers warned (·.status = .warn) where
  empty := rfl
  finding _ finding := by cases hf : finding.severity <;> simp [addFinding, hf]
  outcome _ outcome := by cases hs : outcome.status <;> simp [addStatus]

theorem countsTiers_failed : CountsTiers failed (·.status = .fail) where
  empty := rfl
  finding _ finding := by cases hf : finding.severity <;> simp [addFinding, hf]
  outcome _ outcome := by cases hs : outcome.status <;> simp [addStatus]

namespace CountsTiers
variable {counter : Summary → UInt32} {p : Outcome → Bool}

theorem addFindings (h : CountsTiers counter p) (findings : List Finding) (summary : Summary) :
    counter (findings.foldl addFinding summary) = counter summary := by
  induction findings generalizing summary with
  | nil => rfl
  | cons f rest ih => rw [List.foldl_cons, ih, h.finding]

theorem addOutcomes (h : CountsTiers counter p) (outcomes : List Outcome) (summary : Summary) :
    counter (outcomes.foldl add summary) = counter summary + UInt32.ofNat (outcomes.countP p) := by
  induction outcomes generalizing summary with
  | nil => simp
  | cons o rest ih =>
      rw [List.foldl_cons, ih, add, h.addFindings, h.outcome, List.countP_cons, UInt32.ofNat_add,
        UInt32.add_assoc]
      cases p o <;> simp [UInt32.add_comm]

/-- Tiers are counted modulo `2 ^ 32`. -/
theorem ofOutcomes (h : CountsTiers counter p) (outcomes : List Outcome) :
    counter (ofOutcomes outcomes) = UInt32.ofNat (outcomes.countP p) := by
  rw [Summary.ofOutcomes, h.addOutcomes, h.empty, UInt32.zero_add]

/-- Tiers are counted exactly while there are fewer than `2 ^ 32`. -/
theorem toNat_ofOutcomes (h : CountsTiers counter p) {outcomes : List Outcome}
    (hlt : outcomes.length < UInt32.size) :
    (counter (Summary.ofOutcomes outcomes)).toNat = outcomes.countP p := by
  have hcount := Nat.lt_of_le_of_lt (List.countP_le_length (p := p)) hlt
  rw [h.ofOutcomes, UInt32.toNat_ofNat', Nat.mod_eq_of_lt hcount]

end CountsTiers

/-! ### Times -/

theorem duration_addFindings (findings : List Finding) (summary : Summary) :
    (findings.foldl addFinding summary).duration = summary.duration := by
  induction findings generalizing summary with
  | nil => rfl
  | cons f rest ih =>
      rw [List.foldl_cons, ih, addFinding]
      cases f.severity <;> rfl

theorem duration_add (summary : Summary) (outcome : Outcome) :
    (summary.add outcome).duration = summary.duration + outcome.duration := by
  rw [add, duration_addFindings]
  cases outcome.status <;> rfl

/-- Times are added modulo `2 ^ 64`. -/
theorem duration_ofOutcomes (outcomes : List Outcome) :
    (ofOutcomes outcomes).duration =
      UInt64.ofNat (outcomes.map (·.duration.toNat)).sum := by
  have hfold : ∀ summary : Summary, (outcomes.foldl add summary).duration =
      summary.duration + UInt64.ofNat (outcomes.map (·.duration.toNat)).sum := by
    induction outcomes with
    | nil => simp
    | cons o rest ih =>
        intro summary
        rw [List.foldl_cons, ih, duration_add, List.map_cons, List.sum_cons, UInt64.ofNat_add,
          UInt64.ofNat_toNat, UInt64.add_assoc]
  rw [ofOutcomes, hfold]
  exact UInt64.zero_add _

/-! ### The numbers of a summary -/

/-- Each number of a summary in its word. -/
theorem ofOutcomes_eq (outcomes : List Outcome) :
    ofOutcomes outcomes =
      { clean := .ofNat (outcomes.countP (·.status = .clean))
        warned := .ofNat (outcomes.countP (·.status = .warn))
        failed := .ofNat (outcomes.countP (·.status = .fail))
        total := .ofNat outcomes.length
        errors := .ofNat ((outcomes.flatMap (·.findings)).countP (·.isError))
        warnings := .ofNat ((outcomes.flatMap (·.findings)).countP (!·.isError))
        duration := .ofNat (outcomes.map (·.duration.toNat)).sum } := by
  rw [← countsTiers_clean.ofOutcomes, ← countsTiers_warned.ofOutcomes,
    ← countsTiers_failed.ofOutcomes, ← counts_errors.ofOutcomes, ← counts_warnings.ofOutcomes,
    ← duration_ofOutcomes, ← List.countP_true, ← countsTiers_total.ofOutcomes]

end Summary

/-! ### Order -/

/-- The same outcomes in any order, each with its findings in any order. -/
def Rearranges (outcomes outcomes' : List Outcome) : Prop :=
  ∃ middle, outcomes.Perm middle ∧
    List.Forall₂ (fun o o' => o' = { o with findings := o'.findings } ∧
      o.findings.Perm o'.findings) middle outcomes'

theorem Outcome.status_of_perm {o o' : Outcome} (h : o.findings.Perm o'.findings) :
    o.status = o'.status := by
  have hempty : o.findings.isEmpty = o'.findings.isEmpty := by
    rw [Bool.eq_iff_iff, List.isEmpty_iff_length_eq_zero, List.isEmpty_iff_length_eq_zero,
      h.length_eq]
  rw [status, status, h.any_eq, hempty]

/-- Statuses, findings and times are as they were before, in some order. -/
theorem Rearranges.perms {outcomes outcomes' : List Outcome} (h : Rearranges outcomes outcomes') :
    (outcomes.map (·.status)).Perm (outcomes'.map (·.status)) ∧
      (outcomes.flatMap (·.findings)).Perm (outcomes'.flatMap (·.findings)) ∧
      (outcomes.map (·.duration.toNat)).Perm (outcomes'.map (·.duration.toNat)) := by
  obtain ⟨middle, hperm, hinner⟩ := h
  have hmiddle : middle.map (·.status) = outcomes'.map (·.status) ∧
      (middle.flatMap (·.findings)).Perm (outcomes'.flatMap (·.findings)) ∧
      middle.map (·.duration.toNat) = outcomes'.map (·.duration.toNat) := by
    clear hperm
    induction hinner with
    | nil => exact ⟨rfl, .refl _, rfl⟩
    | @cons o o' rest rest' hfirst _ ih =>
        obtain ⟨heq, hfindings⟩ := hfirst
        obtain ⟨hstatuses, hall, hdurations⟩ := ih
        have hduration : o.duration = o'.duration := by rw [heq]
        refine ⟨?_, ?_, ?_⟩
        · rw [List.map_cons, List.map_cons, Outcome.status_of_perm hfindings, hstatuses]
        · exact hfindings.append hall
        · rw [List.map_cons, List.map_cons, hduration, hdurations]
  refine ⟨?_, (hperm.flatMap_right _).trans hmiddle.2.1, ?_⟩
  · exact hmiddle.1 ▸ hperm.map _
  · exact hmiddle.2.2 ▸ hperm.map _

/-- A summary depends on neither the order of the outcomes nor that of their findings. -/
theorem Rearranges.ofOutcomes_eq {outcomes outcomes' : List Outcome}
    (h : Rearranges outcomes outcomes') :
    Summary.ofOutcomes outcomes' = Summary.ofOutcomes outcomes := by
  obtain ⟨hstatuses, hfindings, hdurations⟩ := h.perms
  have hlength : outcomes.length = outcomes'.length := by simpa using hstatuses.length_eq
  have hstatus : ∀ status, outcomes.countP (·.status = status) =
      outcomes'.countP (·.status = status) := fun status => by
    have hcount := hstatuses.countP_eq (· = status)
    simpa only [List.countP_map, Function.comp_def] using hcount
  rw [Summary.ofOutcomes_eq, Summary.ofOutcomes_eq, hlength, hstatus, hstatus, hstatus,
    hfindings.countP_eq, hfindings.countP_eq, hdurations.sum_eq]

theorem rearranges_of_perm {outcomes outcomes' : List Outcome} (h : outcomes.Perm outcomes') :
    Rearranges outcomes outcomes' :=
  ⟨outcomes', h, List.forall₂_same.mpr fun _ _ => ⟨rfl, .refl _⟩⟩

/-! ### Bounds -/

/-- The numbers of tiers and findings fit into a word of 32 bits, and the time into one of 64. -/
structure InBounds (outcomes : List Outcome) : Prop where
  tiers : outcomes.length < UInt32.size
  findings : (outcomes.flatMap (·.findings)).length < UInt32.size
  duration : (outcomes.map (·.duration.toNat)).sum < UInt64.size

theorem InBounds.of_append {front back : List Outcome} (h : InBounds (front ++ back)) :
    InBounds front ∧ InBounds back := by
  obtain ⟨htiers, hfindings, hduration⟩ := h
  rw [List.length_append] at htiers
  rw [List.flatMap_append, List.length_append] at hfindings
  rw [List.map_append, List.sum_append] at hduration
  exact ⟨⟨by omega, by omega, by omega⟩, ⟨by omega, by omega, by omega⟩⟩

namespace Summary

/-- The words of a summary are the numbers themselves. -/
structure IsExact (summary : Summary) (outcomes : List Outcome) : Prop where
  clean : summary.clean.toNat = outcomes.countP (·.status = .clean)
  warned : summary.warned.toNat = outcomes.countP (·.status = .warn)
  failed : summary.failed.toNat = outcomes.countP (·.status = .fail)
  total : summary.total.toNat = outcomes.length
  errors : summary.errors.toNat = (outcomes.flatMap (·.findings)).countP (·.isError)
  warnings : summary.warnings.toNat = (outcomes.flatMap (·.findings)).countP (!·.isError)
  duration : summary.duration.toNat = (outcomes.map (·.duration.toNat)).sum

theorem isExact_ofOutcomes {outcomes : List Outcome} (h : InBounds outcomes) :
    (ofOutcomes outcomes).IsExact outcomes where
  clean := countsTiers_clean.toNat_ofOutcomes h.tiers
  warned := countsTiers_warned.toNat_ofOutcomes h.tiers
  failed := countsTiers_failed.toNat_ofOutcomes h.tiers
  total := by rw [countsTiers_total.toNat_ofOutcomes h.tiers, List.countP_true]
  errors := counts_errors.toNat_ofOutcomes h.findings
  warnings := counts_warnings.toNat_ofOutcomes h.findings
  duration := by rw [duration_ofOutcomes, UInt64.toNat_ofNat', Nat.mod_eq_of_lt h.duration]

/-- Every tier has one of the three statuses. -/
theorem countP_status (outcomes : List Outcome) :
    outcomes.countP (·.status = .clean) + outcomes.countP (·.status = .warn) +
      outcomes.countP (·.status = .fail) = outcomes.length := by
  induction outcomes with
  | nil => rfl
  | cons o rest ih =>
      simp only [List.countP_cons, List.length_cons]
      cases o.status <;> simp <;> omega

/-- A summary adds up two others, number by number. -/
structure IsSum (summary front back : Summary) : Prop where
  clean : summary.clean.toNat = front.clean.toNat + back.clean.toNat
  warned : summary.warned.toNat = front.warned.toNat + back.warned.toNat
  failed : summary.failed.toNat = front.failed.toNat + back.failed.toNat
  total : summary.total.toNat = front.total.toNat + back.total.toNat
  errors : summary.errors.toNat = front.errors.toNat + back.errors.toNat
  warnings : summary.warnings.toNat = front.warnings.toNat + back.warnings.toNat
  duration : summary.duration.toNat = front.duration.toNat + back.duration.toNat

theorem isSum_ofOutcomes {front back : List Outcome} (h : InBounds (front ++ back)) :
    (ofOutcomes (front ++ back)).IsSum (ofOutcomes front) (ofOutcomes back) := by
  have hwhole := isExact_ofOutcomes h
  have hfront := isExact_ofOutcomes h.of_append.1
  have hback := isExact_ofOutcomes h.of_append.2
  constructor
  · rw [hwhole.clean, hfront.clean, hback.clean, List.countP_append]
  · rw [hwhole.warned, hfront.warned, hback.warned, List.countP_append]
  · rw [hwhole.failed, hfront.failed, hback.failed, List.countP_append]
  · rw [hwhole.total, hfront.total, hback.total, List.length_append]
  · rw [hwhole.errors, hfront.errors, hback.errors, List.flatMap_append, List.countP_append]
  · rw [hwhole.warnings, hfront.warnings, hback.warnings, List.flatMap_append, List.countP_append]
  · rw [hwhole.duration, hfront.duration, hback.duration, List.map_append, List.sum_append]

/-! ### Additions -/

/-- One more, unless that runs over. -/
def next? (count : UInt32) : Option UInt32 :=
  if count.toNat + 1 < UInt32.size then some (count + 1) else none

/-- The sum of two times, unless that runs over. -/
def after? (time duration : UInt64) : Option UInt64 :=
  if time.toNat + duration.toNat < UInt64.size then some (time + duration) else none

/-- Counts a tier by its status, unless that runs over. -/
def addStatus? (summary : Summary) : Status → Option Summary
  | .clean => (next? summary.clean).map fun clean => { summary with clean }
  | .warn => (next? summary.warned).map fun warned => { summary with warned }
  | .fail => (next? summary.failed).map fun failed => { summary with failed }

/-- Counts a finding by its severity, unless that runs over. -/
def addFinding? (summary : Summary) (finding : Finding) : Option Summary :=
  match finding.severity with
  | .error => (next? summary.errors).map fun errors => { summary with errors }
  | .warning => (next? summary.warnings).map fun warnings => { summary with warnings }

/-- Counts an outcome with its findings, unless one of the additions runs over. -/
def add? (summary : Summary) (outcome : Outcome) : Option Summary := do
  let total ← next? summary.total
  let duration ← after? summary.duration outcome.duration
  outcome.findings.foldlM addFinding? (← addStatus? { summary with total, duration } outcome.status)

/-- The counts of outcomes, unless one of the additions on the way runs over. -/
def ofOutcomes? (outcomes : List Outcome) : Option Summary := outcomes.foldlM add? empty

theorem next?_eq {count : UInt32} (h : count.toNat + 1 < UInt32.size) :
    next? count = some (count + 1) :=
  if_pos h

theorem after?_eq {time duration : UInt64} (h : time.toNat + duration.toNat < UInt64.size) :
    after? time duration = some (time + duration) :=
  if_pos h

theorem addStatus?_eq {summary : Summary} (status : Status)
    (hclean : summary.clean.toNat + 1 < UInt32.size)
    (hwarned : summary.warned.toNat + 1 < UInt32.size)
    (hfailed : summary.failed.toNat + 1 < UInt32.size) :
    summary.addStatus? status = some (summary.addStatus status) := by
  cases status with
  | clean => rw [addStatus?, next?_eq hclean]; rfl
  | warn => rw [addStatus?, next?_eq hwarned]; rfl
  | fail => rw [addStatus?, next?_eq hfailed]; rfl

theorem addFinding?_eq {summary : Summary} (finding : Finding)
    (herrors : summary.errors.toNat + 1 < UInt32.size)
    (hwarnings : summary.warnings.toNat + 1 < UInt32.size) :
    summary.addFinding? finding = some (summary.addFinding finding) := by
  unfold addFinding? addFinding
  cases finding.severity with
  | error => rw [next?_eq herrors]; rfl
  | warning => rw [next?_eq hwarnings]; rfl

/-- A finding makes a counter larger by one at most. -/
theorem Counts.toNat_finding_le {counter : Summary → UInt32} {p : Finding → Bool}
    (h : Counts counter p) (summary : Summary) (finding : Finding) :
    (counter (summary.addFinding finding)).toNat ≤ (counter summary).toNat + 1 := by
  rw [h.finding, UInt32.toNat_add]
  refine Nat.le_trans (Nat.mod_le _ _) (Nat.add_le_add_left ?_ _)
  split <;> simp

/-- Findings can be counted if the words have room for as many. -/
theorem foldlM_addFinding? {findings : List Finding} {summary : Summary}
    (herrors : summary.errors.toNat + findings.length < UInt32.size)
    (hwarnings : summary.warnings.toNat + findings.length < UInt32.size) :
    findings.foldlM addFinding? summary = some (findings.foldl addFinding summary) := by
  induction findings generalizing summary with
  | nil => rfl
  | cons f rest ih =>
      rw [List.length_cons] at herrors hwarnings
      have herrors' := counts_errors.toNat_finding_le summary f
      have hwarnings' := counts_warnings.toNat_finding_le summary f
      rw [List.foldlM_cons, addFinding?_eq f (by omega) (by omega)]
      exact ih (by omega) (by omega)

/-- The words of a summary have room for an outcome. -/
structure HasRoom (summary : Summary) (outcome : Outcome) : Prop where
  clean : summary.clean.toNat + 1 < UInt32.size
  warned : summary.warned.toNat + 1 < UInt32.size
  failed : summary.failed.toNat + 1 < UInt32.size
  total : summary.total.toNat + 1 < UInt32.size
  errors : summary.errors.toNat + outcome.findings.length < UInt32.size
  warnings : summary.warnings.toNat + outcome.findings.length < UInt32.size
  duration : summary.duration.toNat + outcome.duration.toNat < UInt64.size

theorem HasRoom.add?_eq {summary : Summary} {outcome : Outcome} (h : summary.HasRoom outcome) :
    summary.add? outcome = some (summary.add outcome) := by
  have hstatus := @addStatus?_eq { summary with
    total := summary.total + 1
    duration := summary.duration + outcome.duration } outcome.status h.clean h.warned h.failed
  simp only [add?, next?_eq h.total, after?_eq h.duration, Option.bind_eq_bind, Option.bind_some,
    hstatus]
  refine foldlM_addFinding? ?_ ?_
  · rw [counts_errors.outcome]
    exact h.errors
  · rw [counts_warnings.outcome]
    exact h.warnings

/-- Within bounds there is room for every next outcome. -/
theorem hasRoom_ofOutcomes {front : List Outcome} {outcome : Outcome}
    (h : InBounds (front ++ [outcome])) : (ofOutcomes front).HasRoom outcome := by
  have hexact := isExact_ofOutcomes h.of_append.1
  obtain ⟨htiers, hfindings, hduration⟩ := h
  rw [List.length_append, List.length_singleton] at htiers
  rw [List.flatMap_append, List.flatMap_singleton, List.length_append] at hfindings
  rw [List.map_append, List.sum_append, List.map_singleton, List.sum_singleton] at hduration
  have htier : ∀ p : Outcome → Bool, front.countP p + 1 < UInt32.size := fun p =>
    Nat.lt_of_le_of_lt (Nat.add_le_add_right List.countP_le_length 1) htiers
  have hfinding : ∀ p : Finding → Bool,
      (front.flatMap (·.findings)).countP p + outcome.findings.length < UInt32.size := fun p =>
    Nat.lt_of_le_of_lt (Nat.add_le_add_right List.countP_le_length _) hfindings
  exact {
    clean := hexact.clean ▸ htier _
    warned := hexact.warned ▸ htier _
    failed := hexact.failed ▸ htier _
    total := hexact.total ▸ htiers
    errors := hexact.errors ▸ hfinding _
    warnings := hexact.warnings ▸ hfinding _
    duration := hexact.duration ▸ hduration }

/-- **No addition runs over** while outcomes within bounds are counted. -/
theorem ofOutcomes?_eq {outcomes : List Outcome} (h : InBounds outcomes) :
    ofOutcomes? outcomes = some (ofOutcomes outcomes) := by
  have hrest : ∀ front, InBounds (front ++ outcomes) →
      outcomes.foldlM add? (ofOutcomes front) = some (ofOutcomes (front ++ outcomes)) := by
    clear h
    induction outcomes with
    | nil =>
        intro front _
        rw [List.append_nil]
        rfl
    | cons o rest ih =>
        intro front h
        have hnext : ofOutcomes (front ++ [o]) = (ofOutcomes front).add o := List.foldl_concat ..
        rw [List.append_cons] at h ⊢
        rw [List.foldlM_cons, (hasRoom_ofOutcomes h.of_append.1).add?_eq, ← hnext]
        exact ih _ h
  exact hrest [] h

/-! ### The exit code -/

section
variable {outcomes : List Outcome}

/-- An exact counter of tiers is positive if there is one of the kind. -/
theorem pos_iff_exists {count : UInt32} {p : Outcome → Bool}
    (h : count.toNat = outcomes.countP p) : 0 < count ↔ ∃ o ∈ outcomes, p o = true := by
  rw [UInt32.lt_iff_toNat_lt, h]
  exact List.countP_pos_iff

/-- It is zero if there is none. -/
theorem eq_zero_iff_forall {count : UInt32} {p : Outcome → Bool}
    (h : count.toNat = outcomes.countP p) : count = 0 ↔ ∀ o ∈ outcomes, ¬ p o = true := by
  rw [← UInt32.toNat_inj, h]
  exact List.countP_eq_zero

theorem failed_pos_iff (h : InBounds outcomes) :
    0 < (ofOutcomes outcomes).failed ↔ ∃ o ∈ outcomes, o.status = .fail := by
  simpa using pos_iff_exists (isExact_ofOutcomes h).failed

/-- Two is for tiers that are warned about, if none fails. -/
theorem exitCode_eq_two_iff_warned (h : InBounds outcomes) :
    (ofOutcomes outcomes).exitCode = 2 ↔
      (ofOutcomes outcomes).failed = 0 ∧ 0 < (ofOutcomes outcomes).warned := by
  have hexact := isExact_ofOutcomes h
  rw [exitCode_eq_two_iff, Ne, Ne, exitCode_eq_zero_iff h.findings, exitCode_eq_one_iff h.findings,
    eq_zero_iff_forall hexact.failed, pos_iff_exists hexact.warned]
  simp only [decide_eq_true_eq]
  constructor
  · rintro ⟨hnotClean, hnoFailure⟩
    refine ⟨fun o ho hfail => hnoFailure ⟨o, ho, hfail⟩, ?_⟩
    obtain ⟨o, ho, hne⟩ : ∃ o ∈ outcomes, ¬ o.status = .clean := by simpa using hnotClean
    cases hstatus : o.status with
    | clean => exact absurd hstatus hne
    | warn => exact ⟨o, ho, hstatus⟩
    | fail => exact absurd ⟨o, ho, hstatus⟩ hnoFailure
  · rintro ⟨hnoFailure, o, ho, hwarn⟩
    refine ⟨fun hclean => ?_, fun ⟨o', ho', hfail⟩ => hnoFailure o' ho' hfail⟩
    cases hwarn.symm.trans (hclean o ho)

end

/-- **What a summary conserves.**  Within bounds each word of it is a number: every tier is counted
once by its status, every finding once by its severity, and the times are added up.  No addition on
the way runs over.  The order of the outcomes and of their findings does not matter, so that the
report has the summary of what was recorded; and the summaries of two lists add up to that of both.
The exit code tells whether a tier failed, as the ledger does, or else whether there were
warnings. -/
theorem ofOutcomes_conserves {outcomes : List Outcome} (h : InBounds outcomes) :
    let summary := ofOutcomes outcomes
    let ledger := outcomes.foldl Ledger.record .empty
    (summary.IsExact outcomes ∧
      summary.clean.toNat + summary.warned.toNat + summary.failed.toNat = summary.total.toNat ∧
      summary.total.toNat = outcomes.length ∧
      summary.errors.toNat + summary.warnings.toNat = (outcomes.flatMap (·.findings)).length ∧
      summary.duration.toNat = (outcomes.map (·.duration.toNat)).sum) ∧
    ofOutcomes? outcomes = some summary ∧
    (∀ outcomes', Rearranges outcomes outcomes' → ofOutcomes outcomes' = summary) ∧
    (∀ project timestamp duration,
      (ledger.toReport project timestamp duration).summary = summary) ∧
    (∀ front back, outcomes = front ++ back →
      summary.IsSum (ofOutcomes front) (ofOutcomes back)) ∧
    (summary.exitCode = 1 ↔ 0 < summary.failed) ∧
    (0 < summary.failed ↔ ∃ o ∈ outcomes, o.status = .fail) ∧
    (0 < summary.failed ↔ ledger.hasFailures = true) ∧
    (summary.exitCode = 2 ↔ summary.failed = 0 ∧ 0 < summary.warned) ∧
    (summary.exitCode = 0 ↔ ∀ o ∈ outcomes, o.status = .clean) := by
  intro summary ledger
  have hexact : summary.IsExact outcomes := isExact_ofOutcomes h
  have hledger : ledger.outcomes = outcomes := Ledger.outcomes_foldl_record outcomes
  have hfailed := failed_pos_iff h
  refine ⟨⟨hexact, ?_, hexact.total, ?_, hexact.duration⟩, ofOutcomes?_eq h,
    fun _ => Rearranges.ofOutcomes_eq, fun project timestamp duration => ?_,
    fun front back hparts => ?_, ?_, hfailed, ?_, exitCode_eq_two_iff_warned h,
    exitCode_eq_zero_iff h.findings⟩
  · rw [hexact.clean, hexact.warned, hexact.failed, hexact.total, countP_status]
  · rw [hexact.errors, hexact.warnings, List.length_eq_countP_add_countP (·.isError)]
    simp
  · exact Rearranges.ofOutcomes_eq (rearranges_of_perm (hledger ▸ ledger.byTier_perm.symm))
  · subst hparts
    exact isSum_ofOutcomes h
  · exact (exitCode_eq_one_iff h.findings).trans hfailed.symm
  · rw [hfailed, Ledger.hasFailures, hledger]
    simp

/-- A tier with a warning and an error, and one with a warning only.  Together their checks took as
long as can be told. -/
def longestChecks : List Outcome :=
  [⟨.uat, "UATSubstvarValidation", none, [.of .uat .missingTierFile, .of .uat .aborted],
      9223372036854775808⟩,
    ⟨.it, "ITSubstvarValidation", none, [.of .it .missingTierFile], 9223372036854775807⟩]

/-- The same the other way round. -/
def longestChecksReversed : List Outcome :=
  [⟨.it, "ITSubstvarValidation", none, [.of .it .missingTierFile], 9223372036854775807⟩,
    ⟨.uat, "UATSubstvarValidation", none, [.of .uat .aborted, .of .uat .missingTierFile],
      9223372036854775808⟩]

/-- Neither the order nor the time makes a difference to their summary. -/
theorem ofOutcomes_conserves_longestChecks :
    InBounds longestChecks ∧ Rearranges longestChecks longestChecksReversed ∧
      ofOutcomes longestChecksReversed = ofOutcomes longestChecks ∧
      ofOutcomes? longestChecks = some ⟨0, 1, 1, 2, 1, 2, 18446744073709551615⟩ ∧
      (ofOutcomes longestChecks).IsSum (ofOutcomes (longestChecks.take 1))
        (ofOutcomes (longestChecks.drop 1)) := by
  have hbounds : InBounds longestChecks := ⟨by decide, by decide, by decide⟩
  have hrearranges : Rearranges longestChecks longestChecksReversed :=
    ⟨longestChecks.reverse, .swap _ _ _, .cons ⟨rfl, .refl _⟩ (.cons ⟨rfl, .swap _ _ _⟩ .nil)⟩
  obtain ⟨-, hadds, horder, -, hparts, -⟩ := ofOutcomes_conserves hbounds
  exact ⟨hbounds, hrearranges, horder _ hrearranges, hadds.trans (by decide),
    hparts _ _ (List.take_append_drop 1 _).symm⟩

end Summary

end TierAudit
