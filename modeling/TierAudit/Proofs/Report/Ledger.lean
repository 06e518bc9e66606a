import TierAudit.Proofs.Report.ExitCode
import TierAudit.Proofs.Report.Order

/-!
# Report — from the ledger to the report

A report is arranged by tier and conserves what was recorded: nothing is lost, added or altered, and
outcomes of one tier, of which there may be several, stay in the order in which they were recorded
(`arranges_byTier`).  There is only one such arrangement, that of a stable sort
(`byTier_eq_mergeSort`), and what else a report says follows from it (`toReport_recorded`).
-/

namespace TierAudit

/-- A list holds given outcomes in the order of the tiers, each as often as it is given, and those of
one tier in the order in which they are given. -/
structure Arranges (arranged outcomes : List Outcome) : Prop where
  perm : arranged.Perm outcomes
  sorted : arranged.Pairwise fun a b => a.tier.rank ≤ b.tier.rank
  stable : ∀ tier : Tier, arranged.filter (·.tier = tier) = outcomes.filter (·.tier = tier)

namespace Ledger

/-! ### Outcomes by tier -/

/-- The outcomes of a tier are those of the ledger, in their order. -/
theorem filter_byTier (ledger : Ledger) (tier : Tier) :
    ledger.byTier.filter (·.tier = tier) = ledger.outcomes.filter (·.tier = tier) := by
  have hpick : ∀ t, (ledger.outcomes.filter (·.tier = t)).filter (·.tier = tier) =
      if t = tier then ledger.outcomes.filter (·.tier = tier) else [] := by
    intro t
    rw [List.filter_filter]
    split
    · next ht => simp [ht]
    · next ht =>
      refine List.filter_eq_nil_iff.mpr fun o _ => ?_
      simpa using fun hot hot' => ht (hot'.symm.trans hot)
  rw [byTier, List.filter_flatMap]
  simp only [hpick]
  cases tier <;> simp [Tier.all]

theorem arranges_byTier (ledger : Ledger) : Arranges ledger.byTier ledger.outcomes :=
  ⟨ledger.byTier_perm, ledger.sorted_byTier, ledger.filter_byTier⟩

/-- Outcomes that are in the order of the tiers stay as they are. -/
theorem byTier_eq_self {outcomes : List Outcome}
    (h : outcomes.Pairwise fun a b => a.tier.rank ≤ b.tier.rank) :
    (Ledger.mk outcomes).byTier = outcomes := by
  induction outcomes with
  | nil => rfl
  | cons outcome rest ih =>
      obtain ⟨hfirst, hrest⟩ := List.pairwise_cons.mp h
      -- In front of the first outcome stands none of an earlier tier.
      have hnone : ∀ tier, tier.rank < outcome.tier.rank → rest.filter (·.tier = tier) = [] := by
        intro tier htier
        refine List.filter_eq_nil_iff.mpr fun o ho hot => ?_
        rw [decide_eq_true_eq] at hot
        exact absurd (hfirst o ho) (Nat.not_le.mpr (hot ▸ htier))
      have hcons : (Ledger.mk (outcome :: rest)).byTier =
          outcome :: (Ledger.mk rest).byTier := by
        unfold byTier
        cases htier : outcome.tier <;> rw [htier] at hnone
        case dev4 => simp [Tier.all, htier]
        case it => simp [Tier.all, htier, hnone .dev4 (by decide)]
        case pt => simp [Tier.all, htier, hnone .dev4 (by decide), hnone .it (by decide)]
        case st =>
          simp [Tier.all, htier, hnone .dev4 (by decide), hnone .it (by decide),
            hnone .pt (by decide)]
        case uat =>
          simp [Tier.all, htier, hnone .dev4 (by decide), hnone .it (by decide),
            hnone .pt (by decide), hnone .st (by decide)]
      rw [hcons, ih hrest]

end Ledger

/-- There is only one arrangement of outcomes. -/
theorem Arranges.eq_byTier {arranged outcomes : List Outcome} (h : Arranges arranged outcomes) :
    arranged = (Ledger.mk outcomes).byTier := by
  rw [← Ledger.byTier_eq_self h.sorted, Ledger.byTier, Ledger.byTier]
  exact congrArg (Tier.all.flatMap ·) (funext h.stable)

/-- A stable sort arranges outcomes: those of one tier are in order before, and stay so. -/
theorem arranges_mergeSort (outcomes : List Outcome) :
    Arranges (outcomes.mergeSort fun a b => a.tier.rank ≤ b.tier.rank) outcomes := by
  have hperm := List.mergeSort_perm outcomes fun a b => a.tier.rank ≤ b.tier.rank
  have htrans : ∀ a b c : Outcome, decide (a.tier.rank ≤ b.tier.rank) = true →
      decide (b.tier.rank ≤ c.tier.rank) = true → decide (a.tier.rank ≤ c.tier.rank) = true := by
    simpa using fun a b c => Nat.le_trans
  have htotal : ∀ a b : Outcome,
      (decide (a.tier.rank ≤ b.tier.rank) || decide (b.tier.rank ≤ a.tier.rank)) = true := by
    simpa using fun a b => Nat.le_total _ _
  refine ⟨hperm, (List.pairwise_mergeSort htrans htotal outcomes).imp of_decide_eq_true,
    fun tier => ?_⟩
  have hsame : (outcomes.filter (·.tier = tier)).Pairwise
      fun a b => decide (a.tier.rank ≤ b.tier.rank) = true := by
    refine List.pairwise_of_forall_mem_list fun a ha b hb => ?_
    rw [List.mem_filter, decide_eq_true_eq] at ha hb
    exact decide_eq_true (Nat.le_of_eq (by rw [ha.2, hb.2]))
  have hsublist := List.sublist_mergeSort htrans htotal hsame List.filter_sublist
  have hfilter := hsublist.filter (·.tier = tier)
  rw [List.filter_filter] at hfilter
  simp only [Bool.and_self] at hfilter
  exact (hfilter.eq_of_length (hperm.filter _).length_eq.symm).symm

namespace Ledger

/-- The order of the tiers is that of a stable sort. -/
theorem byTier_eq_mergeSort (ledger : Ledger) :
    ledger.byTier = ledger.outcomes.mergeSort fun a b => a.tier.rank ≤ b.tier.rank :=
  (arranges_mergeSort ledger.outcomes).eq_byTier.symm

/-! ### Recording -/

theorem hasFailures_eq_true_iff {ledger : Ledger} :
    ledger.hasFailures = true ↔
      ∃ o ∈ ledger.outcomes, ∃ f ∈ o.findings, f.severity = .error := by
  simp only [hasFailures, List.any_eq_true, decide_eq_true_eq, Outcome.status_eq_fail_iff,
    Finding.isError]

end Ledger

/-- The first outcome of a tier in a report is the first one that was recorded. -/
theorem Report.outcome?_toReport (ledger : Ledger) (project : Path) (timestamp : Timestamp)
    (duration : UInt64) (tier : Tier) :
    (ledger.toReport project timestamp duration).outcome? tier =
      ledger.outcomes.find? (·.tier = tier) := by
  rw [outcome?, ← List.head?_filter, ← List.head?_filter]
  exact congrArg List.head? (ledger.filter_byTier tier)

namespace Ledger

/-- **From the ledger to the report.**  Whatever is recorded, also several outcomes of one tier:
after each of the outcomes the ledger has as many as were recorded, and knows of a failure exactly
if one of them has an error, so that a failure is never forgotten.  The report arranges the outcomes
by tier, as a stable sort does and nothing else.  It shows the first outcome of each tier, and the
findings of all, tier by tier. -/
theorem toReport_recorded (outcomes : List Outcome) :
    (∀ n, let ledger := (outcomes.take n).foldl record .empty
      ledger.size = min n outcomes.length ∧
      (ledger.hasFailures = true ↔
        ∃ o ∈ outcomes.take n, ∃ f ∈ o.findings, f.severity = .error) ∧
      ∀ later, n ≤ later → ledger.hasFailures = true →
        ((outcomes.take later).foldl record .empty).hasFailures = true) ∧
    ∀ project timestamp duration,
      let report := (outcomes.foldl record .empty).toReport project timestamp duration
      Arranges report.tiers outcomes ∧
      (∀ arranged, Arranges arranged outcomes → arranged = report.tiers) ∧
      report.tiers = outcomes.mergeSort (fun a b => a.tier.rank ≤ b.tier.rank) ∧
      (∀ tier, report.outcome? tier = outcomes.find? (·.tier = tier)) ∧
      report.findings = Tier.all.flatMap (fun tier =>
        (outcomes.filter (·.tier = tier)).flatMap (·.findings)) ∧
      report.findings.Perm (outcomes.flatMap (·.findings)) := by
  have hfailures : ∀ n, ((outcomes.take n).foldl record .empty).hasFailures = true ↔
      ∃ o ∈ outcomes.take n, ∃ f ∈ o.findings, f.severity = .error := fun n => by
    rw [hasFailures_eq_true_iff, outcomes_foldl_record]
  refine ⟨fun n => ⟨?_, hfailures n, fun later hlater h => ?_⟩,
    fun project timestamp duration => ?_⟩
  · rw [size, outcomes_foldl_record, List.length_take]
  · obtain ⟨o, ho, herror⟩ := (hfailures n).mp h
    exact (hfailures later).mpr ⟨o, (List.take_sublist_take_left hlater).subset ho, herror⟩
  · have hledger : outcomes.foldl record .empty = ⟨outcomes⟩ :=
      congrArg mk (outcomes_foldl_record outcomes)
    rw [hledger]
    refine ⟨arranges_byTier _, fun arranged h => h.eq_byTier,
      byTier_eq_mergeSort _, Report.outcome?_toReport _ _ _ _, ?_, ?_⟩
    · exact List.flatMap_assoc ..
    · exact (byTier_perm _).flatMap_right _

/-- Two outcomes of one tier, of which only the second has an error, and one of an earlier tier. -/
def repeatedTier : List Outcome :=
  [⟨.uat, "UATSubstvarValidation", none, [.of .uat .missingTierFile], 1⟩,
    ⟨.uat, "UATSubstvarValidation", none, [.of .uat .aborted], 2⟩,
    ⟨.it, "ITSubstvarValidation", none, [], 3⟩]

/-- The failure is not forgotten, and the two outcomes of one tier are not exchanged. -/
theorem toReport_recorded_repeatedTier :
    let ledger := repeatedTier.foldl record .empty
    let arranged := repeatedTier.drop 2 ++ repeatedTier.take 2
    ((repeatedTier.take 2).foldl record .empty).hasFailures = true ∧
      ledger.hasFailures = true ∧
      Arranges arranged repeatedTier ∧
      arranged = (ledger.toReport ⟨"/ws/App.module"⟩ ⟨0, 0⟩ 9).tiers := by
  intro ledger arranged
  have hfailure : ((repeatedTier.take 2).foldl record .empty).hasFailures = true := by decide
  have harranges : Arranges arranged repeatedTier :=
    ⟨by decide, by decide, fun tier => by cases tier <;> rfl⟩
  obtain ⟨hrecorded, hreport⟩ := toReport_recorded repeatedTier
  exact ⟨hfailure, (hrecorded 2).2.2 3 (by decide) hfailure, harranges,
    (hreport ⟨"/ws/App.module"⟩ ⟨0, 0⟩ 9).2.1 arranged harranges⟩

end Ledger

end TierAudit
