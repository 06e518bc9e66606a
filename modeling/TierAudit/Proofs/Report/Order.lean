import Mathlib.Data.List.Perm.Basic
import TierAudit.Report.Ledger

/-!
# Report — the order of the tiers

A report has the outcomes of its ledger, each as often as it was recorded, in the order of the tiers
(`byTier_perm`, `pairwise_byTier`).  Of outcomes of distinct tiers there is only one such list: what
a report says does not depend on the order in which they were recorded (`contents_eq`).
-/

namespace TierAudit

namespace Outcome

/-- An outcome apart from the time that its check took. -/
def untimed (outcome : Outcome) : Outcome := { outcome with duration := 0 }

@[simp] theorem tier_untimed (outcome : Outcome) : outcome.untimed.tier = outcome.tier := rfl

@[simp] theorem status_untimed (outcome : Outcome) : outcome.untimed.status = outcome.status := rfl

/-- The order of the tiers, for outcomes of different tiers. -/
def Precedes (a b : Outcome) : Prop := a.tier.rank < b.tier.rank

/-- Outcomes are in the order of the tiers in one way only. -/
theorem eq_of_perm {as bs : List Outcome} (h : as.Perm bs) (ha : as.Pairwise Precedes)
    (hb : bs.Pairwise Precedes) : as = bs :=
  h.eq_of_pairwise (fun _ _ _ _ hab hba => absurd hba (Nat.lt_asymm hab)) ha hb

end Outcome

namespace Ledger

/-- Recording one outcome after another is recording them all. -/
theorem foldl_record (outcomes : List Outcome) (ledger : Ledger) :
    outcomes.foldl record ledger = ledger.recordAll outcomes := by
  induction outcomes generalizing ledger with
  | nil => exact congrArg Ledger.mk (List.append_nil _).symm
  | cons o rest ih =>
      rw [List.foldl_cons, ih, recordAll, record, recordAll, List.append_assoc,
        List.singleton_append]

/-- What is recorded from the beginning is all that there is. -/
theorem outcomes_foldl_record (outcomes : List Outcome) :
    (outcomes.foldl record .empty).outcomes = outcomes := by
  rw [foldl_record]
  rfl

theorem byTier_cons (outcome : Outcome) (outcomes : List Outcome) :
    (Ledger.mk (outcome :: outcomes)).byTier.Perm (outcome :: (Ledger.mk outcomes).byTier) := by
  -- In front of the outcomes of each tier the new one stands if it is of that tier.
  have hsplit : ∀ tier, (outcome :: outcomes).filter (fun o => decide (o.tier = tier)) =
      [outcome].filter (fun o => decide (o.tier = tier)) ++
        outcomes.filter (fun o => decide (o.tier = tier)) :=
    fun tier => List.filter_append (p := _) [outcome] outcomes
  have hone : (Tier.all.flatMap fun tier => [outcome].filter fun o => decide (o.tier = tier)) =
      [outcome] := by
    cases htier : outcome.tier <;> simp [Tier.all, htier]
  unfold byTier
  simp only [hsplit]
  refine (List.flatMap_append_perm _ _ _).symm.trans ?_
  rw [hone, List.singleton_append]

/-- The order of the tiers leaves nothing out and adds nothing. -/
theorem byTier_perm (ledger : Ledger) : ledger.byTier.Perm ledger.outcomes := by
  obtain ⟨outcomes⟩ := ledger
  induction outcomes with
  | nil => exact .refl _
  | cons outcome rest ih => exact (byTier_cons outcome rest).trans (ih.cons outcome)

theorem mem_byTier {ledger : Ledger} {outcome : Outcome} :
    outcome ∈ ledger.byTier ↔ outcome ∈ ledger.outcomes :=
  ledger.byTier_perm.mem_iff

/-- Tiers come in their order. -/
theorem sorted_byTier (ledger : Ledger) :
    ledger.byTier.Pairwise fun a b => a.tier.rank ≤ b.tier.rank := by
  have htiers : Tier.all.Pairwise fun s t => s.rank ≤ t.rank := by decide
  refine List.pairwise_flatMap.mpr ⟨fun tier _ => ?_, htiers.imp fun hst a ha b hb => ?_⟩
  · refine List.pairwise_of_forall_mem_list fun a ha b hb => ?_
    rw [List.mem_filter, decide_eq_true_eq] at ha hb
    exact Nat.le_of_eq (by rw [ha.2, hb.2])
  · rw [List.mem_filter, decide_eq_true_eq] at ha hb
    rw [ha.2, hb.2]
    exact hst

/-- If the tiers are distinct, each outcome precedes those behind it. -/
theorem pairwise_byTier {ledger : Ledger} (h : (ledger.outcomes.map Outcome.tier).Nodup) :
    ledger.byTier.Pairwise Outcome.Precedes := by
  have hne : ledger.byTier.Pairwise fun a b => a.tier ≠ b.tier :=
    List.pairwise_map.mp ((ledger.byTier_perm.map Outcome.tier).nodup_iff.mpr h)
  exact ledger.sorted_byTier.imp₂
    (fun a b hab hnab => Nat.lt_of_le_of_ne hab (mt Tier.rank_injective hnab)) hne

end Ledger

namespace Report

/-- What a report says of the tiers, apart from times. -/
def contents (report : Report) : List Outcome := report.tiers.map Outcome.untimed

/-- A report has exactly the given outcomes, whatever time their checks took, and these stand in the
order of the tiers. -/
structure Holds (report : Report) (outcomes : List Outcome) : Prop where
  perm : report.contents.Perm (outcomes.map Outcome.untimed)
  sorted : report.tiers.Pairwise Outcome.Precedes

theorem Holds.sorted_contents {report : Report} {outcomes : List Outcome}
    (h : report.Holds outcomes) : report.contents.Pairwise Outcome.Precedes :=
  List.pairwise_map.mpr h.sorted

/-- There is only one way to put outcomes into the order of the tiers. -/
theorem Holds.contents_eq {report report' : Report} {outcomes : List Outcome}
    (h : report.Holds outcomes) (h' : report'.Holds outcomes) :
    report.contents = report'.contents :=
  Outcome.eq_of_perm (h.perm.trans h'.perm.symm) h.sorted_contents h'.sorted_contents

/-- The report on a ledger holds what was recorded, in whatever order that was. -/
theorem holds_toReport {ledger : Ledger} {outcomes : List Outcome} (project : Path)
    (timestamp : Timestamp) (duration : UInt64)
    (hdistinct : (outcomes.map Outcome.tier).Nodup)
    (h : (ledger.outcomes.map Outcome.untimed).Perm (outcomes.map Outcome.untimed)) :
    (ledger.toReport project timestamp duration).Holds outcomes := by
  have htiers : (ledger.outcomes.map Outcome.tier).Perm (outcomes.map Outcome.tier) := by
    simpa [List.map_map, Function.comp_def] using h.map Outcome.tier
  exact ⟨(ledger.byTier_perm.map Outcome.untimed).trans h,
    Ledger.pairwise_byTier (htiers.nodup_iff.mpr hdistinct)⟩

end Report

end TierAudit
