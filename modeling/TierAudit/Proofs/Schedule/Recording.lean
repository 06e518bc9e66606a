import TierAudit.Proofs.Report.Order
import TierAudit.Proofs.Schedule

/-!
# Schedules — the order of recording

The workers of a batch record their outcomes one after another, in an order that nothing determines,
and their checks take any time.  The next batch, and the decision whether there is one, waits for
all of them.  So whatever the orders are, a run ends in a ledger with the outcomes of the profiles
within its reach, as `Schedule.run` does (`Recording.agree`), and there is only one report on it.
-/

namespace TierAudit.Schedule

/-- What the workers of a batch may record: one outcome for each of its profiles, in any order and
whatever time the checks took. -/
def MayRecord (check : Profile → Outcome) (batch : List Profile) (recorded : List Outcome) : Prop :=
  (recorded.map Outcome.untimed).Perm (batch.map fun p => (check p).untimed)

/-- The ledgers that batches may end in, one batch after another. -/
inductive RecordsBatches (schedule : Schedule) (check : Profile → Outcome) :
    Ledger → List (List Profile) → Ledger → Prop where
  | done {ledger : Ledger} : RecordsBatches schedule check ledger [] ledger
  | stop {ledger : Ledger} {batch : List Profile} {rest : List (List Profile)}
      {recorded : List Outcome} (hbatch : MayRecord check batch recorded)
      (hstop : (schedule.failFast && (recorded.foldl Ledger.record ledger).hasFailures) = true) :
      RecordsBatches schedule check ledger (batch :: rest) (recorded.foldl Ledger.record ledger)
  | next {ledger ledger' : Ledger} {batch : List Profile} {rest : List (List Profile)}
      {recorded : List Outcome} (hbatch : MayRecord check batch recorded)
      (hgo : (schedule.failFast && (recorded.foldl Ledger.record ledger).hasFailures) = false)
      (hrest : RecordsBatches schedule check (recorded.foldl Ledger.record ledger) rest ledger') :
      RecordsBatches schedule check ledger (batch :: rest) ledger'

/-- The ledgers that a run may end in. -/
def Recording (schedule : Schedule) (check : Profile → Outcome) (profiles : List Profile)
    (ledger : Ledger) : Prop :=
  RecordsBatches schedule check .empty (schedule.batches profiles) ledger

/-- Two ledgers have the same outcomes, in any order and apart from times. -/
def Agree (a b : Ledger) : Prop :=
  (a.outcomes.map Outcome.untimed).Perm (b.outcomes.map Outcome.untimed)

section
variable {schedule : Schedule} {check : Profile → Outcome} {a b : Ledger}

/-- The statuses depend on neither order nor times. -/
theorem Agree.status_perm (h : Agree a b) :
    (a.outcomes.map Outcome.status).Perm (b.outcomes.map Outcome.status) := by
  simpa only [List.map_map, Function.comp_def, Outcome.status_untimed] using h.map Outcome.status

theorem Agree.hasFailures_eq (h : Agree a b) : a.hasFailures = b.hasFailures := by
  unfold Ledger.hasFailures
  have hany := @List.Perm.any_eq _ _ _ (fun s => decide (s = .fail)) h.status_perm
  simpa only [List.any_map, Function.comp_def] using hany

theorem Agree.record {batch : List Profile} {recorded : List Outcome} (h : Agree a b)
    (hbatch : MayRecord check batch recorded) :
    Agree (recorded.foldl Ledger.record a) (b.recordAll (batch.map check)) := by
  rw [Ledger.foldl_record]
  unfold Agree Ledger.recordAll
  rw [List.map_append, List.map_append, List.map_map]
  exact h.append hbatch

/-- Batches that are recorded in any order are recorded as if in the order of the profiles. -/
theorem RecordsBatches.agree {ledger : Ledger} {batches : List (List Profile)}
    (h : RecordsBatches schedule check a batches ledger) (hab : Agree a b) :
    Agree ledger (schedule.runBatches check b batches) := by
  induction h generalizing b with
  | done => exact hab
  | stop hbatch hstop =>
      have hrecord := hab.record hbatch
      rw [hrecord.hasFailures_eq] at hstop
      rw [runBatches, if_pos hstop]
      exact hrecord
  | next hbatch hgo hrest ih =>
      have hrecord := hab.record hbatch
      rw [hrecord.hasFailures_eq] at hgo
      rw [runBatches, if_neg (Bool.eq_false_iff.mp hgo)]
      exact ih hrecord

/-- The order of the profiles is one of the orders. -/
theorem recordsBatches_runBatches (ledger : Ledger) (batches : List (List Profile)) :
    RecordsBatches schedule check ledger batches (schedule.runBatches check ledger batches) := by
  induction batches generalizing ledger with
  | nil => exact .done
  | cons batch rest ih =>
      have hbatch : MayRecord check batch (batch.map check) := by
        rw [MayRecord, List.map_map]
        exact .refl _
      rw [runBatches, ← Ledger.foldl_record]
      split
      · next hstop => exact .stop hbatch hstop
      · next hgo => exact .next hbatch (Bool.not_eq_true _ ▸ hgo) (ih _)

theorem recording_run (profiles : List Profile) :
    Recording schedule check profiles (schedule.run check profiles) :=
  recordsBatches_runBatches _ _

theorem Recording.agree {profiles : List Profile} {ledger : Ledger}
    (h : Recording schedule check profiles ledger) : Agree ledger (schedule.run check profiles) :=
  RecordsBatches.agree h (.refl _)

/-- **What a run records, in whatever order**: one outcome for each profile within its reach, and
the report puts them into the order of the tiers. -/
theorem Recording.holds {profiles : List Profile} {ledger : Ledger}
    (h : Recording schedule check profiles ledger) (htier : ∀ p, (check p).tier = p.tier)
    (hdistinct : (profiles.map Profile.tier).Nodup) (project : Path) (timestamp : Timestamp)
    (duration : UInt64) :
    (ledger.toReport project timestamp duration).Holds
      ((profiles.take (schedule.reach check profiles)).map check) := by
  refine Report.holds_toReport project timestamp duration ?_ (outcomes_run .. ▸ h.agree)
  rw [List.map_map, show Outcome.tier ∘ check = Profile.tier from funext htier]
  exact hdistinct.sublist ((List.take_sublist _ _).map _)

/-- A failure is recorded in every schedule and every order. -/
theorem Recording.exists_fail_iff {profiles : List Profile} {ledger : Ledger}
    (h : Recording schedule check profiles ledger) :
    (∃ o ∈ ledger.outcomes, o.status = .fail) ↔ ∃ p ∈ profiles, (check p).status = .fail := by
  rw [← @exists_fail_run_iff schedule, ← List.mem_map, ← List.mem_map]
  exact h.agree.status_perm.mem_iff

/-- Nothing but clean outcomes is recorded only of tiers that are all clean. -/
theorem Recording.forall_clean_iff {profiles : List Profile} {ledger : Ledger}
    (h : Recording schedule check profiles ledger) :
    (∀ o ∈ ledger.outcomes, o.status = .clean) ↔ ∀ p ∈ profiles, (check p).status = .clean := by
  have hstatuses : ∀ outcomes : List Outcome, (∀ o ∈ outcomes, o.status = .clean) ↔
      ∀ s ∈ outcomes.map Outcome.status, s = .clean :=
    fun _ => by rw [List.forall_mem_map]
  rw [← @forall_clean_run_iff schedule, hstatuses, hstatuses]
  exact forall_congr' fun s => imp_congr_left h.agree.status_perm.mem_iff

end

end TierAudit.Schedule
