import TierAudit.Proofs.Config.Profiles
import TierAudit.Proofs.Preflight.Verdict
import TierAudit.Proofs.Schedule.Recording

/-!
# Preflight — how a run is scheduled

* `parallel_report`: checking tiers side by side gives the report of checking them one after
  another, in whatever order they are recorded; a run that stops at failures gives one report too.
* `failFast_report`: where such a run stops, and that nothing of this changes the exit code.

The tiers have to be distinct, as those of a configuration are (`Config.nodup_profiles`).
-/

namespace TierAudit

namespace Preflight
open Schedule (Recording)

/-- The reports that a run may end with: whatever the order of recording is, whenever it was and
however long it took. -/
def MayReport (fs : FileSystem) (project : Path) (schedule : Schedule) (profiles : List Profile)
    (report : Report) : Prop :=
  ∃ ledger timestamp duration, Recording schedule (checkTier fs project) profiles ledger ∧
    report = ledger.toReport project timestamp duration

section
variable {fs : FileSystem} {project : Path} {schedule : Schedule} {profiles : List Profile}
  {report : Report}

/-- Recording the tiers in the order in which they are given is one way to do it. -/
theorem mayReport_run (fs : FileSystem) (project : Path) (schedule : Schedule)
    (profiles : List Profile) (timestamp : Timestamp) (duration : UInt64) :
    MayReport fs project schedule profiles
      ((schedule.run (checkTier fs project) profiles).toReport project timestamp duration) :=
  ⟨_, timestamp, duration, Schedule.recording_run profiles, rfl⟩

theorem MayReport.holds (h : MayReport fs project schedule profiles report)
    (hdistinct : (profiles.map Profile.tier).Nodup) :
    report.Holds ((profiles.take (schedule.reach (checkTier fs project) profiles)).map
      (checkTier fs project)) := by
  obtain ⟨ledger, timestamp, duration, hrecording, rfl⟩ := h
  exact hrecording.holds tier_checkTier hdistinct project timestamp duration

/-- Without a stop at failures every profile has its outcome in the report. -/
theorem MayReport.holds_all (h : MayReport fs project schedule profiles report)
    (hdistinct : (profiles.map Profile.tier).Nodup) (hfast : schedule.failFast = false) :
    report.Holds (profiles.map (checkTier fs project)) := by
  have hholds := h.holds hdistinct
  rwa [Schedule.reach, hfast, if_neg Bool.false_ne_true, List.take_length] at hholds

end

/-- **Scheduling is invisible.**  The report on tiers that are checked side by side, in batches of
any size and recorded in any order, says what the report on tiers checked one after another says:
one outcome for each profile, in the order of the tiers.  If the run stops at failures, its report
does not depend on the order of recording either.  The profiles have to be of distinct tiers, as
those of a configuration are. -/
theorem parallel_report (fs : FileSystem) (project : Path) {profiles : List Profile}
    (hdistinct : (profiles.map Profile.tier).Nodup) :
    (∀ maxParallel maxParallel' report sequential,
      MayReport fs project ⟨true, false, maxParallel⟩ profiles report →
      MayReport fs project ⟨false, false, maxParallel'⟩ profiles sequential →
        report.contents = sequential.contents ∧
          report.Holds (profiles.map (checkTier fs project))) ∧
    (∀ maxParallel report report',
      MayReport fs project ⟨true, true, maxParallel⟩ profiles report →
      MayReport fs project ⟨true, true, maxParallel⟩ profiles report' →
        report.contents = report'.contents) ∧
    (∀ schedule timestamp duration, MayReport fs project schedule profiles
      ((schedule.run (checkTier fs project) profiles).toReport project timestamp duration)) ∧
    ∀ (config : Config) configured, config.profiles = .ok configured →
      (configured.map Profile.tier).Nodup := by
  refine ⟨fun m m' report sequential h h' => ?_, fun m report report' h h' => ?_,
    fun schedule timestamp duration => mayReport_run .., fun config configured =>
      Config.nodup_profiles⟩
  · have hholds := h.holds_all hdistinct rfl
    exact ⟨hholds.contents_eq (h'.holds_all hdistinct rfl), hholds⟩
  · exact (h.holds hdistinct).contents_eq (h'.holds hdistinct)

/-- A workspace with one tier file, which is empty and so declares nothing. -/
def emptyTierFile : FileSystem where
  root := workspaceTree [("b", .file .full [])] [("IT.substvar", .file .full [])]
  workingDirectory := .ofLocation []
  wellNamed := by decide +kernel
  anchored := by decide +kernel

def emptyTierFileProject : Path := ⟨"/ws/App.module"⟩

/-- Four tiers that are not given in their order. -/
def fourTiers : List Profile :=
  [.new .uat ⟨"/b"⟩, .new .it ⟨"/b"⟩, .new .st ⟨"/b"⟩, .new .dev4 ⟨"/b"⟩]

/-- The outcomes of the first two of them, the second recorded before the first. -/
def swappedOutcomes : List Outcome :=
  [{ checkTier emptyTierFile emptyTierFileProject (.new .it ⟨"/b"⟩) with duration := 3 },
    { checkTier emptyTierFile emptyTierFileProject (.new .uat ⟨"/b"⟩) with duration := 7 }]

def swappedReport : Report :=
  (Ledger.mk swappedOutcomes).toReport emptyTierFileProject ⟨0, 0⟩ 9

/-- Side by side the second tier may be recorded first. -/
theorem parallel_report_swapped :
    ((fourTiers.take 2).map Profile.tier).Nodup ∧
      MayReport emptyTierFile emptyTierFileProject ⟨true, false, 2⟩ (fourTiers.take 2)
        swappedReport ∧
      ∃ sequential, MayReport emptyTierFile emptyTierFileProject ⟨false, false, 0⟩
          (fourTiers.take 2) sequential ∧
        swappedReport.contents = sequential.contents := by
  have hdistinct : ((fourTiers.take 2).map Profile.tier).Nodup := by decide
  have hbatch : Schedule.MayRecord (checkTier emptyTierFile emptyTierFileProject)
      (fourTiers.take 2) swappedOutcomes := .swap _ _ _
  have hbatches : Schedule.batches ⟨true, false, 2⟩ (fourTiers.take 2) = [fourTiers.take 2] := by
    decide +kernel
  have hrecording : Recording ⟨true, false, 2⟩ (checkTier emptyTierFile emptyTierFileProject)
      (fourTiers.take 2) ⟨swappedOutcomes⟩ := by
    rw [Recording, hbatches]
    exact .next hbatch rfl .done
  have hswapped : MayReport emptyTierFile emptyTierFileProject ⟨true, false, 2⟩
      (fourTiers.take 2) swappedReport := ⟨_, ⟨0, 0⟩, 9, hrecording, rfl⟩
  obtain ⟨hparallel, -, hrun, -⟩ := parallel_report emptyTierFile emptyTierFileProject hdistinct
  have hsequential := hrun ⟨false, false, 0⟩ ⟨0, 0⟩ 0
  exact ⟨hdistinct, hswapped, _, hsequential, (hparallel 2 0 _ _ hswapped hsequential).1⟩

/-! ### Where a run stops -/

section
variable {fs : FileSystem} {project : Path} {profiles : List Profile}

/-- More of the profiles give more outcomes. -/
theorem contents_subset {report report' : Report} {n n' : Nat} (h : n ≤ n')
    (hholds : report.Holds ((profiles.take n).map (checkTier fs project)))
    (hholds' : report'.Holds ((profiles.take n').map (checkTier fs project))) :
    report.contents ⊆ report'.contents := by
  have htake : profiles.take n ⊆ profiles.take n' := (List.take_sublist_take_left h).subset
  exact fun o ho => hholds'.perm.mem_iff.mpr
    (List.map_subset _ (List.map_subset _ htake) (hholds.perm.mem_iff.mp ho))

end

/-- **Where a run stops that is to stop at failures**: at the end of the batch with the first tier
that fails, in the order in which the profiles are given.  The report holds the outcomes up to
there; checking one after another gives the fewest, not stopping gives all.  The exit code is the
same in any case, also for profiles that are given in another order. -/
theorem failFast_report (fs : FileSystem) (project : Path) {profiles : List Profile}
    (hdistinct : (profiles.map Profile.tier).Nodup) :
    (∀ parallel maxParallel report,
      MayReport fs project ⟨parallel, true, maxParallel⟩ profiles report →
        (∀ i, profiles.findIdx? (fun p => (checkTier fs project p).status = .fail) = some i →
          let size := if parallel then max maxParallel 1 else 1
          report.Holds ((profiles.take (min profiles.length (size * (i / size + 1)))).map
            (checkTier fs project))) ∧
        ((∀ p ∈ profiles, (checkTier fs project p).status ≠ .fail) →
          report.Holds (profiles.map (checkTier fs project)))) ∧
    (∀ maxParallel maxParallel' parallel maxParallel'' sequential batched full,
      MayReport fs project ⟨false, true, maxParallel⟩ profiles sequential →
      MayReport fs project ⟨true, true, maxParallel'⟩ profiles batched →
      MayReport fs project ⟨parallel, false, maxParallel''⟩ profiles full →
        sequential.contents ⊆ batched.contents ∧ batched.contents ⊆ full.contents) ∧
    ∀ schedule schedule' profiles' report report', profiles.Perm profiles' →
      MayReport fs project schedule profiles report →
      MayReport fs project schedule' profiles' report' →
      report.findings.length < UInt32.size → report'.findings.length < UInt32.size →
        report.summary.exitCode = report'.summary.exitCode := by
  refine ⟨fun parallel m report h => ⟨?_, ?_⟩, ?_, ?_⟩
  · intro i hi
    have hholds := h.holds hdistinct
    rwa [Schedule.reach_of_findIdx? rfl hi] at hholds
  · intro hnone
    have hholds := h.holds hdistinct
    rwa [Schedule.reach_of_forall_ne hnone, List.take_length] at hholds
  · intro m m' parallel m'' sequential batched full hsequential hbatched hfull
    have hall := hfull.holds_all hdistinct rfl
    rw [← List.take_length (l := profiles)] at hall
    exact ⟨contents_subset (Schedule.batchEnd_one_le (Schedule.batchSize_pos _) _ _)
        (hsequential.holds hdistinct) (hbatched.holds hdistinct),
      contents_subset (Schedule.reach_le_length ..) (hbatched.holds hdistinct) hall⟩
  · rintro schedule schedule' profiles' report report' hperm ⟨ledger, _, _, h, rfl⟩
      ⟨ledger', _, _, h', rfl⟩ hlt hlt'
    refine Summary.exitCode_congr hlt hlt' ?_ ?_
    · simp only [Ledger.toReport, Ledger.mem_byTier, h.exists_fail_iff, h'.exists_fail_iff,
        hperm.mem_iff]
    · simp only [Ledger.toReport, Ledger.mem_byTier, h.forall_clean_iff, h'.forall_clean_iff,
        hperm.mem_iff]

/-- The second of four tiers fails: batches of three end with the third, single tiers with the
second, and the exit code is that of a full run. -/
theorem failFast_report_fourTiers :
    (fourTiers.map Profile.tier).Nodup ∧
      fourTiers.findIdx? (fun p =>
        (checkTier emptyTierFile emptyTierFileProject p).status = .fail) = some 1 ∧
      ∃ sequential batched full,
        MayReport emptyTierFile emptyTierFileProject ⟨false, true, 3⟩ fourTiers sequential ∧
        MayReport emptyTierFile emptyTierFileProject ⟨true, true, 3⟩ fourTiers batched ∧
        MayReport emptyTierFile emptyTierFileProject ⟨true, false, 3⟩ fourTiers.reverse full ∧
        sequential.Holds
          ((fourTiers.take 2).map (checkTier emptyTierFile emptyTierFileProject)) ∧
        batched.Holds ((fourTiers.take 3).map (checkTier emptyTierFile emptyTierFileProject)) ∧
        batched.findings.length < UInt32.size ∧ full.findings.length < UInt32.size ∧
        batched.summary.exitCode = full.summary.exitCode := by
  have hdistinct : (fourTiers.map Profile.tier).Nodup := by decide
  have hfirst : fourTiers.findIdx? (fun p =>
      (checkTier emptyTierFile emptyTierFileProject p).status = .fail) = some 1 := by
    decide +kernel
  obtain ⟨hstop, -, hcode⟩ := failFast_report emptyTierFile emptyTierFileProject hdistinct
  have hsequential := mayReport_run emptyTierFile emptyTierFileProject
    ⟨false, true, 3⟩ fourTiers ⟨0, 0⟩ 0
  have hbatched := mayReport_run emptyTierFile emptyTierFileProject
    ⟨true, true, 3⟩ fourTiers ⟨0, 0⟩ 0
  have hfull := mayReport_run emptyTierFile emptyTierFileProject
    ⟨true, false, 3⟩ fourTiers.reverse ⟨0, 0⟩ 0
  refine ⟨hdistinct, hfirst, _, _, _, hsequential, hbatched, hfull,
    (hstop false 3 _ hsequential).1 1 hfirst, (hstop true 3 _ hbatched).1 1 hfirst,
    by decide +kernel, by decide +kernel, ?_⟩
  exact hcode _ _ _ _ _ (List.reverse_perm _).symm hbatched hfull (by decide +kernel)
    (by decide +kernel)

end Preflight

end TierAudit
