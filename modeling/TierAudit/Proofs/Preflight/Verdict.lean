import TierAudit.Preflight
import TierAudit.Proofs.Check.Agreement
import TierAudit.Proofs.Except
import TierAudit.Proofs.Report.ExitCode
import TierAudit.Proofs.Report.Order
import TierAudit.Proofs.Schedule
import TierAudit.Proofs.Substvar.Baseline

/-!
# Preflight — the verdict

A tier is consistent, defective or cannot be checked (`cases_checkTier`), and that is what the
status of its outcome says.  The exit code of a report says the same of all tiers together, however
the run is organised (`run_verdict`).
-/

namespace TierAudit.Preflight

section
variable (fs : FileSystem) (project : Path) (profile : Profile)

/-- There are a tier file and a baseline, both can be read, and they agree. -/
def Consistent : Prop :=
  ∃ location vars baseline,
    Workspace.tierFile fs project profile.tier.fileName = .ok location ∧
      fs.isFile profile.baseline = true ∧
      Substvar.load fs location.path = .ok vars ∧
      Substvar.load fs profile.baseline = .ok baseline ∧
      profile.Agrees vars baseline

/-- There are a tier file and a baseline that can be opened, but one of them cannot be read or they
do not agree. -/
def Defective : Prop :=
  ∃ location,
    Workspace.tierFile fs project profile.tier.fileName = .ok location ∧
      fs.Openable profile.baseline ∧
      ((∃ error, Substvar.load fs location.path = .error error) ∨
        (∃ error, Substvar.load fs profile.baseline = .error error) ∨
        ∃ vars baseline, Substvar.load fs location.path = .ok vars ∧
          Substvar.load fs profile.baseline = .ok baseline ∧ ¬ profile.Agrees vars baseline)

/-- There is no tier file, or the baseline is no regular file that can be opened. -/
def Unchecked : Prop :=
  (∃ failure, Workspace.tierFile fs project profile.tier.fileName = .error failure) ∨
    ¬ fs.Openable profile.baseline

end

section
variable {fs : FileSystem} {project : Path} {profile : Profile}

/-- A tier is in one of three states. -/
theorem cases_checkTier (fs : FileSystem) (project : Path) (profile : Profile) :
    Consistent fs project profile ∨ Defective fs project profile ∨
      Unchecked fs project profile := by
  cases htier : Workspace.tierFile fs project profile.tier.fileName with
  | error failure => exact .inr (.inr (.inl ⟨failure, htier⟩))
  | ok location =>
      by_cases hopen : fs.Openable profile.baseline
      · cases hvars : Substvar.load fs location.path with
        | error e => exact .inr (.inl ⟨location, htier, hopen, .inl ⟨e, hvars⟩⟩)
        | ok vars =>
            cases hbase : Substvar.load fs profile.baseline with
            | error e => exact .inr (.inl ⟨location, htier, hopen, .inr (.inl ⟨e, hbase⟩)⟩)
            | ok baseline =>
                by_cases h : profile.Agrees vars baseline
                · exact .inl ⟨location, vars, baseline, htier,
                    Substvar.isFile_of_openable hopen, hvars, hbase, h⟩
                · exact .inr (.inl ⟨location, htier, hopen,
                    .inr (.inr ⟨vars, baseline, hvars, hbase, h⟩)⟩)
      · exact .inr (.inr (.inr hopen))

/-! ### The status of a tier -/

theorem tier_checkTier (profile : Profile) : (checkTier fs project profile).tier = profile.tier := by
  unfold checkTier
  split <;> rfl

theorem findings_checkTier {location : Location}
    (h : Workspace.tierFile fs project profile.tier.fileName = .ok location) :
    (checkTier fs project profile).findings =
      compare profile (Substvar.load fs location.path)
        (Substvar.loadBaseline fs profile.baseline) := by
  unfold checkTier
  rw [h]

theorem status_of_consistent (h : Consistent fs project profile) :
    (checkTier fs project profile).status = .clean := by
  obtain ⟨location, vars, baseline, htier, hfile, hvars, hbase, hagrees⟩ := h
  rw [Outcome.status_eq_clean_iff, findings_checkTier htier,
    Substvar.loadBaseline_of_openable (Substvar.openable_of_load hfile hbase), hvars, hbase]
  exact Profile.check_eq_nil_iff.mpr hagrees

theorem status_of_defective (h : Defective fs project profile) :
    (checkTier fs project profile).status = .fail := by
  obtain ⟨location, htier, hopen, h⟩ := h
  rw [Outcome.status_eq_fail_iff, findings_checkTier htier,
    Substvar.loadBaseline_of_openable hopen]
  -- An unreadable file is an error of its own, whether the other file can be read or not.
  rcases h with ⟨e, hvars⟩ | ⟨e, hbase⟩ | ⟨vars, baseline, hvars, hbase, hagrees⟩
  · rw [hvars]
    cases Substvar.load fs profile.baseline with
    | error e' => exact ⟨_, List.mem_cons_self, rfl⟩
    | ok baseline => exact ⟨_, List.mem_cons_self, rfl⟩
  · rw [hbase]
    cases Substvar.load fs location.path with
    | error e' => exact ⟨_, List.mem_cons_self, rfl⟩
    | ok vars => exact ⟨_, List.mem_cons_self, rfl⟩
  · rw [hvars, hbase]
    obtain ⟨finding, hf⟩ := List.exists_mem_of_ne_nil _ (mt Profile.check_eq_nil_iff.mp hagrees)
    exact ⟨finding, hf, Profile.isError_of_mem_check hf⟩

/-- A baseline whose path is no good ends the check, whatever the tier file is. -/
theorem compare_of_not_openable (vars : Except Substvar.FileError Variables)
    (h : ¬ fs.Openable profile.baseline) :
    compare profile vars (Substvar.loadBaseline fs profile.baseline) =
      [.of profile.tier (.invalidBaseline profile.baseline)] := by
  obtain ⟨error, herror, hpath⟩ := Substvar.exists_loadBaseline_of_not_openable h
  rw [herror]
  cases error with
  | missing path => cases vars <;> rfl
  | notAFile path => cases vars <;> rfl
  | unreadable path error => cases vars <;> rfl
  | unparsable error => cases hpath

theorem status_of_unchecked (h : Unchecked fs project profile) :
    (checkTier fs project profile).status = .warn := by
  cases htier : Workspace.tierFile fs project profile.tier.fileName with
  | error failure =>
      unfold checkTier
      rw [htier]
      rfl
  | ok location =>
      rcases h with ⟨failure, h⟩ | hopen
      · rw [htier] at h
        cases h
      · have hfindings := findings_checkTier htier
        rw [compare_of_not_openable _ hopen] at hfindings
        unfold Outcome.status
        rw [hfindings]
        rfl

theorem status_eq_clean_iff :
    (checkTier fs project profile).status = .clean ↔ Consistent fs project profile := by
  refine ⟨fun hs => ?_, status_of_consistent⟩
  rcases cases_checkTier fs project profile with h | h | h
  · exact h
  · cases (status_of_defective h).symm.trans hs
  · cases (status_of_unchecked h).symm.trans hs

theorem status_eq_fail_iff :
    (checkTier fs project profile).status = .fail ↔ Defective fs project profile := by
  refine ⟨fun hs => ?_, status_of_defective⟩
  rcases cases_checkTier fs project profile with h | h | h
  · cases (status_of_consistent h).symm.trans hs
  · exact h
  · cases (status_of_unchecked h).symm.trans hs

end

/-! ### The exit code of a report -/

section
variable {fs : FileSystem} {project : Path} {profiles : List Profile}

/-- What the exit code says of the tiers, once the run of a schedule has been recorded. -/
theorem exitCode_toReport (schedule : Schedule) (timestamp : Timestamp) (duration : UInt64)
    (h : ((schedule.run (checkTier fs project) profiles).toReport project timestamp
      duration).findings.length < UInt32.size) :
    let report := (schedule.run (checkTier fs project) profiles).toReport project timestamp duration
    (report.summary.exitCode = 0 ↔ ∀ p ∈ profiles, Consistent fs project p) ∧
      (report.summary.exitCode = 1 ↔ ∃ p ∈ profiles, Defective fs project p) ∧
      (report.summary.exitCode = 2 ↔ (∀ p ∈ profiles, ¬ Defective fs project p) ∧
        ∃ p ∈ profiles, Unchecked fs project p) := by
  intro report
  have hzero : report.summary.exitCode = 0 ↔ ∀ p ∈ profiles, Consistent fs project p := by
    rw [Report.summary, Summary.exitCode_eq_zero_iff h]
    simp only [Ledger.toReport, Ledger.mem_byTier, Schedule.forall_clean_run_iff,
      status_eq_clean_iff]
  have hone : report.summary.exitCode = 1 ↔ ∃ p ∈ profiles, Defective fs project p := by
    rw [Report.summary, Summary.exitCode_eq_one_iff h]
    simp only [Ledger.toReport, Ledger.mem_byTier, Schedule.exists_fail_run_iff,
      status_eq_fail_iff]
  refine ⟨hzero, hone, ?_⟩
  rw [Summary.exitCode_eq_two_iff, Ne, Ne, hzero, hone]
  constructor
  · rintro ⟨hall, hnone⟩
    have hdefective : ∀ p ∈ profiles, ¬ Defective fs project p := fun p hp hd => hnone ⟨p, hp, hd⟩
    refine ⟨hdefective, ?_⟩
    -- Among tiers without a defect one that is not consistent cannot be checked.
    refine Classical.byContradiction fun hun => hall fun p hp => ?_
    rcases cases_checkTier fs project p with hc | hd | hu
    · exact hc
    · exact absurd hd (hdefective p hp)
    · exact absurd ⟨p, hp, hu⟩ hun
  · rintro ⟨hdefective, p, hp, hu⟩
    refine ⟨fun hall => ?_, fun ⟨q, hq, hd⟩ => hdefective q hq hd⟩
    cases (status_of_consistent (hall p hp)).symm.trans (status_of_unchecked hu)

end

/-- **The verdict on a project.**  A project that is a directory is refused if its location cannot
be found.  Otherwise a usable configuration gives a report, and unless its findings run over the
counters, its exit code is 0 if every tier is consistent, 1 if one is defective, and 2 if none is
defective but one cannot be checked. -/
theorem run_verdict {fs : FileSystem} {project : Path} {config : Config} {profiles : List Profile}
    (timestamp : Timestamp) (duration : UInt64) (hdirectory : fs.isDirectory project = true)
    (hprofiles : config.profiles = .ok profiles) :
    (∀ error, fs.resolve project = .error error →
      run fs project config timestamp duration = .error (.invalidProject project)) ∧
    ∀ location, fs.resolve project = .ok location →
      ∃ report, run fs project config timestamp duration = .ok report ∧
        (report.findings.length < UInt32.size →
          (report.summary.exitCode = 0 ↔ ∀ p ∈ profiles, Consistent fs location.path p) ∧
          (report.summary.exitCode = 1 ↔ ∃ p ∈ profiles, Defective fs location.path p) ∧
          (report.summary.exitCode = 2 ↔ (∀ p ∈ profiles, ¬ Defective fs location.path p) ∧
            ∃ p ∈ profiles, Unchecked fs location.path p)) := by
  constructor
  · intro error hresolve
    -- Being a directory is not enough: the check goes by the location from here on.
    have hnone : fs.directory? project = none := by
      simp [FileSystem.directory?, hresolve, Except.toOption]
    unfold run
    rw [hnone]
  · intro location hresolve
    have hsome : fs.directory? project = some location := by
      simp [FileSystem.directory?, hdirectory, hresolve, Except.toOption]
    refine ⟨_, ?_, exitCode_toReport config.schedule timestamp duration⟩
    unfold run
    rw [hsome]
    simp only [hprofiles]

/-- A project `/ws/App.module` on a disk without anything else, seen from a directory below the root
that has been removed. -/
def removedDirectory : FileSystem where
  root := .directory .full [("ws", .directory .full [("App.module", .emptyDirectory)])]
  workingDirectory := ⟨[], 1⟩
  wellNamed := by decide +kernel
  anchored := by decide +kernel

/-- A configuration of one tier whose baseline is missing. -/
def missingBaseline : Config := Config.default.setBaseline .it ⟨"b"⟩

/-- The absolute path of the project can be followed, and the tier cannot be checked. -/
theorem run_verdict_missingBaseline :
    removedDirectory.isDirectory ⟨"/ws/App.module"⟩ = true ∧
      missingBaseline.profiles = .ok [missingBaseline.profile .it ⟨"b"⟩] ∧
      ∃ report, run removedDirectory ⟨"/ws/App.module"⟩ missingBaseline ⟨0, 0⟩ 0 = .ok report ∧
        (report.findings.length < UInt32.size → report.summary.exitCode = 2) := by
  have hdirectory : removedDirectory.isDirectory ⟨"/ws/App.module"⟩ = true := by decide +kernel
  have hprofiles : missingBaseline.profiles = .ok [missingBaseline.profile .it ⟨"b"⟩] := rfl
  have hresolve : removedDirectory.resolve ⟨"/ws/App.module"⟩ = .ok ["ws", "App.module"] := by
    decide +kernel
  have hclosed : ¬ removedDirectory.Openable ⟨"b"⟩ := fun hopen => by
    have hfile : removedDirectory.isFile ⟨"b"⟩ = false := by decide +kernel
    cases hfile.symm.trans (Substvar.isFile_of_openable hopen)
  obtain ⟨report, hrun, hcode⟩ :=
    (run_verdict ⟨0, 0⟩ 0 hdirectory hprofiles).2 ["ws", "App.module"] hresolve
  refine ⟨hdirectory, hprofiles, report, hrun, fun hlt => (hcode hlt).2.2.mpr ⟨?_, ?_⟩⟩
  · rintro p hp ⟨location, -, h, -⟩
    rw [List.mem_singleton.mp hp] at h
    exact hclosed h
  · exact ⟨_, List.mem_singleton_self _, .inr hclosed⟩

/-! ### Beyond the verdict -/

/-- A project `/ws/App.module` beside the application that has its tier files, and other files outside
of the workspace. -/
def workspaceTree (others tierFiles : List (String × Node)) : Node :=
  .directory .full (others ++ [("ws", .directory .full [("App.module", .emptyDirectory),
    ("App", .directory .full [("META-INF", .directory .full tierFiles)])])])

/-- A file that declares nothing. -/
def nothingDeclared : Node := .file .full (Bytes.ofText "<r/>")

/-- A tier file, and a file that may not be opened. -/
def closedBaseline : FileSystem where
  root := workspaceTree [("closed", .file ⟨false, false⟩ [])] [("IT.substvar", nothingDeclared)]
  workingDirectory := .ofLocation []
  wellNamed := by decide +kernel
  anchored := by decide +kernel

/-- A configuration of one tier with this file as the baseline. -/
def closedBaselineConfig : Config := Config.default.setBaseline .it ⟨"/closed"⟩

/-- **What a directory and a regular file are not enough for.**  A relative path leads to a project,
but it has no location: the project is refused, although it is a directory and the configuration is
usable.  And of a baseline that is a regular file no variables are known if it may not be opened, but
that is no defect of its tier: the exit code is 2. -/
theorem run_refused_and_unopened :
    (removedDirectory.isDirectory ⟨"../ws/App.module"⟩ = true ∧
      missingBaseline.profiles = .ok [missingBaseline.profile .it ⟨"b"⟩] ∧
      run removedDirectory ⟨"../ws/App.module"⟩ missingBaseline ⟨0, 0⟩ 0 =
        .error (.invalidProject ⟨"../ws/App.module"⟩)) ∧
    let project : Path := ⟨"/ws/App.module"⟩
    closedBaseline.isDirectory project = true ∧
      closedBaselineConfig.profiles = .ok [closedBaselineConfig.profile .it ⟨"/closed"⟩] ∧
      Workspace.tierFile closedBaseline project "IT.substvar" =
        .ok ["ws", "App", "META-INF", "IT.substvar"] ∧
      closedBaseline.isFile ⟨"/closed"⟩ = true ∧
      Substvar.load closedBaseline ⟨"/closed"⟩ =
        .error ⟨"closed", .unreadable .permissionDenied⟩ ∧
      ∃ report, run closedBaseline project closedBaselineConfig ⟨0, 0⟩ 0 = .ok report ∧
        report.findings.length < UInt32.size ∧ report.summary.exitCode = 2 := by
  refine ⟨⟨by decide +kernel, rfl, rfl⟩, ?_⟩
  intro project
  have hrun : (run closedBaseline project closedBaselineConfig ⟨0, 0⟩ 0).toOption.map
      (fun report => (report.findings.length, report.summary.exitCode)) = some (1, 2) := by
    decide +kernel
  obtain ⟨report, hreport, hverdict⟩ := Option.map_eq_some_iff.mp hrun
  obtain ⟨hlength, hcode⟩ := Prod.mk.inj hverdict
  refine ⟨by decide +kernel, rfl, eq_ok_of_toOption (by decide +kernel), by decide +kernel,
    by decide +kernel, report, eq_ok_of_toOption hreport, ?_, hcode⟩
  rw [hlength]
  decide

end TierAudit.Preflight
