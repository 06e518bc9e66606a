import Mathlib.Data.List.Basic
import TierAudit.Program
import TierAudit.Proofs.CommandLine.Readable
import TierAudit.Proofs.Report.ExitCode

/-!
# Program — exit codes

Which runs end with which exit code (`exitCode_run`).  A command line that is wrong and a report
with nothing but warnings end in the same code, so that 2 alone does not tell whether anything was
checked.  A value on the command line or in the environment that cannot be read belongs to the
former: it stops a run before any command begins, and never with the code of commands that cannot
be carried out.
-/

namespace TierAudit

/-! ### Reports -/

/-- A report with warnings only, if its findings can be counted. -/
theorem Report.exitCode_summary_eq_two_iff {report : Report}
    (h : report.findings.length < UInt32.size) :
    report.summary.exitCode = 2 ↔
      (∃ f ∈ report.findings, f.isError = false) ∧ ∀ f ∈ report.findings, f.isError = false := by
  have herrors : 0 < report.summary.errors ↔ ∃ f ∈ report.findings, f.isError = true :=
    Summary.counts_errors.pos_iff h
  have hwarnings : 0 < report.summary.warnings ↔ ∃ f ∈ report.findings, (!f.isError) = true :=
    Summary.counts_warnings.pos_iff h
  simp only [Bool.not_eq_true'] at hwarnings
  have hnone : (∀ f ∈ report.findings, f.isError = false) ↔ ¬ 0 < report.summary.errors := by
    simp [herrors]
  rw [← hwarnings, hnone, Summary.exitCode]
  split
  · next herror => exact iff_of_false (by decide) fun hcode => hcode.2 herror
  · next hnoerror =>
    split
    · next hwarning => exact iff_of_true rfl ⟨hwarning, hnoerror⟩
    · next hnowarning => exact iff_of_false (by decide) fun hcode => hnowarning hcode.1

theorem Summary.exitCode_le_two (summary : Summary) : summary.exitCode ≤ 2 := by
  unfold exitCode
  split
  · decide
  · split <;> decide

namespace Program
open CommandLine

/-! ### How a run ends -/

/-- The command line gives the command, and it is not broken off for its log. -/
def Begins (invocation : Invocation) (command : Command) : Prop :=
  Command.read invocation.environment invocation.arguments = .ok command ∧
    ∃ filter, logFilter invocation.environment command = .ok filter

/-- Why a command is not carried out. -/
inductive Stops (files : FileSystem) : Command → Prop where
  | file {path : Path} {format : Format} {error : Substvar.FileError} :
      Substvar.load files path = .error error → Stops files (.parse path format)
  | config {options : CheckOptions} {error : ConfigError} :
      Config.ofOptions files options = .error error → Stops files (.check options)
  | project {options : CheckOptions} {config : Config} :
      Config.ofOptions files options = .ok config → files.directory? options.project = none →
        Stops files (.check options)
  | profiles {options : CheckOptions} {config : Config} {error : ConfigError} :
      Config.ofOptions files options = .ok config → config.profiles = .error error →
        Stops files (.check options)

/-- A check was run and this is its report. -/
def Reports (invocation : Invocation) (report : Report) : Prop :=
  ∃ options, Begins invocation (.check options) ∧ Program.report invocation options = .ok report

/-- What a command comes to: only a check comes to a report. -/
def result (invocation : Invocation) : Command → Except Failure (Option Report)
  | .version | .list => .ok none
  | .parse path _ => ((Substvar.load invocation.files path).mapError .file).map fun _ => none
  | .check options => (report invocation options).map some

section
variable {invocation : Invocation} {command : Command}

theorem exists_error_report_iff {options : CheckOptions} :
    (∃ failure, report invocation options = .error failure) ↔
      Stops invocation.files (.check options) := by
  unfold report
  constructor
  · rintro ⟨failure, hfailure⟩
    cases hconfig : Config.ofOptions invocation.files options with
    | error error => exact .config hconfig
    | ok config =>
      simp only [hconfig, Preflight.run] at hfailure
      cases hproject : invocation.files.directory? options.project with
      | none => exact .project hconfig hproject
      | some location =>
        cases hprofiles : config.profiles with
        | error error => exact .profiles hconfig hprofiles
        | ok profiles =>
          simp only [hproject, hprofiles] at hfailure
          cases hfailure
  · intro hstops
    cases hstops with
    | config hconfig =>
      simp only [hconfig]
      exact ⟨_, rfl⟩
    | project hconfig hproject =>
      simp only [hconfig, Preflight.run, hproject]
      exact ⟨_, rfl⟩
    | profiles hconfig hprofiles =>
      simp only [hconfig, Preflight.run, hprofiles]
      cases invocation.files.directory? options.project <;> exact ⟨_, rfl⟩

theorem exists_error_result_iff :
    (∃ failure, result invocation command = .error failure) ↔ Stops invocation.files command := by
  cases command with
  | version | list =>
    constructor
    · rintro ⟨failure, hfailure⟩
      cases hfailure
    · intro hstops
      cases hstops
  | parse path format =>
    constructor
    · rintro ⟨failure, hfailure⟩
      cases hload : Substvar.load invocation.files path with
      | error error => exact .file hload
      | ok vars =>
        simp only [result, hload] at hfailure
        cases hfailure
    · intro hstops
      cases hstops with
      | file hload =>
        simp only [result, hload]
        exact ⟨_, rfl⟩
  | check options =>
    rw [← exists_error_report_iff, result]
    cases report invocation options <;> simp [Except.map]

theorem exitCode_answer :
    (answer invocation command).exitCode =
      match result invocation command with
      | .error _ => failureCode
      | .ok none => 0
      | .ok (some report) => report.summary.exitCode := by
  cases command with
  | version | list => rfl
  | parse path format =>
    simp only [answer, result]
    cases Substvar.load invocation.files path <;> rfl
  | check options =>
    simp only [answer, result, check]
    cases report invocation options <;> rfl

theorem exitCode_answer_eq_three_iff :
    (answer invocation command).exitCode = failureCode ↔ Stops invocation.files command := by
  rw [exitCode_answer, ← exists_error_result_iff]
  cases result invocation command with
  | error failure => simp
  | ok found =>
    cases found with
    | none => simp [failureCode]
    | some report =>
      have hle := report.summary.exitCode_le_two
      simp only [failureCode, reduceCtorEq, exists_false, iff_false]
      omega

theorem exitCode_answer_eq_two_iff :
    (answer invocation command).exitCode = usageCode ↔
      ∃ report, result invocation command = .ok (some report) ∧ report.summary.exitCode = 2 := by
  rw [exitCode_answer]
  cases result invocation command with
  | error failure => simp [failureCode, usageCode]
  | ok found =>
    cases found with
    | none => simp [usageCode]
    | some report => simp [usageCode]

/-! ### Runs -/

/-- The exit code of a command that begins is that of its answer. -/
theorem exitCode_run_of_begins (h : Begins invocation command) :
    (run invocation).exitCode = (answer invocation command).exitCode := by
  obtain ⟨hread, filter, hfilter⟩ := h
  simp only [run, hread, perform, hfilter]

/-- A run in which no command begins is halted by its command line or breaks off. -/
theorem exitCode_run_of_not_begins (h : ∀ command, ¬ Begins invocation command) :
    (∃ halt, Command.read invocation.environment invocation.arguments = .error halt ∧
        (run invocation).exitCode = (halted halt).exitCode) ∨
      (∃ command, Command.read invocation.environment invocation.arguments = .ok command) ∧
        (run invocation).exitCode = abortCode := by
  cases hread : Command.read invocation.environment invocation.arguments with
  | error halt =>
    refine .inl ⟨halt, rfl, ?_⟩
    simp only [run, hread]
  | ok command =>
    refine .inr ⟨⟨command, rfl⟩, ?_⟩
    cases hfilter : logFilter invocation.environment command with
    | error fault =>
      simp only [run, hread, perform, hfilter]
      rfl
    | ok filter => exact absurd ⟨hread, filter, hfilter⟩ (h command)

/-- Only a check comes to a report. -/
theorem result_eq_some_iff {report : Report} :
    result invocation command = .ok (some report) ↔
      ∃ options, command = .check options ∧ Program.report invocation options = .ok report := by
  cases command with
  | version | list =>
    constructor
    · intro hresult
      cases hresult
    · rintro ⟨options, hcommand, -⟩
      cases hcommand
  | parse path format =>
    constructor
    · intro hresult
      obtain ⟨vars, -, hnone⟩ := map_eq_ok_iff.mp hresult
      cases hnone
    · rintro ⟨options, hcommand, -⟩
      cases hcommand
  | check options =>
    constructor
    · intro hresult
      obtain ⟨report', hreport, hsome⟩ := map_eq_ok_iff.mp hresult
      cases hsome
      exact ⟨options, rfl, hreport⟩
    · rintro ⟨options', hcommand, hreport⟩
      cases hcommand
      rw [result, hreport]
      rfl

theorem exitCode_run_eq_two_iff :
    (run invocation).exitCode = usageCode ↔
      (∃ error, Command.read invocation.environment invocation.arguments =
        .error (.usage error)) ∨
      ∃ report, Reports invocation report ∧ report.summary.exitCode = 2 := by
  by_cases hbegins : ∃ command, Begins invocation command
  · obtain ⟨command, hbegins⟩ := hbegins
    rw [exitCode_run_of_begins hbegins, exitCode_answer_eq_two_iff]
    constructor
    · rintro ⟨report, hresult, hcode⟩
      obtain ⟨options, rfl, hreport⟩ := result_eq_some_iff.mp hresult
      exact .inr ⟨report, ⟨options, hbegins, hreport⟩, hcode⟩
    · rintro (⟨error, herror⟩ | ⟨report, ⟨options, hbegins', hreport⟩, hcode⟩)
      · cases herror.symm.trans hbegins.1
      · cases hbegins.1.symm.trans hbegins'.1
        exact ⟨report, result_eq_some_iff.mpr ⟨options, rfl, hreport⟩, hcode⟩
  · rw [not_exists] at hbegins
    have hreports : ¬ ∃ report, Reports invocation report ∧ report.summary.exitCode = 2 := by
      rintro ⟨report, ⟨options, hcheck, -⟩, -⟩
      exact hbegins _ hcheck
    rw [or_iff_left hreports]
    rcases exitCode_run_of_not_begins hbegins with ⟨halt, hread, hcode⟩ | ⟨⟨command, hread⟩, hcode⟩
    · rw [hcode, hread]
      cases halt with
      | help | version => exact iff_of_false (by decide) (by rintro ⟨error, herror⟩; cases herror)
      | usage error => exact iff_of_true rfl ⟨error, rfl⟩
    · rw [hcode, hread]
      exact iff_of_false (by decide) (by rintro ⟨error, herror⟩; cases herror)

theorem exitCode_run_eq_three_iff :
    (run invocation).exitCode = failureCode ↔
      ∃ command, Begins invocation command ∧ Stops invocation.files command := by
  by_cases hbegins : ∃ command, Begins invocation command
  · obtain ⟨command, hbegins⟩ := hbegins
    rw [exitCode_run_of_begins hbegins, exitCode_answer_eq_three_iff]
    constructor
    · exact fun hstops => ⟨command, hbegins, hstops⟩
    · rintro ⟨command', hbegins', hstops⟩
      cases hbegins.1.symm.trans hbegins'.1
      exact hstops
  · rw [not_exists] at hbegins
    have hnone : ¬ ∃ command, Begins invocation command ∧ Stops invocation.files command :=
      fun ⟨command, hcommand, _⟩ => hbegins command hcommand
    refine iff_of_false ?_ hnone
    rcases exitCode_run_of_not_begins hbegins with ⟨halt, -, hcode⟩ | ⟨-, hcode⟩
    · rw [hcode]
      cases halt with
      | help | version => decide
      | usage error => exact (by decide : usageCode ≠ failureCode)
    · rw [hcode]
      decide

end

/-- **The exit codes of a run.**  Two is for a wrong command line and for a report that has warnings
only, and three for a command that has begun and is not carried out.  No command begins with a value
that cannot be read. -/
theorem exitCode_run (invocation : Invocation) :
    ((run invocation).exitCode = 2 ↔
      (∃ error, Command.read invocation.environment invocation.arguments =
        .error (.usage error)) ∨
      ∃ report, Reports invocation report ∧ report.summary.exitCode = 2) ∧
    ((run invocation).exitCode = 3 ↔
      ∃ command, Begins invocation command ∧ Stops invocation.files command) ∧
    (∀ command, Begins invocation command →
      IsReadable invocation.environment (Command.arguments invocation.arguments)) ∧
    ∀ report, Reports invocation report → report.findings.length < UInt32.size →
      (report.summary.exitCode = 2 ↔ (∃ f ∈ report.findings, f.isError = false) ∧
        ∀ f ∈ report.findings, f.isError = false) :=
  ⟨exitCode_run_eq_two_iff, exitCode_run_eq_three_iff,
    fun _ hbegins => Command.isReadable_of_read hbegins.1,
    fun _ _ hlt => Report.exitCode_summary_eq_two_iff hlt⟩

/-- A check of a tier that there is not, in the empty directory it is started from. -/
def unknownTierCheck : Invocation where
  arguments := ["--tier", "PROD"]
  environment := .empty
  files := default
  clock := default

/-- It ends as a report with warnings only would, although nothing is checked. -/
theorem exitCode_run_unknownTierCheck :
    (run unknownTierCheck).exitCode = 2 ∧ ¬ ∃ report, Reports unknownTierCheck report := by
  have hread : Command.read unknownTierCheck.environment unknownTierCheck.arguments =
      .error (.usage (.unreadableValue "--tier <TIER>" "PROD" (.unknownTier ⟨"PROD"⟩))) := by
    decide +kernel
  refine ⟨(exitCode_run unknownTierCheck).1.mpr (.inl ⟨_, hread⟩), ?_⟩
  rintro ⟨report, options, hbegins, -⟩
  cases hread.symm.trans hbegins.1

end Program
end TierAudit
