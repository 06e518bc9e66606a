import TierAudit.Proofs.Config.Profiles
import TierAudit.Proofs.Except
import TierAudit.Proofs.Preflight.Shape
import TierAudit.Proofs.Report.Characters

/-!
# Preflight — the characters of a run's JUnit document

When the JUnit document on a run is made of characters of XML.  The names of the rules are, so it
depends on the texts that the findings repeat: if all that is told of the files is made of such
characters, the document is; but a file may declare any character by its number, and a finding
repeats it (`isXmlText_render_run`).
-/

namespace TierAudit.Preflight
open Markup

/-- All that is told of a file has a property: its names and values, or why it cannot be read. -/
def Tells (p : String → Prop) : Except Substvar.FileError Variables → Prop
  | .ok vars => vars.All p
  | .error error => p error.file ∧ p error.cause.message

section
variable {fs : FileSystem} {project : Path} {profile : Profile} {p : String → Prop}

theorem isXmlText_ruleKey (fs : FileSystem) (project : Path) (profile : Profile) :
    IsXmlText (checkTier fs project profile).ruleKey := by
  have hkey : (checkTier fs project profile).ruleKey = profile.rule.key := by
    unfold checkTier
    split <;> rfl
  rw [hkey, Profile.rule, Rule.ofTier, isXmlText_append]
  exact ⟨isXmlText_tierName _, by decide⟩

theorem repeats_onFile {vars : Except Substvar.FileError Variables} (h : Tells p vars)
    {error : Substvar.FileError} (herror : error ∈ failures vars) (tier : Tier) :
    (onFile tier error).Repeats p tier := by
  cases vars with
  | ok vars => cases herror
  | error e =>
      cases List.mem_singleton.mp herror
      exact ⟨_, rfl, List.forall_mem_cons.mpr ⟨h.1, List.forall_mem_singleton.mpr h.2⟩⟩

/-- What the findings on a tier repeat is the path of its baseline, the alternate identity, or told
of one of its files. -/
theorem repeats_of_mem_checkTier (hbaseline : p profile.baseline.text)
    (hidentity : p profile.credentials.alternateIdentity)
    (hfile : ∀ location, Workspace.tierFile fs project profile.tier.fileName = .ok location →
      Tells p (Substvar.load fs location.path))
    (hbase : Tells p (Substvar.load fs profile.baseline)) {finding : Finding}
    (hf : finding ∈ (checkTier fs project profile).findings) :
    finding.Repeats p profile.tier := by
  obtain ⟨shape, harises⟩ := exists_arises fs project profile
  cases shape with
  | missingFile =>
      rw [(fits_of_arises harises).2, List.mem_singleton] at hf
      exact ⟨_, hf, nofun⟩
  | invalidBaseline =>
      rw [(fits_of_arises harises).2, List.mem_singleton] at hf
      exact ⟨_, hf, List.forall_mem_singleton.mpr hbaseline⟩
  | unparsable =>
      obtain ⟨location, htier, hopen, hfail⟩ := harises
      rw [findings_of_unparsable htier hopen hfail] at hf
      obtain ⟨error, herror, rfl⟩ := List.mem_map.mp hf
      rcases List.mem_append.mp herror with herror | herror
      · exact repeats_onFile (hfile location htier) herror _
      · exact repeats_onFile hbase herror _
  | compared =>
      obtain ⟨location, vars, baseline, htier, hopen, hvars, hload⟩ := harises
      rw [findings_of_compared htier hopen hvars hload] at hf
      have hdeclared := hfile location htier
      rw [hvars] at hdeclared
      rw [hload] at hbase
      exact repeats_of_mem_check hdeclared hbase hidentity hf

/-- Every finding on a tier is on a defect. -/
theorem exists_defect_of_mem_checkTier {finding : Finding}
    (hf : finding ∈ (checkTier fs project profile).findings) :
    ∃ defect : Defect, finding = .of profile.tier defect := by
  have hany : ∀ vars, Tells (fun _ => True) vars := fun vars => by
    cases vars with
    | ok vars => exact fun _ _ => ⟨trivial, trivial⟩
    | error error => exact ⟨trivial, trivial⟩
  obtain ⟨defect, hdefect, -⟩ :=
    repeats_of_mem_checkTier trivial trivial (fun _ _ => hany _) (hany _) hf
  exact ⟨defect, hdefect⟩

end

section
variable {fs : FileSystem} {project : Path} {config : Config} {timestamp : Timestamp}
  {duration : UInt64} {report : Report}

/-- A run that ends with a report has checked profiles of the configuration. -/
theorem exists_of_run (h : run fs project config timestamp duration = .ok report) :
    ∃ location profiles, fs.directory? project = some location ∧ config.profiles = .ok profiles ∧
      ∀ outcome ∈ report.tiers, ∃ profile ∈ profiles,
        outcome = checkTier fs location.path profile := by
  unfold run at h
  cases hdirectory : fs.directory? project with
  | none => simp [hdirectory] at h
  | some location =>
      cases hprofiles : config.profiles with
      | error error => simp [hdirectory, hprofiles] at h
      | ok profiles =>
          simp only [hdirectory, hprofiles, Except.ok.injEq] at h
          refine ⟨location, profiles, rfl, rfl, fun outcome houtcome => ?_⟩
          rw [← h, Ledger.toReport, Ledger.mem_byTier, Schedule.outcomes_run] at houtcome
          obtain ⟨profile, hmem, rfl⟩ := List.mem_map.mp houtcome
          exact ⟨profile, List.mem_of_mem_take hmem, rfl⟩

/-- Every finding of a run is on a defect of its tier. -/
theorem exists_defect_of_run (h : run fs project config timestamp duration = .ok report)
    {finding : Finding} (hf : finding ∈ report.findings) :
    ∃ defect : Defect, finding = .of finding.tier defect := by
  obtain ⟨location, profiles, -, -, hchecked⟩ := exists_of_run h
  obtain ⟨outcome, houtcome, hf⟩ := List.mem_flatMap.mp hf
  obtain ⟨profile, -, rfl⟩ := hchecked outcome houtcome
  obtain ⟨defect, rfl⟩ := exists_defect_of_mem_checkTier hf
  exact ⟨defect, rfl⟩

/-- The document on a run depends on the messages of the findings. -/
theorem isXmlText_render_iff_of_run (h : run fs project config timestamp duration = .ok report) :
    IsXmlText (Junit.render report) ↔ ∀ finding ∈ report.findings, IsXmlText finding.message := by
  obtain ⟨location, profiles, -, -, hchecked⟩ := exists_of_run h
  simp only [Junit.isXmlText_render_iff, Report.findings, List.mem_flatMap]
  constructor
  · rintro hrender finding ⟨outcome, houtcome, hf⟩
    exact (hrender outcome houtcome).2 finding hf
  · intro hmessages outcome houtcome
    refine ⟨?_, fun finding hf => hmessages finding ⟨outcome, houtcome, hf⟩⟩
    obtain ⟨profile, -, rfl⟩ := hchecked outcome houtcome
    exact isXmlText_ruleKey fs location.path profile

end

/-- **The JUnit document on a run.**  Every finding is on a defect, and the document is made of
characters of XML exactly if the texts are that the defects repeat.  That is so if the alternate
identity and the paths of the baselines are made of them, and all that is told of the files. -/
theorem isXmlText_render_run {fs : FileSystem} {project : Path} {config : Config}
    {timestamp : Timestamp} {duration : UInt64} {report : Report}
    (h : run fs project config timestamp duration = .ok report) :
    (∀ finding ∈ report.findings, ∃ defect : Defect, finding = .of finding.tier defect) ∧
    (IsXmlText (Junit.render report) ↔
      ∀ finding ∈ report.findings, ∀ defect : Defect, finding = .of finding.tier defect →
        ∀ text ∈ defect.repeated, IsXmlText text) ∧
    ∀ location profiles, fs.directory? project = some location → config.profiles = .ok profiles →
      IsXmlText config.alternateIdentity →
      (∀ profile ∈ profiles, IsXmlText profile.baseline.text ∧
        Tells IsXmlText (Substvar.load fs profile.baseline) ∧
        ∀ file, Workspace.tierFile fs location.path profile.tier.fileName = .ok file →
          Tells IsXmlText (Substvar.load fs file.path)) →
        IsXmlText (Junit.render report) := by
  have hmessage : ∀ (finding : Finding) (defect : Defect), finding = .of finding.tier defect →
      (IsXmlText finding.message ↔ ∀ text ∈ defect.repeated, IsXmlText text) :=
    fun finding defect hdefect => by
      rw [hdefect]
      exact Defect.isXmlText_message_iff _ defect
  refine ⟨fun _ => exists_defect_of_run h, ?_, fun location profiles hlocation hprofiles hidentity
    hfiles => (isXmlText_render_iff_of_run h).mpr fun finding hf => ?_⟩
  · rw [isXmlText_render_iff_of_run h]
    refine forall₂_congr fun finding hf => ⟨fun hxml defect hdefect => ?_, fun hrepeated => ?_⟩
    · exact (hmessage finding defect hdefect).mp hxml
    · obtain ⟨defect, hdefect⟩ := exists_defect_of_run h hf
      exact (hmessage finding defect hdefect).mpr (hrepeated defect hdefect)
  · obtain ⟨location', profiles', hlocation', hprofiles', hchecked⟩ := exists_of_run h
    cases hlocation.symm.trans hlocation'
    cases hprofiles.symm.trans hprofiles'
    obtain ⟨outcome, houtcome, hf⟩ := List.mem_flatMap.mp hf
    obtain ⟨profile, hmem, rfl⟩ := hchecked outcome houtcome
    obtain ⟨hbaseline, hbase, hfile⟩ := hfiles profile hmem
    have hkeys : IsXmlText profile.credentials.alternateIdentity := by
      obtain ⟨tier, baseline, rfl⟩ := Config.exists_of_mem_profiles hprofiles hmem
      exact hidentity
    obtain ⟨defect, rfl, hrepeated⟩ := repeats_of_mem_checkTier hbaseline hkeys hfile hbase hf
    exact (Defect.isXmlText_message_iff _ defect).mpr hrepeated

/-- A workspace whose tier file declares a control character by its number. -/
def controlCharacter : FileSystem where
  root := workspaceTree [("other", .file .full (variableFile "x"))]
    [("IT.substvar", .file .full (variableFile "a&#1;b"))]
  workingDirectory := .ofLocation []
  wellNamed := by decide +kernel
  anchored := by decide +kernel

/-- The report on it. -/
def controlCharacterReport : Report :=
  ⟨⟨"/ws/App.module"⟩, ⟨0, 0⟩,
    [⟨.it, "ITSubstvarValidation", some ⟨"/ws/App/META-INF/IT.substvar"⟩,
      [.of .it (.variableMismatch "A" "x" "a\x01b")], 0⟩], 0⟩

/-- The finding repeats the character, and there is no way to write it in a document. -/
theorem isXmlText_render_run_controlCharacter :
    run controlCharacter ⟨"/ws/App.module"⟩ (Config.default.setBaseline .it ⟨"/other"⟩) ⟨0, 0⟩ 0 =
        .ok controlCharacterReport ∧
      ¬ IsXmlText (Junit.render controlCharacterReport) := by
  have hrun : run controlCharacter ⟨"/ws/App.module"⟩
      (Config.default.setBaseline .it ⟨"/other"⟩) ⟨0, 0⟩ 0 = .ok controlCharacterReport :=
    eq_ok_of_toOption (by decide +kernel)
  refine ⟨hrun, fun hrender => ?_⟩
  have hfound : IsXmlText "a\x01b" := (isXmlText_render_run hrun).2.1.mp hrender
    (.of .it (.variableMismatch "A" "x" "a\x01b")) (by decide) _ rfl "a\x01b" (by decide)
  exact absurd hfound (by decide)

end TierAudit.Preflight
