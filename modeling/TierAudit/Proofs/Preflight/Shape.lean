import TierAudit.Proofs.Check.Differences
import TierAudit.Proofs.Preflight.Verdict

/-!
# Preflight — the shapes of an outcome

An outcome has one of four shapes (`Shape.Fits`), and what is in the file system tells which
(`Shape.Arises`): no tier file was found, the baseline is no good, one of the two files cannot be
read, or they were compared.  Only the first two are warnings, and each of them stands alone
(`shape_checkTier`).
-/

namespace TierAudit.Preflight
open Text

/-- What the check of a tier may end with. -/
inductive Shape where
  | missingFile
  | invalidBaseline
  | unparsable
  | compared
  deriving DecidableEq, Repr

/-- The finding on a file that cannot be read. -/
def onFile (tier : Tier) (error : Substvar.FileError) : Finding :=
  .of tier (.unparsable error.file error.cause.message)

/-- Why a file cannot be read, if it cannot. -/
def failures : Except Substvar.FileError Variables → List Substvar.FileError
  | .ok _ => []
  | .error error => [error]

namespace Shape

/-- Whether all findings of a shape are errors. -/
def isError : Shape → Bool
  | missingFile | invalidBaseline => false
  | unparsable | compared => true

/-- What an outcome of each shape holds. -/
def Fits (profile : Profile) (outcome : Outcome) : Shape → Prop
  | missingFile =>
    outcome.tierFile = none ∧ outcome.findings = [.of profile.tier .missingTierFile]
  | invalidBaseline => (∃ file, outcome.tierFile = some file) ∧
    outcome.findings = [.of profile.tier (.invalidBaseline profile.baseline)]
  | unparsable => (∃ file, outcome.tierFile = some file) ∧
    ∃ errors : List Substvar.FileError, (errors.length = 1 ∨ errors.length = 2) ∧
      outcome.findings = errors.map (onFile profile.tier)
  | compared => (∃ file, outcome.tierFile = some file) ∧
    ∃ c : Comparison, outcome.findings = c.findings profile.tier ∧
      c.SuitsRule profile.credentialRule

/-- When each shape comes about. -/
def Arises (fs : FileSystem) (project : Path) (profile : Profile) : Shape → Prop
  | missingFile => ∃ failure, Workspace.tierFile fs project profile.tier.fileName = .error failure
  | invalidBaseline =>
    (∃ location, Workspace.tierFile fs project profile.tier.fileName = .ok location) ∧
      ¬ fs.Openable profile.baseline
  | unparsable => ∃ location,
    Workspace.tierFile fs project profile.tier.fileName = .ok location ∧
      fs.Openable profile.baseline ∧
      ((∃ e, Substvar.load fs location.path = .error e) ∨
        ∃ e, Substvar.load fs profile.baseline = .error e)
  | compared => ∃ location vars baseline,
    Workspace.tierFile fs project profile.tier.fileName = .ok location ∧
      fs.Openable profile.baseline ∧ Substvar.load fs location.path = .ok vars ∧
      Substvar.load fs profile.baseline = .ok baseline

end Shape

section
variable {fs : FileSystem} {project : Path} {profile : Profile} {outcome : Outcome}

/-! ### Telling the shapes apart -/

/-- The shape that the kind of the first finding gives away. -/
def shapeOf (outcome : Outcome) : Shape :=
  match outcome.tierFile, outcome.findings.head?.map Finding.kind with
  | none, _ => .missingFile
  | some _, some .invalidBaseline => .invalidBaseline
  | some _, some .parseError => .unparsable
  | some _, _ => .compared

theorem Shape.Fits.shapeOf_eq {shape : Shape} (h : shape.Fits profile outcome) :
    shapeOf outcome = shape := by
  obtain ⟨tier, ruleKey, tierFile, findings, duration⟩ := outcome
  cases shape with
  | missingFile =>
      obtain ⟨rfl, rfl⟩ := h
      rfl
  | invalidBaseline =>
      obtain ⟨⟨file, rfl⟩, rfl⟩ := h
      rfl
  | unparsable =>
      obtain ⟨⟨file, rfl⟩, errors, hlength, rfl⟩ := h
      cases errors with
      | nil => simp at hlength
      | cons e rest => rfl
  | compared =>
      obtain ⟨⟨file, rfl⟩, ⟨mismatches, schema, password⟩, rfl, -⟩ := h
      cases mismatches with
      | cons d rest => rfl
      | nil => cases schema <;> cases password <;> rfl

/-- An outcome has one shape at most. -/
theorem Shape.Fits.unique {shape shape' : Shape} (h : shape.Fits profile outcome)
    (h' : shape'.Fits profile outcome) : shape = shape' :=
  h.shapeOf_eq.symm.trans h'.shapeOf_eq

/-- All findings of an outcome are on its tier, and all are errors or all are warnings. -/
theorem Shape.Fits.of_mem {shape : Shape} (h : shape.Fits profile outcome) {finding : Finding}
    (hf : finding ∈ outcome.findings) :
    finding.tier = profile.tier ∧ finding.isError = shape.isError := by
  cases shape with
  | missingFile =>
      rw [h.2, List.mem_singleton] at hf
      rw [hf]
      exact ⟨rfl, rfl⟩
  | invalidBaseline =>
      rw [h.2, List.mem_singleton] at hf
      rw [hf]
      exact ⟨rfl, rfl⟩
  | unparsable =>
      obtain ⟨-, errors, -, hfindings⟩ := h
      rw [hfindings] at hf
      obtain ⟨e, -, rfl⟩ := List.mem_map.mp hf
      exact ⟨rfl, rfl⟩
  | compared =>
      obtain ⟨-, c, hfindings, -⟩ := h
      rw [hfindings, Comparison.findings, List.mem_append, List.mem_append] at hf
      rcases hf with (hf | hf) | hf
      all_goals
        obtain ⟨d, -, rfl⟩ := List.mem_map.mp hf
        exact ⟨rfl, rfl⟩

/-- Errors and warnings are never mixed. -/
theorem Shape.Fits.same_severity {shape : Shape} (h : shape.Fits profile outcome) :
    (∀ finding ∈ outcome.findings, finding.isError = true) ∨
      ∀ finding ∈ outcome.findings, finding.isError = false := by
  cases hs : shape.isError with
  | true => exact .inl fun _ hf => hs ▸ (h.of_mem hf).2
  | false => exact .inr fun _ hf => hs ▸ (h.of_mem hf).2

/-- A tier that is warned about is warned about once. -/
theorem Shape.Fits.length_of_warn {shape : Shape} (h : shape.Fits profile outcome)
    (hwarn : outcome.status = .warn) : outcome.findings.length = 1 := by
  have hne : outcome.findings ≠ [] := fun hnil => by
    cases hwarn.symm.trans (Outcome.status_eq_clean_iff.mpr hnil)
  obtain ⟨finding, hf⟩ := List.exists_mem_of_ne_nil _ hne
  have hwarning : shape.isError = false := by
    rw [← (h.of_mem hf).2, ← Bool.not_eq_true]
    intro herror
    cases hwarn.symm.trans (Outcome.status_eq_fail_iff.mpr ⟨finding, hf, herror⟩)
  cases shape with
  | missingFile => rw [h.2, List.length_singleton]
  | invalidBaseline => rw [h.2, List.length_singleton]
  | unparsable => cases hwarning
  | compared => cases hwarning

/-- Without a finding the files were compared. -/
theorem Shape.Fits.eq_compared {shape : Shape} (h : shape.Fits profile outcome)
    (hnil : outcome.findings = []) : shape = .compared := by
  cases shape with
  | missingFile =>
      rw [h.2] at hnil
      cases hnil
  | invalidBaseline =>
      rw [h.2] at hnil
      cases hnil
  | unparsable =>
      obtain ⟨-, errors, hlength, hfindings⟩ := h
      cases errors with
      | nil => simp at hlength
      | cons e rest =>
          rw [hfindings] at hnil
          cases hnil
  | compared => rfl

/-! ### What comes about -/

/-- One of the shapes comes about. -/
theorem exists_arises (fs : FileSystem) (project : Path) (profile : Profile) :
    ∃ shape : Shape, shape.Arises fs project profile := by
  cases htier : Workspace.tierFile fs project profile.tier.fileName with
  | error failure => exact ⟨.missingFile, failure, htier⟩
  | ok location =>
      by_cases hopen : fs.Openable profile.baseline
      · cases hvars : Substvar.load fs location.path with
        | error e => exact ⟨.unparsable, location, htier, hopen, .inl ⟨e, hvars⟩⟩
        | ok vars =>
            cases hbase : Substvar.load fs profile.baseline with
            | error e => exact ⟨.unparsable, location, htier, hopen, .inr ⟨e, hbase⟩⟩
            | ok baseline => exact ⟨.compared, location, vars, baseline, htier, hopen, hvars, hbase⟩
      · exact ⟨.invalidBaseline, ⟨location, htier⟩, hopen⟩

theorem tierFile_checkTier {location : Location}
    (h : Workspace.tierFile fs project profile.tier.fileName = .ok location) :
    (checkTier fs project profile).tierFile = some location.path := by
  unfold checkTier
  rw [h]

section
variable {vars baseline : Except Substvar.FileError Variables}

theorem length_failures (h : (∃ e, vars = .error e) ∨ ∃ e, baseline = .error e) :
    (failures vars ++ failures baseline).length = 1 ∨
      (failures vars ++ failures baseline).length = 2 := by
  rcases h with ⟨e, rfl⟩ | ⟨e, rfl⟩
  · cases baseline <;> simp [failures]
  · cases vars <;> simp [failures]

theorem compare_of_failure (h : (∃ e, vars = .error e) ∨ ∃ e, baseline = .error e) :
    compare profile vars (baseline.mapError .unparsable) =
      (failures vars ++ failures baseline).map (onFile profile.tier) := by
  rcases h with ⟨e, rfl⟩ | ⟨e, rfl⟩
  · cases baseline <;> rfl
  · cases vars <;> rfl

end

/-- The findings on two files of which one cannot be read, that on the tier file first. -/
theorem findings_of_unparsable {location : Location}
    (htier : Workspace.tierFile fs project profile.tier.fileName = .ok location)
    (hopen : fs.Openable profile.baseline)
    (hfail : (∃ e, Substvar.load fs location.path = .error e) ∨
      ∃ e, Substvar.load fs profile.baseline = .error e) :
    (checkTier fs project profile).findings =
      (failures (Substvar.load fs location.path) ++
        failures (Substvar.load fs profile.baseline)).map (onFile profile.tier) := by
  rw [findings_checkTier htier, Substvar.loadBaseline_of_openable hopen]
  exact compare_of_failure hfail

/-- The findings on two files that can be read. -/
theorem findings_of_compared {location : Location} {vars baseline : Variables}
    (htier : Workspace.tierFile fs project profile.tier.fileName = .ok location)
    (hopen : fs.Openable profile.baseline) (hvars : Substvar.load fs location.path = .ok vars)
    (hbase : Substvar.load fs profile.baseline = .ok baseline) :
    (checkTier fs project profile).findings = profile.check vars baseline := by
  rw [findings_checkTier htier, Substvar.loadBaseline_of_openable hopen, hvars, hbase]
  rfl

/-- The shape that comes about is that of the outcome. -/
theorem fits_of_arises {shape : Shape} (h : shape.Arises fs project profile) :
    shape.Fits profile (checkTier fs project profile) := by
  cases shape with
  | missingFile =>
      obtain ⟨failure, htier⟩ := h
      unfold checkTier
      rw [htier]
      exact ⟨rfl, rfl⟩
  | invalidBaseline =>
      obtain ⟨⟨location, htier⟩, hopen⟩ := h
      refine ⟨⟨_, tierFile_checkTier htier⟩, ?_⟩
      rw [findings_checkTier htier]
      exact compare_of_not_openable _ hopen
  | unparsable =>
      obtain ⟨location, htier, hopen, hfail⟩ := h
      exact ⟨⟨_, tierFile_checkTier htier⟩, _, length_failures hfail,
        findings_of_unparsable htier hopen hfail⟩
  | compared =>
      obtain ⟨location, vars, baseline, htier, hopen, hvars, hbase⟩ := h
      obtain ⟨c, hcheck, hrule, -⟩ := profile.exists_check_eq vars baseline
      refine ⟨⟨_, tierFile_checkTier htier⟩, c, ?_, hrule⟩
      rw [findings_of_compared htier hopen hvars hbase, hcheck]

theorem fits_iff_arises {shape : Shape} :
    shape.Fits profile (checkTier fs project profile) ↔ shape.Arises fs project profile := by
  refine ⟨fun h => ?_, fits_of_arises⟩
  obtain ⟨shape', h'⟩ := exists_arises fs project profile
  rw [h.unique (fits_of_arises h')]
  exact h'

end

/-- **The outcome of a check.**  It has exactly one of the four shapes, and what the file system
holds tells which.  Of two files of which one cannot be read, the finding on the tier file comes
first; of two files that are compared each variable that differs is listed, in the order of the
baseline.  So errors and warnings are never mixed, a tier is only ever warned about once, and a tier
is clean only if both files have been read. -/
theorem shape_checkTier (fs : FileSystem) (project : Path) (profile : Profile) :
    let outcome := checkTier fs project profile
    (outcome.tier = profile.tier ∧ ∀ finding ∈ outcome.findings, finding.tier = profile.tier) ∧
    (∃ shape : Shape, ∀ shape' : Shape, shape'.Fits profile outcome ↔ shape' = shape) ∧
    (∀ shape : Shape, shape.Fits profile outcome ↔ shape.Arises fs project profile) ∧
    (∀ location, Workspace.tierFile fs project profile.tier.fileName = .ok location →
      outcome.tierFile = some location.path) ∧
    (∀ location, Workspace.tierFile fs project profile.tier.fileName = .ok location →
      fs.Openable profile.baseline →
      ((∃ e, Substvar.load fs location.path = .error e) ∨
        (∃ e, Substvar.load fs profile.baseline = .error e) →
          outcome.findings = (failures (Substvar.load fs location.path) ++
            failures (Substvar.load fs profile.baseline)).map (onFile profile.tier)) ∧
      ∀ vars baseline, Substvar.load fs location.path = .ok vars →
        Substvar.load fs profile.baseline = .ok baseline →
        ∃ c : Comparison, outcome.findings = c.findings profile.tier ∧
          c.SuitsRule profile.credentialRule ∧
          ListsDifferences profile.exclusions vars baseline c.mismatches) ∧
    ((∀ finding ∈ outcome.findings, finding.isError = true) ∨
      ∀ finding ∈ outcome.findings, finding.isError = false) ∧
    (outcome.status = .warn → outcome.findings.length = 1) ∧
    (outcome.status = .clean → Shape.compared.Arises fs project profile) := by
  intro outcome
  obtain ⟨shape, harises⟩ := exists_arises fs project profile
  have hfits := fits_of_arises harises
  refine ⟨⟨tier_checkTier profile, fun _ hf => (hfits.of_mem hf).1⟩,
    ⟨shape, fun shape' => ⟨fun h => h.unique hfits, fun h => h ▸ hfits⟩⟩,
    fun _ => fits_iff_arises, fun _ => tierFile_checkTier,
    fun location htier hopen => ⟨findings_of_unparsable htier hopen,
      fun vars baseline hvars hbase => ?_⟩,
    hfits.same_severity, hfits.length_of_warn, fun hclean => ?_⟩
  · rw [findings_of_compared htier hopen hvars hbase]
    exact profile.exists_check_eq vars baseline
  · have hcompared := hfits.eq_compared (Outcome.status_eq_clean_iff.mp hclean)
    exact hcompared ▸ harises

/-- A file that declares one variable. -/
def variableFile (value : String) : Bytes :=
  Bytes.ofText ("<r><globalVariable><name>A</name><value>" ++ value ++
    "</value></globalVariable></r>")

/-- A workspace with one tier file, and beside it a file with another value, an empty one and one that
may not be opened. -/
def oneVariable : FileSystem where
  root := workspaceTree [("other", .file .full (variableFile "1")), ("empty", .file .full []),
      ("closed", .file ⟨false, false⟩ (variableFile "2"))]
    [("IT.substvar", .file .full (variableFile "2"))]
  workingDirectory := .ofLocation []
  wellNamed := by decide +kernel
  anchored := by decide +kernel

/-- The check of its tier against a baseline. -/
def checkOneVariable (baseline : Path) : Outcome :=
  checkTier oneVariable ⟨"/ws/App.module"⟩ (.new .it baseline)

/-- As a baseline the other file differs in the variable, the empty one cannot be read, a directory
is no good, nor is the file that may not be opened, and the tier file agrees with itself. -/
theorem shape_checkTier_oneVariable :
    Shape.compared.Fits (.new .it ⟨"/other"⟩) (checkOneVariable ⟨"/other"⟩) ∧
      (checkOneVariable ⟨"/empty"⟩).findings = [onFile .it ⟨"empty", .noRoot⟩] ∧
      (checkOneVariable ⟨"/ws"⟩).findings.length = 1 ∧
      Shape.invalidBaseline.Fits (.new .it ⟨"/closed"⟩) (checkOneVariable ⟨"/closed"⟩) ∧
      Shape.compared.Arises oneVariable ⟨"/ws/App.module"⟩
        (.new .it ⟨"/ws/App/META-INF/IT.substvar"⟩) := by
  have htier : Workspace.tierFile oneVariable ⟨"/ws/App.module"⟩ Tier.it.fileName =
      .ok ["ws", "App", "META-INF", "IT.substvar"] := by decide +kernel
  have hshape := fun baseline => shape_checkTier oneVariable ⟨"/ws/App.module"⟩ (.new .it baseline)
  refine ⟨?_, ?_, ?_, ?_, ?_⟩
  · have hopen : oneVariable.Openable ⟨"/other"⟩ :=
      Substvar.checkBaseline_eq_ok_iff.mp (by decide +kernel)
    refine ((hshape ⟨"/other"⟩).2.2.1 .compared).mpr ⟨_, .ofList [("A", "2")], .ofList [("A", "1")],
      htier, hopen, by decide +kernel, by decide +kernel⟩
  · have hopen : oneVariable.Openable ⟨"/empty"⟩ :=
      Substvar.checkBaseline_eq_ok_iff.mp (by decide +kernel)
    have hempty : Substvar.load oneVariable ⟨"/empty"⟩ = .error ⟨"empty", .noRoot⟩ := by
      decide +kernel
    refine (((hshape ⟨"/empty"⟩).2.2.2.2.1 _ htier hopen).1 (.inr ⟨_, hempty⟩)).trans ?_
    decide +kernel
  · exact (hshape ⟨"/ws"⟩).2.2.2.2.2.2.1 (by decide +kernel)
  · have hclosed : ¬ oneVariable.Openable ⟨"/closed"⟩ := fun hopen => by
      have hcheck : Substvar.checkBaseline oneVariable ⟨"/closed"⟩ =
          .error (.unreadable ⟨"/closed"⟩ .permissionDenied) := by
        decide +kernel
      cases hcheck.symm.trans (Substvar.checkBaseline_eq_ok_iff.mpr hopen)
    exact ((hshape ⟨"/closed"⟩).2.2.1 .invalidBaseline).mpr ⟨⟨_, htier⟩, hclosed⟩
  · exact (hshape ⟨"/ws/App/META-INF/IT.substvar"⟩).2.2.2.2.2.2.2 (by decide +kernel)

end TierAudit.Preflight
