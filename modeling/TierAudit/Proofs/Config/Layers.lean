import TierAudit.Config.Layers
import TierAudit.Proofs.Config.Profiles
import TierAudit.Proofs.Text.Utf8

/-!
# Configuration — what the options of a check change

The options of a check are laid over the configuration of a file.  What they give holds, and all
else is as it was (`ofOptions_layered`).  A baseline for a tier replaces the baseline of that tier,
of several the last one, and leaves its other settings and all other tiers alone; so the order
matters only among those for one tier.
-/

namespace TierAudit.Config
open CommandLine

/-! ### Baselines for tiers -/

/-- The last baseline that is given for a tier. -/
def lastBaseline? (tier : Tier) (baselines : List (Tier × Path)) : Option Path :=
  (baselines.filter (·.1 = tier)).getLast?.map (·.2)

/-- The settings of a tier for which a baseline is given, or none. -/
def replaceBaseline (settings : Option TierSettings) : Option Path → Option TierSettings
  | none => settings
  | some path => some { settings.getD .empty with baseline := some path }

theorem lastBaseline?_cons (tier : Tier) (given : Tier × Path) (rest : List (Tier × Path)) :
    lastBaseline? tier (given :: rest) =
      (lastBaseline? tier rest).or (if given.1 = tier then some given.2 else none) := by
  unfold lastBaseline?
  by_cases htier : given.1 = tier
  · rw [List.filter_cons_of_pos (by simpa using htier), List.getLast?_cons, if_pos htier]
    cases (rest.filter (·.1 = tier)).getLast? <;> rfl
  · rw [List.filter_cons_of_neg (by simpa using htier), if_neg htier, Option.or_none]

theorem lastBaseline?_eq_none_iff {tier : Tier} {baselines : List (Tier × Path)} :
    lastBaseline? tier baselines = none ↔ ∀ given ∈ baselines, given.1 ≠ tier := by
  simp [lastBaseline?]

/-- Of two baselines the later holds. -/
theorem replaceBaseline_replaceBaseline (settings : Option TierSettings)
    (first later : Option Path) :
    replaceBaseline (replaceBaseline settings first) later =
      replaceBaseline settings (later.or first) := by
  cases later <;> cases first <;> rfl

/-- One baseline concerns one tier. -/
theorem tiers_setBaseline (config : Config) (given : Tier × Path) (tier : Tier) :
    (config.setBaseline given.1 given.2).tiers tier =
      replaceBaseline (config.tiers tier) (if given.1 = tier then some given.2 else none) := by
  simp only [setBaseline, setTier]
  by_cases htier : given.1 = tier
  · rw [if_pos htier.symm, if_pos htier, htier]
    rfl
  · rw [if_neg (Ne.symm htier), if_neg htier]
    rfl

/-- **Baselines one after another.**  Each tier has the last of its own. -/
theorem setBaselines_eq (config : Config) (baselines : List (Tier × Path)) :
    config.setBaselines baselines =
      { config with
        tiers := fun tier => replaceBaseline (config.tiers tier) (lastBaseline? tier baselines) } := by
  induction baselines generalizing config with
  | nil => rfl
  | cons given rest ih =>
      have htiers : ∀ tier,
          replaceBaseline ((config.setBaseline given.1 given.2).tiers tier)
            (lastBaseline? tier rest) =
          replaceBaseline (config.tiers tier) (lastBaseline? tier (given :: rest)) := by
        intro tier
        rw [tiers_setBaseline, replaceBaseline_replaceBaseline, lastBaseline?_cons]
      have hstep : config.setBaselines (given :: rest) =
          (config.setBaseline given.1 given.2).setBaselines rest := rfl
      rw [hstep, ih, funext htiers]
      rfl

section
variable (settings : Option TierSettings) (path? : Option Path)

theorem baseline_replaceBaseline :
    (replaceBaseline settings path?).bind (·.baseline) =
      path?.or (settings.bind (·.baseline)) := by
  cases path? <;> rfl

/-- The settings of a tier besides its baseline are left alone. -/
theorem bind_replaceBaseline {α : Type} {setting : TierSettings → Option α}
    (hempty : setting .empty = none)
    (hframe : ∀ settings path, setting { settings with baseline := path } = setting settings) :
    (replaceBaseline settings path?).bind setting = settings.bind setting := by
  cases path? with
  | none => rfl
  | some path =>
      rw [replaceBaseline, Option.bind_some, hframe]
      cases settings with
      | none => exact hempty
      | some settings => rfl

theorem replaceBaseline_eq_none_iff :
    replaceBaseline settings path? = none ↔ settings = none ∧ path? = none := by
  cases path? <;> simp [replaceBaseline]

end

/-! ### Layers -/

/-- What the options of a check are laid over: the configuration of the file that they name, or the
default. -/
inductive Underlies (fs : FileSystem) : Option Path → Config → Prop where
  | unnamed : Underlies fs none .default
  | file {path : Path} {bytes : Bytes} {text : String} {config : Config}
      (hread : fs.read path = .ok bytes) (htext : Text.Utf8.decode? bytes = some text.toList)
      (hconfig : ofToml path text = .ok config) : Underlies fs (some path) config

/-- A configuration in which options are laid over another one. -/
structure IsLaidOver (options : CheckOptions) (below config : Config) : Prop where
  baseline : ∀ tier, (config.tiers tier).bind (·.baseline) =
    (lastBaseline? tier options.baselines).or ((below.tiers tier).bind (·.baseline))
  enabled : ∀ tier, (config.tiers tier).bind (·.enabled) = (below.tiers tier).bind (·.enabled)
  credentialRule : ∀ tier,
    (config.tiers tier).bind (·.credentialRule) = (below.tiers tier).bind (·.credentialRule)
  exclusions : ∀ tier,
    (config.tiers tier).bind (·.exclusions) = (below.tiers tier).bind (·.exclusions)
  /-- A tier is configured only by a baseline for it, or below. -/
  unconfigured : ∀ tier, config.tiers tier = none ↔
    below.tiers tier = none ∧ ∀ given ∈ options.baselines, given.1 ≠ tier
  baselineDir : config.baselineDir = options.baselineDir.or below.baselineDir
  maxParallel : config.maxParallel = options.maxParallel.getD below.maxParallel
  parallel : config.parallel = (options.parallel || below.parallel)
  failFast : config.failFast = (options.failFast || below.failFast)
  selected : config.selected = options.tiers
  connection : config.connection = below.connection
  alternateIdentity : config.alternateIdentity = below.alternateIdentity

theorem isLaidOver_layer (config : Config) (options : CheckOptions) :
    IsLaidOver options config (config.layer options) := by
  simp only [layer, setBaselines_eq]
  exact {
    baseline := fun tier => baseline_replaceBaseline _ _
    enabled := fun tier => bind_replaceBaseline _ _ rfl fun _ _ => rfl
    credentialRule := fun tier => bind_replaceBaseline _ _ rfl fun _ _ => rfl
    exclusions := fun tier => bind_replaceBaseline _ _ rfl fun _ _ => rfl
    unconfigured := fun tier => by
      rw [← lastBaseline?_eq_none_iff]
      exact replaceBaseline_eq_none_iff _ _
    baselineDir := rfl
    maxParallel := rfl
    parallel := Bool.or_comm _ _
    failFast := Bool.or_comm _ _
    selected := rfl
    connection := rfl
    alternateIdentity := rfl }

/-- Baselines for different tiers may change places. -/
theorem layer_congr (config : Config) (options : CheckOptions) {baselines : List (Tier × Path)}
    (h : ∀ tier, baselines.filter (·.1 = tier) = options.baselines.filter (·.1 = tier)) :
    config.layer { options with baselines } = config.layer options := by
  have hlast : ∀ tier, lastBaseline? tier baselines = lastBaseline? tier options.baselines :=
    fun tier => congrArg (fun given => given.getLast?.map (·.2)) (h tier)
  simp only [layer, setBaselines_eq, hlast]

theorem ofOptions_of_underlies {fs : FileSystem} {options : CheckOptions} {below : Config}
    (h : Underlies fs options.config below) : ofOptions fs options = .ok (below.layer options) := by
  unfold ofOptions
  generalize options.config = named at h
  cases h with
  | unnamed => rfl
  | file hread htext hconfig =>
      simp only [load, hread, htext, String.ofList_toList, hconfig]
      rfl

/-- **The configuration of a check.**  The options are laid over the configuration of the file that
they name, or over the default.  A tier that is then checked is held against the last baseline given
for it, else against the one of the file, else against the one in the common directory; and the
order of baselines for different tiers does not matter. -/
theorem ofOptions_layered {fs : FileSystem} {options : CheckOptions} {below : Config}
    (h : Underlies fs options.config below) :
    ∃ config, ofOptions fs options = .ok config ∧ IsLaidOver options below config ∧
      (∀ profiles, config.profiles = .ok profiles → ∀ profile ∈ profiles,
        some profile.baseline =
          ((lastBaseline? profile.tier options.baselines).or
            ((below.tiers profile.tier).bind (·.baseline))).or
          ((options.baselineDir.or below.baselineDir).map
            (·.join ("predefined_" ++ profile.tier.name ++ ".substvar")))) ∧
      ∀ baselines : List (Tier × Path),
        (∀ tier, baselines.filter (·.1 = tier) = options.baselines.filter (·.1 = tier)) →
        ofOptions fs { options with baselines } = .ok config := by
  have hlaid := isLaidOver_layer below options
  refine ⟨below.layer options, ofOptions_of_underlies h, hlaid, ?_, ?_⟩
  · intro profiles hprofiles profile hmem
    rw [← baseline?_of_mem_profiles hprofiles hmem, baseline?_eq_or, hlaid.baseline,
      hlaid.baselineDir]
    rfl
  · intro baselines hbaselines
    rw [← layer_congr below options hbaselines]
    exact ofOptions_of_underlies h

/-- A configuration file for one tier. -/
def settingsText : String :=
  "fail_fast = true\n[tiers.IT]\nbaseline = \"file\"\ncredential_rule = false\n"

/-- A disk with this file on it. -/
def settingsDisk : FileSystem where
  root := .directory .full [("c.toml", .file .full (Bytes.ofText settingsText))]
  workingDirectory := .ofLocation []
  wellNamed := by decide +kernel
  anchored := by decide +kernel

/-- Options with two baselines for one tier, and one for another between them. -/
def threeBaselines : CheckOptions where
  project := ⟨"."⟩
  tiers := [.it]
  baselines := [(.it, ⟨"first"⟩), (.uat, ⟨"other"⟩), (.it, ⟨"last"⟩)]
  baselineDir := some ⟨"dir"⟩
  config := some ⟨"/c.toml"⟩
  format := .text
  quiet := false
  verbose := false
  noColor := false
  parallel := true
  maxParallel := none
  failFast := false

/-- The last baseline holds beside the settings of the file, wherever the one for the other tier
stands. -/
theorem ofOptions_layered_threeBaselines :
    ∃ below config, Underlies settingsDisk (some ⟨"/c.toml"⟩) below ∧
      ofOptions settingsDisk threeBaselines = .ok config ∧
      (config.tiers .it).bind (·.baseline) = some ⟨"last"⟩ ∧
      (config.tiers .it).bind (·.credentialRule) = some false ∧
      config.tiers .pt = none ∧ config.parallel = true ∧ config.failFast = true ∧
      ofOptions settingsDisk { threeBaselines with
        baselines := [(.it, ⟨"first"⟩), (.it, ⟨"last"⟩), (.uat, ⟨"other"⟩)] } = .ok config := by
  have hfile : (ofToml ⟨"/c.toml"⟩ settingsText).toOption.map
      (fun config => (config.tiers .it, config.tiers .pt, config.failFast)) =
        some (some ⟨some ⟨"file"⟩, some false, none, none⟩, none, true) := by
    decide +kernel
  have hread : settingsDisk.read ⟨"/c.toml"⟩ = .ok (Bytes.ofText settingsText) := by
    apply eq_ok_of_toOption
    decide +kernel
  obtain ⟨below, hok, hbelow⟩ := Option.map_eq_some_iff.mp hfile
  simp only [Prod.mk.injEq] at hbelow
  obtain ⟨hit, hpt, hfast⟩ := hbelow
  have hunderlies : Underlies settingsDisk threeBaselines.config below :=
    .file hread (Text.Utf8.decode?_flatMap _) (eq_ok_of_toOption hok)
  obtain ⟨config, hconfig, hlaid, -, horder⟩ := ofOptions_layered hunderlies
  refine ⟨below, config, hunderlies, hconfig, ?_, ?_, ?_, ?_, ?_, horder _ ?_⟩
  · rw [hlaid.baseline]
    rfl
  · rw [hlaid.credentialRule, hit]
    rfl
  · exact (hlaid.unconfigured .pt).mpr ⟨hpt, by decide⟩
  · exact hlaid.parallel
  · exact hlaid.failFast.trans hfast
  · intro tier
    cases tier <;> decide

end TierAudit.Config
