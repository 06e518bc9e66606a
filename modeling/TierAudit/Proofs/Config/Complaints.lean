import TierAudit.Config

/-!
# Configuration — what is accepted

A configuration is refused with the first complaint that it deserves, in a fixed order: those about
the settings of all tiers, those about one tier after another, and last that there is nothing to
check (`profiles_eq`).  One that deserves none is accepted, and then the tiers that are to run are
checked, each once and none left out (`profiles_accepted`).
-/

namespace TierAudit.Config
open Text

variable (config : Config)

/-! ### What is to be checked -/

/-- A tier is to run if it was asked for or, where none was, if it is switched on and has a
baseline. -/
def Runs (tier : Tier) : Prop :=
  tier ∈ config.selected ∨
    config.selected = [] ∧ config.isEnabled tier = true ∧ config.baseline? tier ≠ none

/-- A tier is called for if it was asked for or, where none was, if it is switched on and there are
settings for it. -/
def IsCalledFor (tier : Tier) : Prop :=
  tier ∈ config.selected ∨
    config.selected = [] ∧ config.isEnabled tier = true ∧ config.tiers tier ≠ none

/-- A configuration that can be used. -/
structure Usable : Prop where
  maxParallel : 1 ≤ config.maxParallel
  connection : trim config.connection ≠ ""
  alternateIdentity : trim config.alternateIdentity ≠ ""
  enabled : ∀ tier ∈ config.selected, config.isEnabled tier = true
  baseline : ∀ tier, config.IsCalledFor tier → config.baseline? tier ≠ none
  baselineNotEmpty : ∀ tier, config.Runs tier → config.baseline? tier ≠ some ⟨""⟩
  runs : ∃ tier, config.Runs tier

/-- What a profile has from a configuration: the baseline of its tier or else the one in the common
directory, the variables of the credentials, and what is set for its tier. -/
structure IsSource (profile : Profile) : Prop where
  baseline : ((config.tiers profile.tier).bind (·.baseline)).or
    (config.baselineDir.map (·.join profile.tier.baselineFileName)) = some profile.baseline
  credentials : profile.credentials = .ofConnection config.connection config.alternateIdentity
  credentialRule : profile.credentialRule =
    ((config.tiers profile.tier).bind (·.credentialRule)).getD (profile.tier ≠ .dev4)
  exclusions : profile.exclusionsOverride = (config.tiers profile.tier).bind (·.exclusions)

/-- Whether it is so what an error says of a configuration.  The errors of a file and of a name are
about none. -/
def Deserves : ConfigError → Prop
  | .invalidMaxParallel => config.maxParallel = 0
  | .emptyCredentialSetting .connection => trim config.connection = ""
  | .emptyCredentialSetting .alternateIdentity => trim config.alternateIdentity = ""
  | .tierDisabled tier => tier ∈ config.selected ∧ config.isEnabled tier = false
  | .missingBaseline tier => config.IsCalledFor tier ∧ config.baseline? tier = none
  | .emptyBaseline tier => config.Runs tier ∧ config.baseline? tier = some ⟨""⟩
  | .noTiers => ∀ tier ∈ Tier.all, ¬ config.Runs tier
  | .unreadable _ _ | .notUtf8 _ | .malformed _ | .unknownTier _ => False

instance : DecidablePred config.Runs := fun tier =>
  inferInstanceAs (Decidable (tier ∈ config.selected ∨
    config.selected = [] ∧ config.isEnabled tier = true ∧ config.baseline? tier ≠ none))

instance : DecidablePred config.IsCalledFor := fun tier =>
  inferInstanceAs (Decidable (tier ∈ config.selected ∨
    config.selected = [] ∧ config.isEnabled tier = true ∧ config.tiers tier ≠ none))

instance : DecidablePred config.Deserves
  | .invalidMaxParallel => inferInstanceAs (Decidable (config.maxParallel = 0))
  | .emptyCredentialSetting .connection =>
    inferInstanceAs (Decidable (trim config.connection = ""))
  | .emptyCredentialSetting .alternateIdentity =>
    inferInstanceAs (Decidable (trim config.alternateIdentity = ""))
  | .tierDisabled tier =>
    inferInstanceAs (Decidable (tier ∈ config.selected ∧ config.isEnabled tier = false))
  | .missingBaseline tier =>
    inferInstanceAs (Decidable (config.IsCalledFor tier ∧ config.baseline? tier = none))
  | .emptyBaseline tier =>
    inferInstanceAs (Decidable (config.Runs tier ∧ config.baseline? tier = some ⟨""⟩))
  | .noTiers => inferInstanceAs (Decidable (∀ tier ∈ Tier.all, ¬ config.Runs tier))
  | .unreadable _ _ | .notUtf8 _ | .malformed _ | .unknownTier _ => .isFalse id

/-- The complaints about the settings of all tiers. -/
def commonComplaints : List ConfigError :=
  [.invalidMaxParallel, .emptyCredentialSetting .connection,
    .emptyCredentialSetting .alternateIdentity]

/-- The complaints about a tier. -/
def tierComplaints (tier : Tier) : List ConfigError :=
  [.tierDisabled tier, .missingBaseline tier, .emptyBaseline tier]

/-- The complaints about a configuration, in the order in which they are made. -/
def complaints : List ConfigError :=
  commonComplaints ++ Tier.all.flatMap tierComplaints ++ [.noTiers]

/-- The first complaint of some that a configuration deserves. -/
def firstDeserved? (errors : List ConfigError) : Option ConfigError :=
  errors.find? fun error => decide (config.Deserves error)

/-- A result, unless a configuration deserves one of some complaints. -/
def accept {α : Type} (errors : List ConfigError) (a : α) : Except ConfigError α :=
  match config.firstDeserved? errors with
  | some error => .error error
  | none => .ok a

/-- The profile of a tier that is to run. -/
def profileToRun? (tier : Tier) : Option Profile :=
  if config.Runs tier then (config.baseline? tier).map (config.profile tier) else none

/-! ### Complaints in order -/

section
variable {config} {error : ConfigError} {errors first later : List ConfigError} {α β : Type}

theorem firstDeserved?_cons :
    config.firstDeserved? (error :: later) =
      if config.Deserves error then some error else config.firstDeserved? later := by
  by_cases h : config.Deserves error <;> simp [firstDeserved?, h]

@[simp] theorem firstDeserved?_nil : config.firstDeserved? [] = none := rfl

theorem firstDeserved?_append :
    config.firstDeserved? (first ++ later) =
      (config.firstDeserved? first).or (config.firstDeserved? later) :=
  List.find?_append

theorem firstDeserved?_eq_none_iff :
    config.firstDeserved? errors = none ↔ ∀ error ∈ errors, ¬ config.Deserves error := by
  simp [firstDeserved?]

theorem accept_eq_ok_iff {a b : α} :
    config.accept errors a = .ok b ↔ config.firstDeserved? errors = none ∧ a = b := by
  unfold accept
  cases config.firstDeserved? errors <;> simp

theorem accept_eq_error_iff {a : α} :
    config.accept errors a = .error error ↔ config.firstDeserved? errors = some error := by
  unfold accept
  cases config.firstDeserved? errors <;> simp

/-- What follows on a result only matters if there is no complaint about it. -/
theorem accept_bind_congr {a : α} {f g : α → Except ConfigError β}
    (h : (∀ error ∈ errors, ¬ config.Deserves error) → f a = g a) :
    (config.accept errors a >>= f) = config.accept errors a >>= g := by
  unfold accept
  cases hfirst : config.firstDeserved? errors with
  | some error => rfl
  | none => exact h (firstDeserved?_eq_none_iff.mp hfirst)

/-- Of two steps the complaints about the first come first. -/
theorem accept_bind (a : α) (f : α → β) :
    (config.accept first a >>= fun a => config.accept later (f a)) =
      config.accept (first ++ later) (f a) := by
  unfold accept
  rw [firstDeserved?_append]
  cases config.firstDeserved? first <;> rfl

/-- The complaints about a list are those about its members, one member after another. -/
theorem mapM_accept {f : α → Except ConfigError β} {complaints : α → List ConfigError}
    {value : α → β} (h : ∀ a, f a = config.accept (complaints a) (value a)) (items : List α) :
    items.mapM f = config.accept (items.flatMap complaints) (items.map value) := by
  induction items with
  | nil => rfl
  | cons a rest ih =>
      have hrest : ∀ b : β, (rest.mapM f >>= fun others => pure (b :: others)) =
          config.accept (rest.flatMap complaints) (b :: rest.map value) := by
        intro b
        rw [ih]
        unfold accept
        cases config.firstDeserved? (rest.flatMap complaints) <;> rfl
      rw [List.mapM_cons, h a]
      simp only [hrest]
      exact accept_bind (value a) (· :: rest.map value)

end

/-! ### The complaint that is made -/

theorem checkCommon_eq : config.checkCommon = config.accept commonComplaints () := by
  by_cases hcount : config.maxParallel = 0 <;>
  by_cases hconnection : trim config.connection = "" <;>
  by_cases halternate : trim config.alternateIdentity = "" <;>
  simp [checkCommon, accept, commonComplaints, firstDeserved?_cons, Deserves, hcount, hconnection,
    halternate]

theorem profile?_eq (tier : Tier) :
    config.profile? tier = config.accept (tierComplaints tier) (config.profileToRun? tier) := by
  have hpath : ∀ path : Path, path.text = "" ↔ path = ⟨""⟩ := fun ⟨text⟩ => by simp
  simp only [accept, tierComplaints, firstDeserved?_cons, firstDeserved?_nil]
  by_cases hrequested : tier ∈ config.selected
  case pos =>
    have hselected : config.selected ≠ [] := List.ne_nil_of_mem hrequested
    cases henabled : config.isEnabled tier <;> cases hbaseline : config.baseline? tier <;>
    simp [profile?, profileToRun?, isRequested, Deserves, IsCalledFor, Runs, hrequested, hselected,
      henabled, hbaseline, hpath]
    split <;> simp
  case neg =>
    by_cases hselected : config.selected = []
    case pos =>
      cases henabled : config.isEnabled tier <;> cases hbaseline : config.baseline? tier <;>
      cases hsettings : config.tiers tier <;>
      simp [profile?, profileToRun?, isRequested, Deserves, IsCalledFor, Runs, hselected,
        henabled, hbaseline, hsettings, hpath]
      all_goals split <;> simp
    case neg =>
      simp [profile?, profileToRun?, isRequested, Deserves, IsCalledFor, Runs, hrequested,
        hselected]

section
variable {config} {tier : Tier}

/-- A tier that is to run has a baseline, unless this is complained about. -/
theorem Runs.baseline?_ne_none (hruns : config.Runs tier)
    (h : ¬ config.Deserves (.missingBaseline tier)) : config.baseline? tier ≠ none := by
  obtain hselected | ⟨-, -, hbaseline⟩ := hruns
  · exact fun hnone => h ⟨.inl hselected, hnone⟩
  · exact hbaseline

theorem profileToRun?_eq_none_iff (h : ¬ config.Deserves (.missingBaseline tier)) :
    config.profileToRun? tier = none ↔ ¬ config.Runs tier := by
  unfold profileToRun?
  split
  · next hruns => simp [hruns, hruns.baseline?_ne_none h]
  · next hruns => simp [hruns]

end

/-- Nothing is left to run exactly if no tier is to run, unless a tier lacks its baseline. -/
theorem ite_isEmpty_eq (h : ∀ tier, ¬ config.Deserves (.missingBaseline tier)) :
    (if (Tier.all.filterMap config.profileToRun?).isEmpty then .error .noTiers
      else .ok (Tier.all.filterMap config.profileToRun?)) =
      config.accept [.noTiers] (Tier.all.filterMap config.profileToRun?) := by
  have hempty : Tier.all.filterMap config.profileToRun? = [] ↔ config.Deserves .noTiers := by
    rw [List.filterMap_eq_nil_iff]
    exact forall₂_congr fun tier _ => profileToRun?_eq_none_iff (h tier)
  unfold accept
  rw [firstDeserved?_cons, firstDeserved?_nil]
  by_cases hnone : config.Deserves .noTiers
  · rw [if_pos (List.isEmpty_iff.mpr (hempty.mpr hnone)), if_pos hnone]
  · rw [if_neg fun h => hnone (hempty.mp (List.isEmpty_iff.mp h)), if_neg hnone]

/-- **The profiles of a configuration.**  It is refused with the first complaint that it deserves;
one that deserves none has a profile for each tier that is to run. -/
theorem profiles_eq :
    config.profiles = config.accept complaints (Tier.all.filterMap config.profileToRun?) := by
  let before := commonComplaints ++ Tier.all.flatMap tierComplaints
  let found := Tier.all.map config.profileToRun?
  have hmissing : (∀ error ∈ before, ¬ config.Deserves error) →
      ∀ tier, ¬ config.Deserves (.missingBaseline tier) := by
    intro h tier
    refine h _ (List.mem_append_right _ (List.mem_flatMap.mpr ⟨tier, tier.mem_all, ?_⟩))
    simp [tierComplaints]
  have hfound : found.filterMap id = Tier.all.filterMap config.profileToRun? := by
    rw [List.filterMap_map, Function.id_comp]
  calc config.profiles
    _ = config.accept before found >>= fun found =>
          if (found.filterMap id).isEmpty then .error .noTiers else .ok (found.filterMap id) := by
        rw [← accept_bind () fun _ => found, ← checkCommon_eq, ← mapM_accept config.profile?_eq]
        unfold profiles
        cases config.checkCommon <;> rfl
    _ = config.accept before found >>= fun found =>
          config.accept [.noTiers] (found.filterMap id) :=
        accept_bind_congr fun h => hfound ▸ config.ite_isEmpty_eq (hmissing h)
    _ = config.accept complaints (Tier.all.filterMap config.profileToRun?) := by
        rw [accept_bind, hfound]
        rfl

/-! ### What is accepted -/

section
variable {config} {tier : Tier} {profile : Profile} {baseline : Path}

theorem forall_mem_complaints {p : ConfigError → Prop} :
    (∀ error ∈ complaints, p error) ↔
      (p .invalidMaxParallel ∧ p (.emptyCredentialSetting .connection) ∧
        p (.emptyCredentialSetting .alternateIdentity)) ∧
      (∀ tier, p (.tierDisabled tier) ∧ p (.missingBaseline tier) ∧ p (.emptyBaseline tier)) ∧
      p .noTiers := by
  have htier : ∀ tier, (∀ error ∈ tierComplaints tier, p error) ↔
      p (.tierDisabled tier) ∧ p (.missingBaseline tier) ∧ p (.emptyBaseline tier) := by
    simp [tierComplaints]
  simp only [complaints, commonComplaints, List.forall_mem_append, List.forall_mem_flatMap, htier,
    Tier.mem_all, true_imp_iff, List.forall_mem_cons, List.not_mem_nil, false_imp_iff, implies_true,
    and_true, and_assoc]

/-- A configuration can be used exactly if it deserves no complaint. -/
theorem usable_iff : config.Usable ↔ config.firstDeserved? complaints = none := by
  rw [firstDeserved?_eq_none_iff, forall_mem_complaints]
  constructor
  · intro h
    refine ⟨⟨Nat.ne_of_gt h.maxParallel, h.connection, h.alternateIdentity⟩, fun tier => ?_, ?_⟩
    · refine ⟨fun hdisabled => ?_, fun hmissing => ?_, fun hempty => ?_⟩
      · exact Bool.false_ne_true (hdisabled.2 ▸ h.enabled tier hdisabled.1)
      · exact h.baseline tier hmissing.1 hmissing.2
      · exact h.baselineNotEmpty tier hempty.1 hempty.2
    · obtain ⟨tier, hruns⟩ := h.runs
      exact fun hnone => hnone tier tier.mem_all hruns
  · rintro ⟨⟨hcount, hconnection, halternate⟩, htiers, hruns⟩
    refine ⟨Nat.pos_of_ne_zero hcount, hconnection, halternate, fun tier hselected => ?_,
      fun tier hcalled hnone => (htiers tier).2.1 ⟨hcalled, hnone⟩,
      fun tier hrun hempty => (htiers tier).2.2 ⟨hrun, hempty⟩, ?_⟩
    · exact Bool.of_not_eq_false fun hdisabled => (htiers tier).1 ⟨hselected, hdisabled⟩
    · exact Classical.byContradiction fun hnone => hruns fun tier _ hrun => hnone ⟨tier, hrun⟩

theorem Usable.not_deserves (h : config.Usable) (tier : Tier) :
    ¬ config.Deserves (.missingBaseline tier) :=
  fun hmissing => h.baseline tier hmissing.1 hmissing.2

/-- What is called for is to run, if it has a baseline. -/
theorem Usable.runs_of_isCalledFor (h : config.Usable) (hcalled : config.IsCalledFor tier) :
    config.Runs tier := by
  obtain hselected | ⟨hselected, henabled, -⟩ := id hcalled
  · exact .inl hselected
  · exact .inr ⟨hselected, henabled, h.baseline tier hcalled⟩

/-- The baseline that a tier is held against: its own, or the one in the common directory. -/
theorem baseline?_eq_or (config : Config) (tier : Tier) :
    config.baseline? tier = ((config.tiers tier).bind (·.baseline)).or
      (config.baselineDir.map (·.join tier.baselineFileName)) := by
  unfold baseline?
  cases (config.tiers tier).bind (·.baseline) <;> rfl

theorem isSource_profile (h : config.baseline? tier = some baseline) :
    config.IsSource (config.profile tier baseline) where
  baseline := (config.baseline?_eq_or tier).symm.trans h
  credentials := rfl
  credentialRule := by
    unfold profile
    cases config.tiers tier <;> rfl
  exclusions := by
    unfold profile
    cases config.tiers tier <;> rfl

theorem exists_of_profileToRun? (h : config.profileToRun? tier = some profile) :
    config.Runs tier ∧
      ∃ baseline, config.baseline? tier = some baseline ∧ config.profile tier baseline = profile := by
  unfold profileToRun? at h
  split at h
  · next hruns => exact ⟨hruns, Option.map_eq_some_iff.mp h⟩
  · cases h

/-- The tiers that are checked are those that are to run, in their order. -/
theorem Usable.map_tier_profiles (h : config.Usable) :
    (Tier.all.filterMap config.profileToRun?).map Profile.tier =
      Tier.all.filter (decide <| config.Runs ·) := by
  have htier : ∀ tier, (config.profileToRun? tier).map Profile.tier =
      Option.guard (decide <| config.Runs ·) tier := by
    intro tier
    have hnone := profileToRun?_eq_none_iff (h.not_deserves tier)
    cases hprofile : config.profileToRun? tier with
    | none => simp [Option.guard, hnone.mp hprofile]
    | some profile =>
        obtain ⟨hruns, baseline, -, rfl⟩ := exists_of_profileToRun? hprofile
        simp [Option.guard, hruns, Config.profile]
  rw [List.map_filterMap, funext htier, List.filterMap_eq_filter]

theorem Usable.mem_map_tier_profiles (h : config.Usable) :
    tier ∈ (Tier.all.filterMap config.profileToRun?).map Profile.tier ↔ config.Runs tier := by
  rw [h.map_tier_profiles, List.mem_filter, decide_eq_true_eq]
  exact and_iff_right tier.mem_all

/-- The profiles of a configuration are those of the tiers that are to run. -/
theorem profiles_eq_ok_iff_usable {profiles : List Profile} :
    config.profiles = .ok profiles ↔
      config.Usable ∧ Tier.all.filterMap config.profileToRun? = profiles := by
  rw [profiles_eq, accept_eq_ok_iff, usable_iff]

end

/-- **What is accepted.**  A configuration has profiles exactly if it can be used.  They are of the
tiers that are to run, in the order of the tiers and one for each, and what is called for is among
them; each has its settings from the configuration.  All others are refused with the first complaint
that they deserve. -/
theorem profiles_accepted :
    ((∃ profiles, config.profiles = .ok profiles) ↔ config.Usable) ∧
    (∀ profiles, config.profiles = .ok profiles →
      (profiles.map Profile.tier).Pairwise (·.rank < ·.rank) ∧
      (∀ tier, tier ∈ profiles.map Profile.tier ↔ config.Runs tier) ∧
      (∀ tier, config.IsCalledFor tier → tier ∈ profiles.map Profile.tier) ∧
      ∀ profile ∈ profiles, config.IsSource profile) ∧
    ∀ error, config.profiles = .error error ↔
      complaints.find? (decide <| config.Deserves ·) = some error := by
  refine ⟨?_, ?_, fun error => ?_⟩
  · simp only [profiles_eq_ok_iff_usable, exists_and_left, exists_eq', and_true]
  · intro profiles hprofiles
    obtain ⟨husable, rfl⟩ := profiles_eq_ok_iff_usable.mp hprofiles
    refine ⟨?_, fun tier => husable.mem_map_tier_profiles, fun tier hcalled =>
      husable.mem_map_tier_profiles.mpr (husable.runs_of_isCalledFor hcalled),
      fun profile hprofile => ?_⟩
    · rw [husable.map_tier_profiles]
      exact (show Tier.all.Pairwise (·.rank < ·.rank) by decide).filter _
    · obtain ⟨tier, -, hprofile⟩ := List.mem_filterMap.mp hprofile
      obtain ⟨-, baseline, hbaseline, rfl⟩ := exists_of_profileToRun? hprofile
      exact isSource_profile hbaseline
  · rw [profiles_eq]
    exact accept_eq_error_iff

/-- A configuration with baselines for all tiers, of which the development tier is switched off. -/
def developmentOff : Config :=
  { default with baselineDir := some ⟨"gv"⟩ }.setTier .dev4
    (some { TierSettings.empty with enabled := some false })

/-- It checks the other tiers, and is refused when it is asked to check the development tier. -/
theorem profiles_accepted_developmentOff :
    (∃ profiles, developmentOff.profiles = .ok profiles ∧
      (profiles.map Profile.tier).Pairwise (·.rank < ·.rank) ∧
      Tier.it ∈ profiles.map Profile.tier ∧ Tier.dev4 ∉ profiles.map Profile.tier) ∧
    { developmentOff with selected := [.uat, .dev4] }.profiles = .error (.tierDisabled .dev4) := by
  obtain ⟨haccepted, hprofiles, -⟩ := profiles_accepted developmentOff
  obtain ⟨-, -, hrefused⟩ := profiles_accepted { developmentOff with selected := [.uat, .dev4] }
  have husable : developmentOff.Usable := usable_iff.mpr (by decide +kernel)
  obtain ⟨profiles, h⟩ := haccepted.mpr husable
  obtain ⟨hincreasing, hruns, -⟩ := hprofiles profiles h
  refine ⟨⟨profiles, h, hincreasing, (hruns .it).mpr (by decide +kernel), fun hdev4 => ?_⟩,
    (hrefused _).mpr (by decide +kernel)⟩
  exact absurd ((hruns .dev4).mp hdev4) (by decide +kernel)

end TierAudit.Config
