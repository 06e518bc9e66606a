import TierAudit.Proofs.Config.Complaints
import TierAudit.Proofs.Except

/-!
# Configuration — profiles

The profiles of an accepted configuration: the settings that concern all tiers make sense
(`profiles_eq_ok_iff`, `checkCommon_eq_ok_iff`), every profile is made of the configuration
(`exists_of_mem_profiles`), and there is at most one for each tier (`nodup_profiles`).
-/

namespace TierAudit.Config
open Text

variable {config : Config} {profiles : List Profile} {profile : Profile}

/-! ### What is accepted -/

theorem checkCommon_eq_ok_iff :
    config.checkCommon = .ok () ↔
      config.maxParallel ≠ 0 ∧ trim config.connection ≠ "" ∧ trim config.alternateIdentity ≠ "" := by
  unfold checkCommon
  split
  · next hcount => simp [hcount]
  · next hcount =>
    split
    · next hconnection => simp [hconnection]
    · next hconnection => split <;> simp_all

/-- The common settings come first, and then one tier after another. -/
theorem profiles_eq_ok_iff :
    config.profiles = .ok profiles ↔
      config.checkCommon = .ok () ∧ profiles ≠ [] ∧
        ∃ found, Tier.all.mapM config.profile? = .ok found ∧ found.filterMap id = profiles := by
  unfold Config.profiles
  rw [bind_eq_ok_iff]
  constructor
  · rintro ⟨_, hcommon, h⟩
    obtain ⟨found, hfound, h⟩ := bind_eq_ok_iff.mp h
    simp only at h
    split at h
    · cases h
    · next hne =>
      cases h
      exact ⟨hcommon, fun hnone => hne (List.isEmpty_iff.mpr hnone), found, hfound, rfl⟩
  · rintro ⟨hcommon, hne, found, hfound, rfl⟩
    refine ⟨(), hcommon, bind_eq_ok_iff.mpr ⟨found, hfound, ?_⟩⟩
    exact if_neg fun hnone => hne (List.isEmpty_iff.mp hnone)

/-! ### One profile for each tier -/

/-- The profiles of a configuration are of distinct tiers. -/
theorem nodup_profiles (h : config.profiles = .ok profiles) :
    (profiles.map Profile.tier).Nodup := by
  obtain ⟨husable, rfl⟩ := profiles_eq_ok_iff_usable.mp h
  rw [husable.map_tier_profiles]
  exact (show Tier.all.Nodup by decide).filter _

/-- A profile is made of the configuration for a tier and its baseline. -/
theorem exists_baseline?_of_mem_profiles (h : config.profiles = .ok profiles)
    (hmem : profile ∈ profiles) :
    ∃ tier baseline, config.baseline? tier = some baseline ∧
      config.profile tier baseline = profile := by
  obtain ⟨-, rfl⟩ := profiles_eq_ok_iff_usable.mp h
  obtain ⟨tier, -, hprofile⟩ := List.mem_filterMap.mp hmem
  exact ⟨tier, (exists_of_profileToRun? hprofile).2⟩

theorem exists_of_mem_profiles (h : config.profiles = .ok profiles) (hmem : profile ∈ profiles) :
    ∃ tier baseline, profile = config.profile tier baseline := by
  obtain ⟨tier, baseline, -, rfl⟩ := exists_baseline?_of_mem_profiles h hmem
  exact ⟨tier, baseline, rfl⟩

/-- The baseline of a profile is the one that its tier has in the configuration. -/
theorem baseline?_of_mem_profiles (h : config.profiles = .ok profiles) (hmem : profile ∈ profiles) :
    config.baseline? profile.tier = some profile.baseline := by
  obtain ⟨tier, baseline, hbaseline, rfl⟩ := exists_baseline?_of_mem_profiles h hmem
  exact hbaseline

end TierAudit.Config
