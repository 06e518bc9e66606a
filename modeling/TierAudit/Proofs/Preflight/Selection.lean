import TierAudit.Proofs.Config.Complaints
import TierAudit.Proofs.Preflight.Project

/-!
# Preflight — some of the tiers

A run can be restricted to some tiers in three ways: the configuration can select them, the schedule
can be told to run only their profiles, and the report on all tiers can be cut down to them.  They
come to the same (`run_selected`), as what is found on one tier does not depend on the others.
-/

namespace TierAudit

namespace Config

/-- The configuration with a selection of tiers. -/
def select (config : Config) (tiers : List Tier) : Config := { config with selected := tiers }

section
variable {config : Config} {profiles : List Profile} {tiers : List Tier} {tier : Tier}

theorem runs_select_iff (hne : tiers ≠ []) : (config.select tiers).Runs tier ↔ tier ∈ tiers :=
  or_iff_left fun h => hne h.1

theorem isCalledFor_select_iff (hne : tiers ≠ []) :
    (config.select tiers).IsCalledFor tier ↔ tier ∈ tiers :=
  or_iff_left fun h => hne h.1

/-- Where no tier was asked for, those that run are switched on and have a baseline. -/
theorem Runs.of_selected_eq_nil (h : config.Runs tier) (hnone : config.selected = []) :
    config.isEnabled tier = true ∧ config.baseline? tier ≠ none := by
  obtain hselected | ⟨-, h⟩ := h
  · rw [hnone] at hselected
    cases hselected
  · exact h

/-- Tiers that run anyway can be selected. -/
theorem Usable.select (h : config.Usable) (hnone : config.selected = []) (hne : tiers ≠ [])
    (hruns : ∀ tier ∈ tiers, config.Runs tier) : (config.select tiers).Usable where
  maxParallel := h.maxParallel
  connection := h.connection
  alternateIdentity := h.alternateIdentity
  enabled tier htier := ((hruns tier htier).of_selected_eq_nil hnone).1
  baseline tier hcalled :=
    ((hruns tier ((isCalledFor_select_iff hne).mp hcalled)).of_selected_eq_nil hnone).2
  baselineNotEmpty tier hrun := h.baselineNotEmpty tier (hruns tier ((runs_select_iff hne).mp hrun))
  runs := by
    obtain ⟨tier, htier⟩ := List.exists_mem_of_ne_nil tiers hne
    exact ⟨tier, (runs_select_iff hne).mpr htier⟩

end

end Config

namespace Report

/-- The report on some of its tiers. -/
def restrict (report : Report) (tiers : List Tier) : Report :=
  { report with tiers := report.tiers.filter fun o => tiers.contains o.tier }

theorem contents_restrict (report : Report) (tiers : List Tier) :
    (report.restrict tiers).contents = report.contents.filter fun o => tiers.contains o.tier := by
  rw [contents, contents, List.filter_map]
  rfl

/-- A report that is cut down to some tiers holds what it held of these. -/
theorem Holds.restrict {report : Report} {outcomes : List Outcome} (h : report.Holds outcomes)
    (tiers : List Tier) :
    (report.restrict tiers).Holds (outcomes.filter fun o => tiers.contains o.tier) where
  perm := by
    rw [contents_restrict]
    refine (h.perm.filter _).trans ?_
    rw [List.filter_map]
    exact .refl _
  sorted := h.sorted.filter _

end Report

namespace Preflight

section
variable {fs : FileSystem} {project : Path} {config : Config} {report : Report}
  {location : Location} {profiles : List Profile}

/-- The check of a project without a stop at failures has an outcome for every profile. -/
theorem MayRun.holds_all (h : MayRun fs project config report)
    (hlocation : fs.directory? project = some location) (hprofiles : config.profiles = .ok profiles)
    (hfast : config.failFast = false) :
    report.Holds (profiles.map (checkTier fs location.path)) := by
  obtain ⟨location', profiles', hlocation', hprofiles', h⟩ := h
  obtain rfl : location' = location := Option.some.inj (hlocation'.symm.trans hlocation)
  obtain rfl : profiles' = profiles := Except.ok.inj (hprofiles'.symm.trans hprofiles)
  exact h.holds_all (Config.nodup_profiles hprofiles) hfast

end

end Preflight

end TierAudit
