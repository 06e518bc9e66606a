import TierAudit.CommandLine.Command
import TierAudit.Config.File

/-!
# Configuration — layers

The settings of a check: those of the command line over those of the configuration file over the
defaults.
-/

namespace TierAudit.Config
open CommandLine

/-- Gives tiers baselines of their own, one after another. -/
def setBaselines (config : Config) (baselines : List (Tier × Path)) : Config :=
  baselines.foldl (fun config (tier, path) => config.setBaseline tier path) config

/-- Lays the options of a check over a configuration.  Of two baselines of one tier the later holds,
and a switch is on if either layer switches it on. -/
def layer (config : Config) (options : CheckOptions) : Config :=
  let config := { config with baselineDir := options.baselineDir.or config.baselineDir }
  let config := config.setBaselines options.baselines
  { config with
    selected := options.tiers
    parallel := config.parallel || options.parallel
    failFast := config.failFast || options.failFast
    maxParallel := options.maxParallel.getD config.maxParallel }

/-- The configuration of a check. -/
def ofOptions (fs : FileSystem) (options : CheckOptions) : Except ConfigError Config :=
  match options.config with
  | none => .ok (default.layer options)
  | some path => (load fs path).map (·.layer options)

end TierAudit.Config
