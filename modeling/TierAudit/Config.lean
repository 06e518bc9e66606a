import TierAudit.FileSystem.Error
import TierAudit.Profile
import TierAudit.Schedule

/-!
# Configuration

What is to be checked and how, and the profiles of the tiers that follow from it.
-/

namespace TierAudit
open Text

/-- What is configured for one tier; what is left open has a default. -/
structure TierSettings where
  baseline : Option Path
  credentialRule : Option Bool
  exclusions : Option (List String)
  enabled : Option Bool
  deriving DecidableEq, Repr

namespace TierSettings

/-- Nothing is configured. -/
def empty : TierSettings := ⟨none, none, none, none⟩

/-- A tier is checked unless it is switched off. -/
def isEnabled (settings : TierSettings) : Bool := settings.enabled.getD true

end TierSettings

/-- The settings of a run. -/
structure Config where
  /-- Where the baselines are that are not configured one by one. -/
  baselineDir : Option Path
  tiers : Tier → Option TierSettings
  /-- The path that the variables of the connection have in common. -/
  connection : String
  alternateIdentity : String
  /-- The tiers to check; none stands for every tier with a baseline. -/
  selected : List Tier
  parallel : Bool
  failFast : Bool
  maxParallel : Nat

/-- A credential setting that may not be blank. -/
inductive CredentialSetting where
  | connection
  | alternateIdentity
  deriving DecidableEq, Repr

/-- How the setting is called in a configuration file. -/
def CredentialSetting.key : CredentialSetting → String
  | connection => "prefix"
  | alternateIdentity => "alternate_identity"

/-- Why there is no usable configuration. -/
inductive ConfigError where
  | unreadable (path : Path) (error : OsError)
  | notUtf8 (path : Path)
  /-- The file is no configuration. -/
  | malformed (path : Path)
  | unknownTier (unknown : UnknownTier)
  | missingBaseline (tier : Tier)
  | emptyBaseline (tier : Tier)
  | tierDisabled (tier : Tier)
  | noTiers
  | invalidMaxParallel
  | emptyCredentialSetting (setting : CredentialSetting)
  deriving DecidableEq, Repr

namespace ConfigError

/-- A file that could not be read, and why. -/
def cannotRead (path : Path) (reason : String) : String :=
  "cannot read config file " ++ path.text ++ ": " ++ reason

def message : ConfigError → String
  | unreadable path error => cannotRead path error.message
  | notUtf8 path => cannotRead path "stream did not contain valid UTF-8"
  | malformed path => "invalid config file " ++ path.text
  | unknownTier unknown => unknown.message
  | missingBaseline tier =>
    "no baseline configured for tier " ++ tier.name ++ " (set tiers." ++ tier.name ++
      ".baseline or baseline_dir)"
  | emptyBaseline tier => "tier " ++ tier.name ++ " has an empty baseline path"
  | tierDisabled tier =>
    "tier " ++ tier.name ++ " was requested but is disabled in the configuration"
  | noTiers => "no tier has a baseline configured"
  | invalidMaxParallel => "max_parallel must be at least 1"
  | emptyCredentialSetting setting => "credential " ++ setting.key ++ " must not be empty"

end ConfigError

namespace Config

/-- The settings of a run for which nothing is configured. -/
def default : Config where
  baselineDir := none
  tiers := fun _ => none
  connection := CredentialKeys.defaultConnection
  alternateIdentity := CredentialKeys.defaultAlternate
  selected := []
  parallel := false
  failFast := false
  maxParallel := 4

instance : Inhabited Config := ⟨default⟩

/-- Replaces the settings of a tier. -/
def setTier (config : Config) (tier : Tier) (settings : Option TierSettings) : Config :=
  { config with tiers := fun t => if t = tier then settings else config.tiers t }

/-- Gives a tier a baseline of its own. -/
def setBaseline (config : Config) (tier : Tier) (path : Path) : Config :=
  let settings := (config.tiers tier).getD .empty
  config.setTier tier (some { settings with baseline := some path })

/-- The variables that hold the credentials. -/
def credentialKeys (config : Config) : CredentialKeys :=
  .ofConnection config.connection config.alternateIdentity

/-- How the tiers are to be run. -/
def schedule (config : Config) : Schedule :=
  ⟨config.parallel, config.failFast, config.maxParallel⟩

/-- The baseline of a tier: its own, or the one in the common directory. -/
def baseline? (config : Config) (tier : Tier) : Option Path :=
  match (config.tiers tier).bind (·.baseline) with
  | some path => some path
  | none => config.baselineDir.map (·.join tier.baselineFileName)

/-- Whether a tier was asked for by name. -/
def isRequested (config : Config) (tier : Tier) : Bool := config.selected.contains tier

/-- Whether a tier is switched on. -/
def isEnabled (config : Config) (tier : Tier) : Bool :=
  (config.tiers tier).all (·.isEnabled)

/-- The profile of a tier with a baseline. -/
def profile (config : Config) (tier : Tier) (baseline : Path) : Profile :=
  let settings := (config.tiers tier).getD .empty
  { tier
    baseline
    credentialRule := settings.credentialRule.getD tier.checksCredentials
    credentials := config.credentialKeys
    exclusionsOverride := settings.exclusions }

/-- The profile of a tier, or none if it is not to be checked.  A tier that was asked for has to be
switched on, and one that was asked for or is configured has to have a baseline. -/
def profile? (config : Config) (tier : Tier) : Except ConfigError (Option Profile) :=
  if !config.selected.isEmpty && !config.isRequested tier then .ok none
  else if !config.isEnabled tier then
    if config.isRequested tier then .error (.tierDisabled tier) else .ok none
  else match config.baseline? tier with
    | none =>
      if config.isRequested tier || (config.tiers tier).isSome then .error (.missingBaseline tier)
      else .ok none
    | some path =>
      if path.text = "" then .error (.emptyBaseline tier)
      else .ok (some (config.profile tier path))

/-- The settings that concern all tiers have to make sense. -/
def checkCommon (config : Config) : Except ConfigError Unit :=
  if config.maxParallel = 0 then .error .invalidMaxParallel
  else if trim config.connection = "" then .error (.emptyCredentialSetting .connection)
  else if trim config.alternateIdentity = "" then
    .error (.emptyCredentialSetting .alternateIdentity)
  else .ok ()

/-- The profiles of the tiers to check, in the order of the tiers.  There has to be one. -/
def profiles (config : Config) : Except ConfigError (List Profile) := do
  config.checkCommon
  let profiles := (← Tier.all.mapM config.profile?).filterMap id
  if profiles.isEmpty then .error .noTiers else .ok profiles

end Config

end TierAudit
