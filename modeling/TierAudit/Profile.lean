import TierAudit.Check.Credentials
import TierAudit.Check.Values
import TierAudit.Rule

/-!
# Profiles

Everything that the check of one tier needs to know besides the project.
-/

namespace TierAudit

/-- How one tier is checked. -/
structure Profile where
  tier : Tier
  /-- The file of predefined values that the tier's file is held against. -/
  baseline : Path
  /-- Whether the credentials are checked. -/
  credentialRule : Bool
  credentials : CredentialKeys
  /-- The names to leave out of the comparison, instead of the usual ones. -/
  exclusionsOverride : Option (List String)
  deriving DecidableEq, Repr

namespace Profile

/-- The usual check of a tier. -/
def new (tier : Tier) (baseline : Path) : Profile where
  tier
  baseline
  credentialRule := tier.checksCredentials
  credentials := .default
  exclusionsOverride := none

def rule (profile : Profile) : Rule := Rule.ofTier profile.tier profile.credentialRule

/-- The names that are left out of the comparison: the configured ones, or else the credentials if
they are checked on their own. -/
def exclusions (profile : Profile) : List String :=
  match profile.exclusionsOverride with
  | some names => names
  | none => if profile.credentialRule then profile.credentials.names else []

/-- The findings on the variables of a tier. -/
def check (profile : Profile) (vars baseline : Variables) : List Finding :=
  Check.values profile.tier vars baseline profile.exclusions ++
    if profile.credentialRule then
      Check.credentials profile.tier profile.credentials vars baseline
    else []

end Profile

end TierAudit
