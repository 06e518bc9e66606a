import TierAudit.Proofs.Check.Credentials
import TierAudit.Proofs.Config.Profiles

/-!
# Configuration — the credentials of an accepted configuration

A configuration is accepted if the settings of its connection are not blank; blanks at their ends do
not matter to that.  They matter to the check of credentials: with some of them it has nothing left
to report (`credentials_of_profiles`).
-/

namespace TierAudit.Config
open Text

/-- **The credential rule of an accepted configuration.**  The connection and the alternate identity
are not blank, but it takes more for the rule to report anything: that no blank stands in front of
the connection, and for the password of the alternate identity that this is trimmed as well. -/
theorem credentials_of_profiles {config : Config} {profiles : List Profile} {profile : Profile}
    (h : config.profiles = .ok profiles) (hmem : profile ∈ profiles) :
    (trim config.connection ≠ "" ∧ trim config.alternateIdentity ≠ "") ∧
    profile.credentials = .ofConnection config.connection config.alternateIdentity ∧
    ((∀ name ∈ [profile.credentials.user, profile.credentials.schemaName,
        profile.credentials.password], trim name = name) ↔ NoBlankStart config.connection) ∧
    (trim profile.credentials.alternatePassword = profile.credentials.alternatePassword ↔
      NoBlankStart config.connection ∧ NoBlankEnd config.alternateIdentity) ∧
    (profile.credentials.ReportsSchema profile.tier ↔ NoBlankStart config.connection) ∧
    (profile.credentials.ReportsAlternatePassword profile.tier ↔
      NoBlankStart config.connection ∧
        trim config.alternateIdentity = config.alternateIdentity) := by
  obtain ⟨tier, baseline, rfl⟩ := exists_of_mem_profiles h hmem
  have hcommon := checkCommon_eq_ok_iff.mp (profiles_eq_ok_iff.mp h).1
  exact ⟨hcommon.2, rfl, CredentialKeys.trim_names_iff _ _,
    CredentialKeys.trim_alternatePassword_iff, CredentialKeys.reportsSchema_iff,
    CredentialKeys.reportsAlternatePassword_iff⟩

/-- A configuration whose connection begins with a blank. -/
def paddedConnection : Config :=
  { default with connection := " //conn/" }.setBaseline .it ⟨"b"⟩

/-- It is accepted, and no credential is ever reported. -/
theorem credentials_of_profiles_paddedConnection :
    ∃ profile, paddedConnection.profiles = .ok [profile] ∧ profile.credentialRule = true ∧
      ¬ profile.credentials.ReportsSchema profile.tier ∧
      ¬ profile.credentials.ReportsAlternatePassword profile.tier := by
  have hprofiles : paddedConnection.profiles = .ok [paddedConnection.profile .it ⟨"b"⟩] := by
    rfl
  have hblank : ¬ NoBlankStart paddedConnection.connection := by
    decide
  obtain ⟨-, -, -, -, hschema, hpassword⟩ :=
    credentials_of_profiles hprofiles (List.mem_singleton_self _)
  exact ⟨_, hprofiles, rfl, fun hreports => hblank (hschema.mp hreports),
    fun hreports => hblank (hpassword.mp hreports).1⟩

end TierAudit.Config
