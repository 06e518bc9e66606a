import TierAudit.Proofs.Check.Credentials
import TierAudit.Proofs.Check.Differences

/-!
# Check — what findings repeat

The findings on two files repeat names and values that the files declare, and of the profile only
the alternate identity (`repeats_of_mem_check`).
-/

namespace TierAudit

/-- The texts from outside that the message of a defect repeats. -/
def Defect.repeated : Defect → List String
  | missingTierFile | aborted => []
  | invalidBaseline path => [path.text]
  | unparsable file cause => [file, cause]
  | variableMismatch name expected found => [name, expected, found]
  | schemaMismatch user expected found | passwordMismatch user expected found =>
    [user, expected, found]

/-- All names and values of variables have a property. -/
def Variables.All (p : String → Prop) (vars : Variables) : Prop :=
  ∀ v ∈ vars.entries, p v.name ∧ p v.value

section
variable {p : String → Prop} {vars baseline : Variables}

theorem Variables.All.of_get? (h : vars.All p) {name value : String}
    (hvalue : vars.get? name = some value) : p name ∧ p value := by
  obtain ⟨v, hv, rfl, rfl⟩ := get?_eq_some_iff.mp hvalue
  exact h v hv

/-- A finding on a defect that repeats nothing but texts with a property. -/
def Finding.Repeats (p : String → Prop) (tier : Tier) (finding : Finding) : Prop :=
  ∃ defect : Defect, finding = .of tier defect ∧ ∀ text ∈ defect.repeated, p text

theorem repeats_of_mem_values {tier : Tier} {exclusions : List String} {finding : Finding}
    (hvars : vars.All p) (hbaseline : baseline.All p)
    (h : finding ∈ Check.values tier vars baseline exclusions) : finding.Repeats p tier := by
  rw [Check.values_eq_map] at h
  obtain ⟨d, hd, rfl⟩ := List.mem_map.mp h
  obtain ⟨-, hexpected, hfound, -⟩ := (Check.lists_differences.mem_iff d).mp hd
  refine ⟨_, rfl, ?_⟩
  simp only [Defect.repeated, List.forall_mem_cons]
  exact ⟨(hbaseline.of_get? hexpected).1, (hbaseline.of_get? hexpected).2,
    (hvars.of_get? hfound).2, by simp⟩

theorem repeats_of_mem_credentials {tier : Tier} {keys : CredentialKeys} {finding : Finding}
    (hvars : vars.All p) (hbaseline : baseline.All p) (hidentity : p keys.alternateIdentity)
    (h : finding ∈ Check.credentials tier keys vars baseline) : finding.Repeats p tier := by
  rw [Check.credentials_eq] at h
  rcases List.mem_append.mp h with hd | hd
  · obtain ⟨d, hmem, rfl⟩ := List.mem_map.mp hd
    obtain ⟨huser, hfound, hexpected, -⟩ :=
      Check.schemaDifference?_eq_some_iff.mp (Option.mem_toList.mp hmem)
    have hschema : p d.expected := by
      unfold CredentialKeys.expectedSchema? at hexpected
      split at hexpected
      · exact Option.some.inj hexpected ▸ hidentity
      · exact (hbaseline.of_get? hexpected).2
    refine ⟨_, rfl, ?_⟩
    simp only [Defect.repeated, List.forall_mem_cons]
    exact ⟨(hvars.of_get? huser).2, hschema, (hvars.of_get? hfound).2, by simp⟩
  · obtain ⟨d, hmem, rfl⟩ := List.mem_map.mp hd
    obtain ⟨huser, -, hfound, hexpected, -⟩ :=
      Check.passwordDifference?_eq_some_iff.mp (Option.mem_toList.mp hmem)
    refine ⟨_, rfl, ?_⟩
    simp only [Defect.repeated, List.forall_mem_cons]
    exact ⟨(hvars.of_get? huser).2, (hbaseline.of_get? hexpected).2, (hvars.of_get? hfound).2,
      by simp⟩

/-- **What the findings on two files repeat** is declared in one of them, but for the alternate
identity. -/
theorem repeats_of_mem_check {profile : Profile} {finding : Finding} (hvars : vars.All p)
    (hbaseline : baseline.All p) (hidentity : p profile.credentials.alternateIdentity)
    (h : finding ∈ profile.check vars baseline) : finding.Repeats p profile.tier := by
  rcases List.mem_append.mp h with h | h
  · exact repeats_of_mem_values hvars hbaseline h
  · split at h
    · exact repeats_of_mem_credentials hvars hbaseline hidentity h
    · cases h

end

end TierAudit
