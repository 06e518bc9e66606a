import TierAudit.Profile
import TierAudit.Proofs.Variables

/-!
# Check — agreement

When a tier is as its baseline wants it (`Profile.Agrees`): the check of a profile finds nothing on
the variables of such a tier, and on those of any other it finds errors
(`check_eq_nil_iff`, `isError_of_mem_check`).
-/

namespace TierAudit
open Text

/-! ### What is asked of a tier -/

/-- A name that both declare has the same value, unless it is left out. -/
def ValuesAgree (exclusions : List String) (vars baseline : Variables) : Prop :=
  ∀ name found expected, name ∉ exclusions → vars.get? name = some found →
    baseline.get? name = some expected → found = expected

/-- If a user and a schema are declared, the schema and a password are those of the user: of the
alternate identity if the user names it, in whatever case, and of the baseline otherwise. -/
def CredentialsAgree (keys : CredentialKeys) (vars baseline : Variables) : Prop :=
  ∀ user schema, vars.get? keys.user = some user → vars.get? keys.schemaName = some schema →
    if equalsIgnoringCase user keys.alternateIdentity then
      schema = keys.alternateIdentity ∧
        ∀ password expected, vars.get? keys.password = some password →
          baseline.get? keys.alternatePassword = some expected → password = expected
    else
      (∀ expected, baseline.get? keys.schemaName = some expected → schema = expected) ∧
        ∀ password expected, vars.get? keys.password = some password →
          baseline.get? keys.password = some expected → password = expected

/-- The variables of a tier are as a profile wants them. -/
structure Profile.Agrees (profile : Profile) (vars baseline : Variables) : Prop where
  values : ValuesAgree profile.exclusions vars baseline
  credentials : profile.credentialRule = true →
    CredentialsAgree profile.credentials vars baseline

namespace Check

/-! ### Values -/

theorem mismatch?_eq_none_iff {tier : Tier} {vars : Variables} {expected : Variable} :
    mismatch? tier vars expected = none ↔
      ∀ found, vars.get? expected.name = some found → found = expected.value := by
  unfold mismatch?
  split
  · next found h => simp [h]
  · next h => simp [h]

theorem values_eq_nil_iff {tier : Tier} {vars baseline : Variables} {exclusions : List String} :
    values tier vars baseline exclusions = [] ↔ ValuesAgree exclusions vars baseline := by
  rw [values, List.filterMap_eq_nil_iff]
  constructor
  · intro h name found expected hname hfound hexpected
    obtain ⟨v, hv, rfl, rfl⟩ := Variables.get?_eq_some_iff.mp hexpected
    have hmem : v ∈ baseline.entries.filter fun v => v.name ∉ exclusions :=
      List.mem_filter.mpr ⟨hv, by simpa using hname⟩
    exact mismatch?_eq_none_iff.mp (h v hmem) found hfound
  · intro h v hv
    obtain ⟨hv, hname⟩ := List.mem_filter.mp hv
    refine mismatch?_eq_none_iff.mpr fun found hfound => ?_
    exact h v.name found v.value (by simpa using hname) hfound
      (Variables.get?_eq_some_iff.mpr ⟨v, hv, rfl, rfl⟩)

theorem isError_of_mem_values {tier : Tier} {vars baseline : Variables} {exclusions : List String}
    {finding : Finding} (h : finding ∈ values tier vars baseline exclusions) :
    finding.isError = true := by
  obtain ⟨v, -, hv⟩ := List.mem_filterMap.mp h
  unfold mismatch? at hv
  split at hv
  · split at hv
    · cases hv
    · cases hv
      rfl
  · cases hv

/-! ### Credentials -/

/-- Nothing is left of what is expected once what was found is taken away. -/
theorem filter_ne_eq_nil_iff {expected : Option String} {found : String} :
    expected.toList.filter (· ≠ found) = [] ↔ ∀ e, expected = some e → found = e := by
  cases expected with
  | none => simp
  | some e =>
      simp only [Option.toList_some, List.filter_eq_nil_iff, List.mem_singleton, forall_eq,
        decide_eq_true_eq, Classical.not_not, Option.some.injEq, forall_eq']
      exact eq_comm

/-- What credentials have to be, told by what is expected of them. -/
theorem credentialsAgree_iff {keys : CredentialKeys} {vars baseline : Variables}
    {user schema : String} (hu : vars.get? keys.user = some user)
    (hs : vars.get? keys.schemaName = some schema) :
    CredentialsAgree keys vars baseline ↔
      (∀ e, keys.expectedSchema? baseline user = some e → schema = e) ∧
        ∀ password, vars.get? keys.password = some password →
          ∀ e, keys.expectedPassword? baseline user = some e → password = e := by
  have hagree : CredentialsAgree keys vars baseline ↔ _ :=
    ⟨fun h => h user schema hu hs, fun h user' schema' hu' hs' => by
      cases hu.symm.trans hu'
      cases hs.symm.trans hs'
      exact h⟩
  rw [hagree]
  unfold CredentialKeys.expectedSchema? CredentialKeys.expectedPassword? CredentialKeys.isAlternate
  cases equalsIgnoringCase user keys.alternateIdentity with
  | true =>
      simp only [if_true, Option.some.injEq, forall_eq']
      exact and_congr_right fun _ => forall_congr' fun _ => forall_comm
  | false =>
      simp only [Bool.false_eq_true, if_false]
      exact and_congr_right fun _ => forall_congr' fun _ => forall_comm

theorem credentials_eq_nil_iff {tier : Tier} {keys : CredentialKeys} {vars baseline : Variables} :
    credentials tier keys vars baseline = [] ↔ CredentialsAgree keys vars baseline := by
  unfold credentials
  split
  · next user schema hu hs =>
    rw [credentialsAgree_iff hu hs, List.append_eq_nil_iff, List.map_eq_nil_iff,
      filter_ne_eq_nil_iff]
    refine and_congr_right fun _ => ?_
    split
    · next password hp =>
      rw [hp, List.map_eq_nil_iff, filter_ne_eq_nil_iff]
      exact ⟨fun h _ he => Option.some.inj he ▸ h, fun h => h password rfl⟩
    · next hp =>
      rw [hp]
      refine ⟨fun _ password h => ?_, fun _ => rfl⟩
      cases h
  · next hnone =>
    exact ⟨fun _ user schema hu hs => (hnone user schema hu hs).elim, fun _ => rfl⟩

theorem isError_of_mem_credentials {tier : Tier} {keys : CredentialKeys}
    {vars baseline : Variables} {finding : Finding}
    (h : finding ∈ credentials tier keys vars baseline) : finding.isError = true := by
  unfold credentials at h
  split at h
  · rcases List.mem_append.mp h with h | h
    · obtain ⟨expected, -, rfl⟩ := List.mem_map.mp h
      rfl
    · split at h
      · obtain ⟨expected, -, rfl⟩ := List.mem_map.mp h
        rfl
      · cases h
  · cases h

end Check

/-! ### Profiles -/

/-- Nothing is found exactly if the tier is as the profile wants it. -/
theorem Profile.check_eq_nil_iff {profile : Profile} {vars baseline : Variables} :
    profile.check vars baseline = [] ↔ profile.Agrees vars baseline := by
  rw [check, List.append_eq_nil_iff, Check.values_eq_nil_iff]
  constructor
  · rintro ⟨hvalues, hcredentials⟩
    refine ⟨hvalues, fun hrule => ?_⟩
    rw [if_pos hrule] at hcredentials
    exact Check.credentials_eq_nil_iff.mp hcredentials
  · rintro ⟨hvalues, hcredentials⟩
    refine ⟨hvalues, ?_⟩
    split
    · next hrule => exact Check.credentials_eq_nil_iff.mpr (hcredentials hrule)
    · rfl

/-- Whatever is found on variables is an error. -/
theorem Profile.isError_of_mem_check {profile : Profile} {vars baseline : Variables}
    {finding : Finding} (h : finding ∈ profile.check vars baseline) : finding.isError = true := by
  rcases List.mem_append.mp h with h | h
  · exact Check.isError_of_mem_values h
  · split at h
    · exact Check.isError_of_mem_credentials h
    · cases h

end TierAudit
