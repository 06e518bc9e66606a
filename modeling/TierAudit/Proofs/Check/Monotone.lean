import Mathlib.Data.List.Basic
import TierAudit.Proofs.Check.Agreement

/-!
# Check — fewer declarations

A finding needs a declaration of the tier and, with one exception, one of the baseline: it says that
they differ.  The schema of the alternate identity is the exception, and it needs the declaration of
the user.  So whatever is taken out of one of the files or left out of the comparison, what is found
then was found before, in the same order (`findings_sublist`).
-/

namespace TierAudit

/-! ### Lists -/

section
variable {α β : Type} {f g : α → Option β}

/-- A function that is defined in fewer places gives fewer results, in the same order. -/
theorem filterMap_sublist_filterMap (h : ∀ x y, f x = some y → g x = some y) (xs : List α) :
    (xs.filterMap f).Sublist (xs.filterMap g) := by
  induction xs with
  | nil => exact .slnil
  | cons x rest ih =>
      cases hf : f x with
      | some y =>
          rw [List.filterMap_cons_some hf, List.filterMap_cons_some (h x y hf)]
          exact ih.cons_cons y
      | none =>
          rw [List.filterMap_cons_none hf]
          cases hg : g x with
          | none => rwa [List.filterMap_cons_none hg]
          | some y =>
              rw [List.filterMap_cons_some hg]
              exact ih.cons y

theorem toList_sublist {o o' : Option α} (h : ∀ x, o = some x → o' = some x) :
    o.toList.Sublist o'.toList := by
  cases o with
  | none => exact List.nil_sublist _
  | some x => rw [h x rfl]

end

/-! ### Expectations -/

namespace CredentialKeys
variable {keys : CredentialKeys} {baseline baseline' : Variables} {user expected : String}

theorem expectedSchema?_of_within (hbaseline : baseline'.Within baseline)
    (h : keys.expectedSchema? baseline' user = some expected) :
    keys.expectedSchema? baseline user = some expected := by
  unfold expectedSchema? at h ⊢
  split
  · next halternate => rwa [if_pos halternate] at h
  · next hother =>
    rw [if_neg hother] at h
    exact hbaseline _ _ h

theorem expectedPassword?_of_within (hbaseline : baseline'.Within baseline)
    (h : keys.expectedPassword? baseline' user = some expected) :
    keys.expectedPassword? baseline user = some expected :=
  hbaseline _ _ h

end CredentialKeys

/-! ### Findings -/

namespace Check
variable {tier : Tier} {keys : CredentialKeys} {vars vars' baseline baseline' : Variables}
  {exclusions exclusions' : List String}

theorem mismatch?_of_within (hvars : vars'.Within vars) (v : Variable) (finding : Finding)
    (h : mismatch? tier vars' v = some finding) : mismatch? tier vars v = some finding := by
  unfold mismatch? at h ⊢
  cases hfound : vars'.get? v.name with
  | none =>
      rw [hfound] at h
      cases h
  | some found =>
      rw [hfound] at h
      rw [hvars _ _ hfound]
      exact h

theorem values_sublist (hvars : vars'.Within vars)
    (hbaseline : baseline'.entries.Sublist baseline.entries) (hexclusions : exclusions ⊆ exclusions') :
    (values tier vars' baseline' exclusions').Sublist (values tier vars baseline exclusions) := by
  have hcompared : (baseline'.entries.filter fun v => v.name ∉ exclusions').Sublist
      (baseline.entries.filter fun v => v.name ∉ exclusions) := by
    refine (hbaseline.filter _).trans (List.monotone_filter_right _ fun v hv => ?_)
    rw [decide_eq_true_eq] at hv ⊢
    exact fun hmem => hv (hexclusions hmem)
  exact (hcompared.filterMap _).trans (filterMap_sublist_filterMap (mismatch?_of_within hvars) _)

theorem credentials_sublist (hvars : vars'.Within vars) (hbaseline : baseline'.Within baseline) :
    (credentials tier keys vars' baseline').Sublist (credentials tier keys vars baseline) := by
  have hschemas : ∀ user, (keys.expectedSchema? baseline' user).toList.Sublist
      (keys.expectedSchema? baseline user).toList :=
    fun user => toList_sublist fun _ => CredentialKeys.expectedSchema?_of_within hbaseline
  have hpasswords : ∀ user, (keys.expectedPassword? baseline' user).toList.Sublist
      (keys.expectedPassword? baseline user).toList :=
    fun user => toList_sublist fun _ => CredentialKeys.expectedPassword?_of_within hbaseline
  -- Without a user or a schema nothing is found.  A user that is left is the one from before, so the
  -- same is expected of it, or nothing.
  cases huser : vars'.get? keys.user with
  | none =>
      rw [credentials, huser]
      exact List.nil_sublist _
  | some user =>
      cases hschema : vars'.get? keys.schemaName with
      | none =>
          rw [credentials, huser, hschema]
          exact List.nil_sublist _
      | some schema =>
          simp only [credentials, huser, hschema, hvars _ _ huser, hvars _ _ hschema]
          refine (((hschemas user).filter _).map _).append ?_
          cases hpassword : vars'.get? keys.password with
          | none => exact List.nil_sublist _
          | some password =>
              rw [hvars _ _ hpassword]
              exact ((hpasswords user).filter _).map _

end Check

/-- A profile that leaves more names out. -/
def Profile.leavingOut (profile : Profile) (names : List String) : Profile :=
  { profile with exclusionsOverride := some names }

namespace Check

/-- **Fewer declarations and more exclusions give no new findings.**  If the tier declares nothing
that it did not declare before, some declarations of the baseline are gone and no exclusion is, then
the values and the credentials that are found at fault are among those before, in the same order;
and so it is for the whole check of a profile. -/
theorem findings_sublist (tier : Tier) (keys : CredentialKeys)
    {vars vars' baseline baseline' : Variables} {exclusions exclusions' : List String}
    (hvars : vars'.Within vars) (hbaseline : baseline'.entries.Sublist baseline.entries)
    (hexclusions : exclusions ⊆ exclusions') :
    (values tier vars' baseline' exclusions').Sublist (values tier vars baseline exclusions) ∧
      (credentials tier keys vars' baseline').Sublist (credentials tier keys vars baseline) ∧
      ∀ profile : Profile, profile.exclusions = exclusions →
        ((profile.leavingOut exclusions').check vars' baseline').Sublist
          (profile.check vars baseline) := by
  have hcredentials : ∀ tier keys, (credentials tier keys vars' baseline').Sublist
      (credentials tier keys vars baseline) :=
    fun _ _ => credentials_sublist hvars (Variables.within_of_subset hbaseline.subset)
  refine ⟨values_sublist hvars hbaseline hexclusions, hcredentials tier keys,
    fun profile hprofile => ?_⟩
  unfold Profile.check
  refine (values_sublist hvars hbaseline (hprofile ▸ hexclusions)).append ?_
  -- Leaving names out does not switch the check of credentials on or off.
  change (if profile.credentialRule then _ else _ : List Finding).Sublist _
  split
  · exact hcredentials _ _
  · exact List.Sublist.refl _

/-- The variables of a tier, and what is left of them without its password. -/
def withPassword : Variables :=
  .ofList [("A", "1"), ("c/USER", "app"), ("c/SCHEMA_NAME", "own"), ("c/PASSWORD", "x")]

def withoutPassword : Variables :=
  .ofList [("c/SCHEMA_NAME", "own"), ("A", "1"), ("c/USER", "app")]

/-- A baseline, and the same without one of its variables. -/
def fullBaseline : Variables :=
  .ofList [("B", "0"), ("A", "2"), ("c/SCHEMA_NAME", "common"), ("c/PASSWORD", "y")]

def partBaseline : Variables :=
  .ofList [("A", "2"), ("c/SCHEMA_NAME", "common"), ("c/PASSWORD", "y")]

/-- The schema is still reported, and one of the values. -/
theorem findings_sublist_withoutPassword :
    let keys := CredentialKeys.ofConnection "c/" "ro"
    withoutPassword.Within withPassword ∧ partBaseline.entries.Sublist fullBaseline.entries ∧
      values .it withoutPassword partBaseline ["c/SCHEMA_NAME"] =
        [.of .it (.variableMismatch "A" "2" "1")] ∧
      (values .it withoutPassword partBaseline ["c/SCHEMA_NAME"]).Sublist
        (values .it withPassword fullBaseline []) ∧
      credentials .it keys withoutPassword partBaseline =
        [.of .it (.schemaMismatch "app" "common" "own")] ∧
      (credentials .it keys withoutPassword partBaseline).Sublist
        (credentials .it keys withPassword fullBaseline) := by
  intro keys
  have hvars : withoutPassword.Within withPassword := by decide +kernel
  have hbaseline : partBaseline.entries.Sublist fullBaseline.entries := by decide +kernel
  obtain ⟨hvalues, hcredentials, -⟩ :=
    findings_sublist .it keys hvars hbaseline (List.nil_subset ["c/SCHEMA_NAME"])
  exact ⟨hvars, hbaseline, by decide +kernel, hvalues, by decide +kernel, hcredentials⟩

end Check

end TierAudit
