import TierAudit.Check.Credentials
import TierAudit.Proofs.Variables

/-!
# Check — what the report on an identity goes by

A baseline holds the secrets of two identities.  Which of them the check of credentials asks for
depends on the user that the tier declares (`CredentialKeys.asked`), and it asks for nothing else
(`credentials_congr_asked`).  So the report on one identity tells nothing of the other's password,
and the kinds of its findings do not tell in which case the alternate identity is written
(`credentials_confined`).
-/

namespace TierAudit
open Text

namespace CredentialKeys

/-- What the check of credentials asks a baseline for: one password of the alternate identity, the
schema and the other password of any other user. -/
def asked (keys : CredentialKeys) (user : String) : List String :=
  if keys.isAlternate user then [keys.alternatePassword] else [keys.schemaName, keys.password]

section
variable {keys : CredentialKeys} {baseline baseline' : Variables} {user : String}

theorem asked_of_alternate (keys : CredentialKeys) (h : keys.isAlternate user = true) :
    keys.asked user = [keys.alternatePassword] :=
  if_pos h

theorem asked_of_other (keys : CredentialKeys) (h : keys.isAlternate user = false) :
    keys.asked user = [keys.schemaName, keys.password] :=
  if_neg (Bool.not_eq_true _ ▸ h)

theorem asked_subset (keys : CredentialKeys) (user : String) :
    keys.asked user ⊆ [keys.schemaName, keys.password, keys.alternatePassword] := by
  unfold asked
  split <;> simp

theorem expectedSchema?_congr (h : baseline.AgreeOn baseline' (keys.asked user)) :
    keys.expectedSchema? baseline user = keys.expectedSchema? baseline' user := by
  unfold expectedSchema?
  split
  · rfl
  · next hother =>
    rw [keys.asked_of_other (Bool.eq_false_iff.mpr hother)] at h
    exact h keys.schemaName List.mem_cons_self

theorem expectedPassword?_congr (h : baseline.AgreeOn baseline' (keys.asked user)) :
    keys.expectedPassword? baseline user = keys.expectedPassword? baseline' user := by
  unfold expectedPassword?
  split
  · next halternate =>
    rw [keys.asked_of_alternate halternate] at h
    exact h keys.alternatePassword List.mem_cons_self
  · next hother =>
    rw [keys.asked_of_other (Bool.eq_false_iff.mpr hother)] at h
    exact h keys.password (List.mem_cons_of_mem _ List.mem_cons_self)

end

/-- No other name of a connection begins as the name of the alternate identity's password does. -/
theorem ne_alternatePassword (connection ending alternate : String)
    (h : ¬ "PASSWORD_".toList <+: ending.toList) :
    connection ++ ending ≠ connection ++ "PASSWORD_" ++ alternate := by
  rw [String.append_assoc, ne_eq, String.append_right_inj]
  rintro rfl
  exact h ⟨alternate.toList, String.toList_append.symm⟩

/-- The variables of a connection have different names, whatever the alternate identity is called. -/
theorem nodup_names_ofConnection (connection alternate : String) :
    (ofConnection connection alternate).names.Nodup := by
  have huser := ne_alternatePassword connection "USER" alternate (by decide)
  have hschema := ne_alternatePassword connection "SCHEMA_NAME" alternate (by decide)
  have hpassword := ne_alternatePassword connection "PASSWORD" alternate (by decide)
  simp [names, ofConnection, huser, hschema, hpassword]

end CredentialKeys

namespace Check
open Variables

variable {tier : Tier} {keys : CredentialKeys} {vars vars' baseline baseline' : Variables}

/-- The check of credentials goes by three variables of the tier, and of the baseline by what it
asks for the user of the tier. -/
theorem credentials_congr_asked
    (hvars : vars.AgreeOn vars' [keys.user, keys.schemaName, keys.password])
    (hbaseline : ∀ user, vars.get? keys.user = some user →
      baseline.AgreeOn baseline' (keys.asked user)) :
    credentials tier keys vars baseline = credentials tier keys vars' baseline' := by
  simp only [AgreeOn, List.forall_mem_cons] at hvars
  obtain ⟨huser, hschema, hpassword, -⟩ := hvars
  unfold credentials
  rw [← huser, ← hschema, ← hpassword]
  cases hu : vars.get? keys.user with
  | none => rfl
  | some user =>
      cases vars.get? keys.schemaName with
      | none => rfl
      | some schema =>
          simp only [CredentialKeys.expectedSchema?_congr (hbaseline user hu),
            CredentialKeys.expectedPassword?_congr (hbaseline user hu)]

/-- Of the user the kinds of the findings tell only whether it is the alternate identity. -/
theorem kinds_credentials_congr {user user' : String} (huser : vars.get? keys.user = some user)
    (huser' : vars'.get? keys.user = some user')
    (hsame : keys.isAlternate user = keys.isAlternate user')
    (hvars : vars.AgreeOn vars' [keys.schemaName, keys.password]) :
    (credentials tier keys vars baseline).map Finding.kind =
      (credentials tier keys vars' baseline).map Finding.kind := by
  simp only [AgreeOn, List.forall_mem_cons] at hvars
  obtain ⟨hschema, hpassword, -⟩ := hvars
  have hexpected : keys.expectedSchema? baseline user = keys.expectedSchema? baseline user' := by
    rw [CredentialKeys.expectedSchema?, hsame, CredentialKeys.expectedSchema?]
  have hexpected' : keys.expectedPassword? baseline user = keys.expectedPassword? baseline user' := by
    rw [CredentialKeys.expectedPassword?, hsame, CredentialKeys.expectedPassword?]
  unfold credentials
  rw [huser, huser', ← hschema, ← hpassword]
  cases vars.get? keys.schemaName with
  | none => rfl
  | some schema =>
      simp only [hexpected, hexpected', List.map_append, List.map_map]
      cases vars.get? keys.password with
      | none => rfl
      | some password => simp only [List.map_map]; rfl

/-- **The report on one identity tells nothing of the other's secret.**  If the user of a tier is the
alternate identity, the password of this identity is all that the baseline has to do with the
findings; for any other user it is the schema and the other password.  These are variables of
different names, and the user of the baseline is another one still.  Of the tier only the user, the
schema and the password matter, and in which case the alternate identity is written does not matter
to what kind of findings there are. -/
theorem credentials_confined (tier : Tier) (connection alternate : String) (vars : Variables) :
    let keys := CredentialKeys.ofConnection connection alternate
    (∀ user, vars.get? keys.user = some user → equalsIgnoringCase user alternate = true →
      ∀ baseline baseline' : Variables,
        baseline.get? keys.alternatePassword = baseline'.get? keys.alternatePassword →
          credentials tier keys vars baseline = credentials tier keys vars baseline') ∧
    ((∀ user, vars.get? keys.user = some user → equalsIgnoringCase user alternate = false) →
      ∀ baseline baseline' : Variables,
        baseline.get? keys.schemaName = baseline'.get? keys.schemaName →
          baseline.get? keys.password = baseline'.get? keys.password →
            credentials tier keys vars baseline = credentials tier keys vars baseline') ∧
    [keys.user, keys.schemaName, keys.password, keys.alternatePassword].Nodup ∧
    (∀ vars' baseline : Variables,
      vars.AgreeOn vars' [keys.user, keys.schemaName, keys.password] →
        credentials tier keys vars baseline = credentials tier keys vars' baseline) ∧
    ∀ (vars' baseline : Variables) (user user' : String), vars.get? keys.user = some user →
      vars'.get? keys.user = some user' → equalsIgnoringCase user alternate = true →
        equalsIgnoringCase user' alternate = true →
          vars.AgreeOn vars' [keys.schemaName, keys.password] →
            (credentials tier keys vars baseline).map Finding.kind =
              (credentials tier keys vars' baseline).map Finding.kind := by
  intro keys
  -- The user of the tier is one and the same in each part, and decides what is asked.
  refine ⟨fun user huser halternate baseline baseline' hpassword => ?_,
    fun hother baseline baseline' hschema hpassword => ?_,
    CredentialKeys.nodup_names_ofConnection connection alternate, fun vars' baseline hvars => ?_,
    fun vars' baseline user user' huser huser' halternate halternate' hvars => ?_⟩
  · refine credentials_congr_asked (fun _ _ => rfl) fun user' huser' => ?_
    cases huser.symm.trans huser'
    rw [keys.asked_of_alternate halternate]
    exact List.forall_mem_singleton.mpr hpassword
  · refine credentials_congr_asked (fun _ _ => rfl) fun user huser => ?_
    rw [keys.asked_of_other (hother user huser)]
    exact List.forall_mem_cons.mpr ⟨hschema, List.forall_mem_singleton.mpr hpassword⟩
  · exact credentials_congr_asked hvars fun _ _ _ _ => rfl
  · exact kinds_credentials_congr huser huser' (halternate.trans halternate'.symm) hvars

/-- The variables of a tier that logs in as some user. -/
def loginAs (user : String) : Variables :=
  .ofList [("c/USER", user), ("c/SCHEMA_NAME", "own"), ("c/PASSWORD", "x")]

/-- A baseline with the secrets of both identities. -/
def bothSecrets : Variables :=
  .ofList [("c/SCHEMA_NAME", "common"), ("c/PASSWORD", "y"), ("c/PASSWORD_ro", "z")]

/-- Baselines that agree with it on what concerns one of the identities only. -/
def alternateSecret : Variables :=
  .ofList [("c/PASSWORD_ro", "z"), ("c/PASSWORD", "w"), ("c/USER", "app")]

def primarySecret : Variables := .ofList [("c/PASSWORD", "y"), ("c/SCHEMA_NAME", "common")]

/-- What is found is the same whether the baseline has the other secret, another one or none. -/
theorem credentials_confined_twoIdentities :
    let keys := CredentialKeys.ofConnection "c/" "ro"
    credentials .it keys (loginAs "RO") bothSecrets =
        [.of .it (.schemaMismatch "RO" "ro" "own"), .of .it (.passwordMismatch "RO" "z" "x")] ∧
      credentials .it keys (loginAs "RO") alternateSecret =
        credentials .it keys (loginAs "RO") bothSecrets ∧
      credentials .it keys (loginAs "app") primarySecret =
        credentials .it keys (loginAs "app") bothSecrets ∧
      (credentials .it keys (loginAs "RO") bothSecrets).map Finding.kind =
        (credentials .it keys (loginAs "Ro") bothSecrets).map Finding.kind := by
  intro keys
  obtain ⟨halternate, -, -, -, hkinds⟩ := credentials_confined .it "c/" "ro" (loginAs "RO")
  obtain ⟨-, hother, -⟩ := credentials_confined .it "c/" "ro" (loginAs "app")
  have huser : (loginAs "app").get? keys.user = some "app" := by decide +kernel
  refine ⟨by decide +kernel,
    halternate "RO" (by decide +kernel) (by decide) _ _ (by decide +kernel),
    hother (fun user h => ?_) _ _ (by decide +kernel) (by decide +kernel),
    hkinds (loginAs "Ro") _ "RO" "Ro" (by decide +kernel) (by decide +kernel) (by decide)
      (by decide) (by decide +kernel)⟩
  cases huser.symm.trans h
  decide

end Check

end TierAudit
