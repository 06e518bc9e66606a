import TierAudit.Proofs.Check.Confinement
import TierAudit.Proofs.Check.Differences
import TierAudit.Proofs.Text.Trim

/-!
# Check — credentials that can be reported

Whether the variables of a tier can be such that the check of credentials complains of them.  Names
and values of variables are trimmed, and the names of a connection's variables are put together from
settings that need not be: a connection that begins with a blank has none of the variables that the
check asks for (`reportsSchema_iff`), and no user is an alternate identity with blanks at its ends
(`reportsAlternatePassword_iff`).
-/

namespace TierAudit
open Text

/-! ### Findings -/

namespace Check
variable {tier : Tier} {keys : CredentialKeys} {vars baseline : Variables}

theorem exists_schemaMismatch_iff :
    (∃ finding ∈ credentials tier keys vars baseline, finding.kind = .schemaMismatch) ↔
      ∃ d, schemaDifference? keys vars baseline = some d := by
  rw [credentials_eq]
  constructor
  · rintro ⟨finding, hmem, hkind⟩
    rcases List.mem_append.mp hmem with h | h
    · obtain ⟨d, hd, -⟩ := List.mem_map.mp h
      exact ⟨d, Option.mem_toList.mp hd⟩
    · obtain ⟨d, -, rfl⟩ := List.mem_map.mp h
      cases hkind
  · rintro ⟨d, hd⟩
    exact ⟨d.onSchema tier, by simp [hd], rfl⟩

theorem exists_passwordMismatch_iff :
    (∃ finding ∈ credentials tier keys vars baseline, finding.kind = .passwordMismatch) ↔
      ∃ d, passwordDifference? keys vars baseline = some d := by
  rw [credentials_eq]
  constructor
  · rintro ⟨finding, hmem, hkind⟩
    rcases List.mem_append.mp hmem with h | h
    · obtain ⟨d, -, rfl⟩ := List.mem_map.mp h
      cases hkind
    · obtain ⟨d, hd, -⟩ := List.mem_map.mp h
      exact ⟨d, Option.mem_toList.mp hd⟩
  · rintro ⟨d, hd⟩
    exact ⟨d.onPassword tier, by simp [hd], rfl⟩

end Check

/-! ### Names -/

namespace CredentialKeys
variable {connection alternate : String}

theorem trim_append_iff {ending : String} (hne : ending ≠ "") (h : trim ending = ending) :
    trim (connection ++ ending) = connection ++ ending ↔ NoBlankStart connection := by
  obtain ⟨hstart, hend⟩ := trim_eq_self_iff.mp h
  rw [trim_eq_self_iff, noBlankStart_append (.inr hstart), noBlankEnd_append (.inr hne)]
  exact and_iff_left hend

/-- The variables of the connection itself have trimmed names unless it begins with a blank. -/
theorem trim_names_iff (connection alternate : String) :
    (∀ name ∈ [(ofConnection connection alternate).user,
        (ofConnection connection alternate).schemaName,
        (ofConnection connection alternate).password], trim name = name) ↔
      NoBlankStart connection := by
  simp only [ofConnection, List.forall_mem_cons, List.not_mem_nil, false_implies, implies_true,
    and_true]
  rw [trim_append_iff (by decide) (by decide), trim_append_iff (by decide) (by decide),
    trim_append_iff (by decide) (by decide), and_self, and_self]

/-- The name of the alternate identity's password has the identity at its end. -/
theorem trim_alternatePassword_iff :
    trim (ofConnection connection alternate).alternatePassword =
        (ofConnection connection alternate).alternatePassword ↔
      NoBlankStart connection ∧ NoBlankEnd alternate := by
  have hstart : NoBlankStart ("PASSWORD_" ++ alternate) :=
    (noBlankStart_append (.inl (by decide))).mpr (by decide)
  have hend : NoBlankEnd (connection ++ "PASSWORD_") :=
    (noBlankEnd_append (.inr (by decide))).mpr (by decide)
  simp only [ofConnection]
  rw [trim_eq_self_iff, noBlankEnd_append (.inl hend), String.append_assoc,
    noBlankStart_append (.inr hstart)]

/-! ### What can be reported -/

/-- Variables can be such that the schema of a user is reported who is not the alternate identity. -/
def ReportsSchema (keys : CredentialKeys) (tier : Tier) : Prop :=
  ∃ vars baseline, (∀ user, vars.get? keys.user = some user → keys.isAlternate user = false) ∧
    ∃ finding ∈ Check.credentials tier keys vars baseline, finding.kind = .schemaMismatch

/-- Variables can be such that the password of the alternate identity is reported. -/
def ReportsAlternatePassword (keys : CredentialKeys) (tier : Tier) : Prop :=
  ∃ vars baseline, (∀ user, vars.get? keys.user = some user → keys.isAlternate user = true) ∧
    ∃ finding ∈ Check.credentials tier keys vars baseline, finding.kind = .passwordMismatch

variable {tier : Tier}

/-- Nothing is asked of a connection whose variables cannot be declared. -/
theorem noBlankStart_of_get? {vars : Variables} {user : String}
    (h : vars.get? (ofConnection connection alternate).user = some user) :
    NoBlankStart connection :=
  (trim_append_iff (by decide) (by decide)).mp (Variables.trim_of_get? h).1

/-- Where the connection can be declared, its variables can be given any trimmed values. -/
theorem exists_get?_of_noBlankStart (alternate : String) (h : NoBlankStart connection)
    {user schema password : String} (huser : trim user = user) (hschema : trim schema = schema)
    (hpassword : trim password = password) :
    ∃ vars : Variables, vars.get? (ofConnection connection alternate).user = some user ∧
      vars.get? (ofConnection connection alternate).schemaName = some schema ∧
      vars.get? (ofConnection connection alternate).password = some password := by
  have hnames := (trim_names_iff connection alternate).mpr h
  simp only [List.forall_mem_cons] at hnames
  obtain ⟨vars, hvars⟩ := Variables.exists_get?
    [((ofConnection connection alternate).user, user),
      ((ofConnection connection alternate).schemaName, schema),
      ((ofConnection connection alternate).password, password)]
    (by
      simp only [List.forall_mem_cons]
      refine ⟨⟨hnames.1, ?_, huser⟩, ⟨hnames.2.1, ?_, hschema⟩, ⟨hnames.2.2.1, ?_, hpassword⟩,
        by simp⟩
      all_goals simp [ofConnection])
    ((List.take_sublist 3 (ofConnection connection alternate).names).nodup
      (nodup_names_ofConnection connection alternate))
  simp only [List.forall_mem_cons] at hvars
  exact ⟨vars, hvars.1, hvars.2.1, hvars.2.2.1⟩

/-- There are users besides the alternate identity. -/
theorem exists_not_isAlternate (keys : CredentialKeys) :
    ∃ user, trim user = user ∧ keys.isAlternate user = false := by
  by_cases h : keys.isAlternate "a" = true
  · refine ⟨"b", by decide, Bool.eq_false_iff.mpr fun h' => ?_⟩
    have hsame : foldCase "a" = foldCase "b" :=
      (of_decide_eq_true h).trans (of_decide_eq_true h').symm
    exact absurd hsame (by decide)
  · exact ⟨"a", by decide, Bool.eq_false_iff.mpr h⟩

/-- The schema of the primary identity can be reported unless the connection begins with a blank. -/
theorem reportsSchema_iff :
    (ofConnection connection alternate).ReportsSchema tier ↔ NoBlankStart connection := by
  constructor
  · rintro ⟨vars, baseline, -, hreported⟩
    obtain ⟨d, hd⟩ := Check.exists_schemaMismatch_iff.mp hreported
    exact noBlankStart_of_get? (Check.schemaDifference?_eq_some_iff.mp hd).1
  · intro h
    obtain ⟨user, huser, hother⟩ := (ofConnection connection alternate).exists_not_isAlternate
    obtain ⟨vars, hvars⟩ := exists_get?_of_noBlankStart alternate h huser
      (show trim "found" = "found" by decide) (show trim "" = "" by decide)
    obtain ⟨baseline, hbaseline⟩ := exists_get?_of_noBlankStart alternate h huser
      (show trim "expected" = "expected" by decide) (show trim "" = "" by decide)
    have hexpected : (ofConnection connection alternate).expectedSchema? baseline user =
        some "expected" := by
      rw [expectedSchema?, hother]
      exact hbaseline.2.1
    have hdifference := Check.schemaDifference?_eq_some_iff (d := ⟨user, "expected", "found"⟩).mpr
      ⟨hvars.1, hvars.2.1, hexpected, show "expected" ≠ "found" by decide⟩
    refine ⟨vars, baseline, fun user' huser' => ?_,
      Check.exists_schemaMismatch_iff.mpr ⟨_, hdifference⟩⟩
    cases hvars.1.symm.trans huser'
    exact hother

/-- The password of the alternate identity can be reported if moreover its own name is trimmed. -/
theorem reportsAlternatePassword_iff :
    (ofConnection connection alternate).ReportsAlternatePassword tier ↔
      NoBlankStart connection ∧ trim alternate = alternate := by
  constructor
  · rintro ⟨vars, baseline, halternate, hreported⟩
    obtain ⟨d, hd⟩ := Check.exists_passwordMismatch_iff.mp hreported
    have huser := (Check.passwordDifference?_eq_some_iff.mp hd).1
    exact ⟨noBlankStart_of_get? huser,
      (trim_eq_self_congr (halternate _ huser)).mp (Variables.trim_of_get? huser).2⟩
  · rintro ⟨h, halternate⟩
    have hsame : (ofConnection connection alternate).isAlternate alternate = true :=
      decide_eq_true rfl
    obtain ⟨vars, hvars⟩ := exists_get?_of_noBlankStart alternate h halternate
      (show trim "" = "" by decide) (show trim "found" = "found" by decide)
    have hname := trim_alternatePassword_iff.mpr ⟨h, (trim_eq_self_iff.mp halternate).2⟩
    obtain ⟨baseline, hbaseline⟩ := Variables.exists_get?
      [((ofConnection connection alternate).alternatePassword, "expected")]
      (by
        rw [List.forall_mem_singleton]
        exact ⟨hname, by simp [ofConnection], show trim "expected" = "expected" by decide⟩)
      (by simp)
    have hexpected : (ofConnection connection alternate).expectedPassword? baseline alternate =
        some "expected" := by
      rw [expectedPassword?, hsame]
      exact hbaseline _ (List.mem_singleton_self _)
    have hdifference := Check.passwordDifference?_eq_some_iff
      (d := ⟨alternate, "expected", "found"⟩).mpr
      ⟨hvars.1, ⟨"", hvars.2.1⟩, hvars.2.2, hexpected, show "expected" ≠ "found" by decide⟩
    refine ⟨vars, baseline, fun user huser => ?_,
      Check.exists_passwordMismatch_iff.mpr ⟨_, hdifference⟩⟩
    cases hvars.1.symm.trans huser
    exact hsame

end CredentialKeys
end TierAudit
