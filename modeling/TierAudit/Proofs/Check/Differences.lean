import TierAudit.Proofs.Check.Agreement

/-!
# Check — differences

What the check of a profile lists: the variables that differ, one for each name and in the order of
the baseline (`lists_differences`), and behind them the schema and the password, if these are
checked (`exists_check_eq`).
-/

namespace TierAudit

/-- Something that is not as it should be: a variable, or a credential of a user. -/
structure Difference where
  /-- The name of the variable, or the user. -/
  subject : String
  expected : String
  found : String

namespace Difference

def onVariable (tier : Tier) (d : Difference) : Finding :=
  .of tier (.variableMismatch d.subject d.expected d.found)

def onSchema (tier : Tier) (d : Difference) : Finding :=
  .of tier (.schemaMismatch d.subject d.expected d.found)

def onPassword (tier : Tier) (d : Difference) : Finding :=
  .of tier (.passwordMismatch d.subject d.expected d.found)

/-- A variable of the baseline that a tier declares with another value. -/
def ofVariable? (vars : Variables) (expected : Variable) : Option Difference :=
  match vars.get? expected.name with
  | some found =>
    if found = expected.value then none else some ⟨expected.name, expected.value, found⟩
  | none => none

section
variable {vars : Variables}

theorem ofVariable?_eq_some_iff {v : Variable} {d : Difference} :
    ofVariable? vars v = some d ↔
      d.subject = v.name ∧ d.expected = v.value ∧ vars.get? v.name = some d.found ∧
        d.found ≠ v.value := by
  obtain ⟨subject, expected, found⟩ := d
  unfold ofVariable?
  cases vars.get? v.name with
  | none => simp
  | some value =>
      by_cases hvalue : value = v.value
      · simp only [hvalue, if_true]
        constructor
        · intro h
          cases h
        · rintro ⟨-, -, h, hne⟩
          exact absurd (Option.some.inj h).symm hne
      · simp only [if_neg hvalue, Option.some.injEq, Difference.mk.injEq]
        constructor
        · rintro ⟨rfl, rfl, rfl⟩
          exact ⟨rfl, rfl, rfl, hvalue⟩
        · rintro ⟨rfl, rfl, rfl, -⟩
          exact ⟨rfl, rfl, rfl⟩

/-- The names are those of the variables, in their order. -/
theorem subject_sublist (entries : List Variable) :
    ((entries.filterMap (ofVariable? vars)).map subject).Sublist
      (entries.map Variable.name) := by
  induction entries with
  | nil => exact .slnil
  | cons v rest ih =>
      cases hv : ofVariable? vars v with
      | none =>
          rw [List.filterMap_cons_none hv]
          exact ih.cons _
      | some d =>
          rw [List.filterMap_cons_some hv, List.map_cons, (ofVariable?_eq_some_iff.mp hv).1]
          exact ih.cons_cons _

end

end Difference

/-- What a comparison has found: differences of variables, and one of the schema and one of the
password at most. -/
structure Comparison where
  mismatches : List Difference
  schema : Option Difference
  password : Option Difference

namespace Comparison

def findings (c : Comparison) (tier : Tier) : List Finding :=
  c.mismatches.map (Difference.onVariable tier) ++ c.schema.toList.map (Difference.onSchema tier) ++
    c.password.toList.map (Difference.onPassword tier)

/-- Nothing is said of credentials unless they are checked. -/
def SuitsRule (c : Comparison) (credentialRule : Bool) : Prop :=
  credentialRule = false → c.schema = none ∧ c.password = none

end Comparison

/-- The variables that differ: exactly the names that are not left out and that both declare, with
different values, in the order of the baseline. -/
structure ListsDifferences (exclusions : List String) (vars baseline : Variables)
    (differences : List Difference) : Prop where
  mem_iff : ∀ d, d ∈ differences ↔ d.subject ∉ exclusions ∧
    baseline.get? d.subject = some d.expected ∧ vars.get? d.subject = some d.found ∧
      d.found ≠ d.expected
  in_order : (differences.map Difference.subject).Sublist (baseline.entries.map Variable.name)

namespace Check

section
variable {tier : Tier} {vars baseline : Variables} {exclusions : List String}

/-- The variables that differ, as the check of values goes through them. -/
def differences (vars baseline : Variables) (exclusions : List String) : List Difference :=
  (baseline.entries.filter fun v => v.name ∉ exclusions).filterMap (Difference.ofVariable? vars)

theorem values_eq_map : values tier vars baseline exclusions =
    (differences vars baseline exclusions).map (Difference.onVariable tier) := by
  have hone : ∀ v, mismatch? tier vars v =
      (Difference.ofVariable? vars v).map (Difference.onVariable tier) := by
    intro v
    unfold mismatch? Difference.ofVariable?
    cases vars.get? v.name with
    | none => rfl
    | some found => by_cases hvalue : found = v.value <;> simp [hvalue, Difference.onVariable]
  rw [values, differences, List.map_filterMap, funext hone]

theorem lists_differences :
    ListsDifferences exclusions vars baseline (differences vars baseline exclusions) := by
  refine ⟨fun d => ?_, (Difference.subject_sublist _).trans (List.filter_sublist.map _)⟩
  simp only [differences, List.mem_filterMap, List.mem_filter,
    Difference.ofVariable?_eq_some_iff, @Variables.get?_eq_some_iff baseline, decide_eq_true_eq]
  constructor
  · rintro ⟨v, ⟨hv, hname⟩, hsubject, hexpected, hfound, hne⟩
    rw [hsubject, hexpected]
    exact ⟨hname, ⟨v, hv, rfl, rfl⟩, hfound, hne⟩
  · rintro ⟨hname, ⟨v, hv, hsubject, hexpected⟩, hfound, hne⟩
    rw [← hsubject] at hname hfound
    rw [← hexpected] at hne
    exact ⟨v, ⟨hv, hname⟩, hsubject.symm, hexpected.symm, hfound, hne⟩

/-- A credential of a user that is expected to be another one. -/
def difference? (subject found : String) : Option String → Option Difference
  | some expected => if expected = found then none else some ⟨subject, expected, found⟩
  | none => none

theorem difference?_eq_some_iff {subject found : String} {expected : Option String}
    {d : Difference} :
    difference? subject found expected = some d ↔
      d.subject = subject ∧ d.found = found ∧ expected = some d.expected ∧ d.expected ≠ found := by
  obtain ⟨subject', expected', found'⟩ := d
  cases expected with
  | none => simp [difference?]
  | some e =>
      simp only [difference?, Option.ite_none_left_eq_some, Option.some.injEq,
        Difference.mk.injEq]
      constructor
      · rintro ⟨hne, rfl, rfl, rfl⟩
        exact ⟨rfl, rfl, rfl, hne⟩
      · rintro ⟨rfl, rfl, rfl, hne⟩
        exact ⟨hne, rfl, rfl, rfl⟩

theorem map_filter_eq (on : Difference → Finding) (subject found : String)
    (expected : Option String) :
    (expected.toList.filter (· ≠ found)).map (fun e => on ⟨subject, e, found⟩) =
      (difference? subject found expected).toList.map on := by
  cases expected with
  | none => rfl
  | some e => by_cases he : e = found <;> simp [difference?, he]

/-- The difference of the schema, if a user and a schema are declared. -/
def schemaDifference? (keys : CredentialKeys) (vars baseline : Variables) : Option Difference :=
  (vars.get? keys.user).bind fun user =>
    (vars.get? keys.schemaName).bind fun schema =>
      difference? user schema (keys.expectedSchema? baseline user)

/-- The difference of the password, if a user, a schema and a password are declared. -/
def passwordDifference? (keys : CredentialKeys) (vars baseline : Variables) : Option Difference :=
  (vars.get? keys.user).bind fun user =>
    (vars.get? keys.schemaName).bind fun _ =>
      (vars.get? keys.password).bind fun password =>
        difference? user password (keys.expectedPassword? baseline user)

theorem schemaDifference?_eq_some_iff {keys : CredentialKeys} {d : Difference} :
    schemaDifference? keys vars baseline = some d ↔
      vars.get? keys.user = some d.subject ∧ vars.get? keys.schemaName = some d.found ∧
        keys.expectedSchema? baseline d.subject = some d.expected ∧ d.expected ≠ d.found := by
  simp only [schemaDifference?, Option.bind_eq_some_iff, difference?_eq_some_iff]
  constructor
  · rintro ⟨user, huser, schema, hschema, rfl, rfl, hexpected, hne⟩
    exact ⟨huser, hschema, hexpected, hne⟩
  · rintro ⟨huser, hschema, hexpected, hne⟩
    exact ⟨_, huser, _, hschema, rfl, rfl, hexpected, hne⟩

theorem passwordDifference?_eq_some_iff {keys : CredentialKeys} {d : Difference} :
    passwordDifference? keys vars baseline = some d ↔
      vars.get? keys.user = some d.subject ∧ (∃ schema, vars.get? keys.schemaName = some schema) ∧
        vars.get? keys.password = some d.found ∧
        keys.expectedPassword? baseline d.subject = some d.expected ∧ d.expected ≠ d.found := by
  simp only [passwordDifference?, Option.bind_eq_some_iff, difference?_eq_some_iff]
  constructor
  · rintro ⟨user, huser, schema, hschema, password, hpassword, rfl, rfl, hexpected, hne⟩
    exact ⟨huser, ⟨schema, hschema⟩, hpassword, hexpected, hne⟩
  · rintro ⟨huser, ⟨schema, hschema⟩, hpassword, hexpected, hne⟩
    exact ⟨_, huser, schema, hschema, _, hpassword, rfl, rfl, hexpected, hne⟩

/-- The credentials give one finding on the schema at most, and one on the password. -/
theorem credentials_eq (tier : Tier) (keys : CredentialKeys) (vars baseline : Variables) :
    credentials tier keys vars baseline =
      (schemaDifference? keys vars baseline).toList.map (Difference.onSchema tier) ++
        (passwordDifference? keys vars baseline).toList.map (Difference.onPassword tier) := by
  unfold credentials schemaDifference? passwordDifference?
  cases vars.get? keys.user with
  | none => rfl
  | some user =>
      cases vars.get? keys.schemaName with
      | none => rfl
      | some schema =>
          have hschema := map_filter_eq (Difference.onSchema tier) user schema
            (keys.expectedSchema? baseline user)
          cases vars.get? keys.password with
          | none => exact congrArg (· ++ []) hschema
          | some password =>
              exact congr (congrArg _ hschema) (map_filter_eq (Difference.onPassword tier) user
                password (keys.expectedPassword? baseline user))

end

end Check

/-- **What the check of a profile lists**: the variables that differ, and behind them the schema and
the password if these are checked. -/
theorem Profile.exists_check_eq (profile : Profile) (vars baseline : Variables) :
    ∃ c : Comparison, profile.check vars baseline = c.findings profile.tier ∧
      c.SuitsRule profile.credentialRule ∧
      ListsDifferences profile.exclusions vars baseline c.mismatches := by
  unfold Profile.check
  rw [Check.values_eq_map]
  cases profile.credentialRule with
  | false =>
      refine ⟨⟨Check.differences vars baseline profile.exclusions, none, none⟩, ?_,
        fun _ => ⟨rfl, rfl⟩, Check.lists_differences⟩
      exact (List.append_nil _).symm
  | true =>
      refine ⟨⟨Check.differences vars baseline profile.exclusions,
        Check.schemaDifference? profile.credentials vars baseline,
        Check.passwordDifference? profile.credentials vars baseline⟩, ?_, nofun,
        Check.lists_differences⟩
      rw [if_pos rfl, Check.credentials_eq, Comparison.findings, List.append_assoc]

end TierAudit
