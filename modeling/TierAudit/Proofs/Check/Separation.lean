import Mathlib.Data.List.Basic
import TierAudit.Preflight
import TierAudit.Proofs.Check.Confinement
import TierAudit.Proofs.Check.Differences

/-!
# Check — what values and credentials have to do with each other

Nothing, where credentials are checked and the names to leave out are the usual ones.  The check of
values goes by the variables besides the credentials, the check of credentials by theirs alone
(`values_congr`, `credentials_congr`), so that neither has anything to say of what the other is about
(`compare_separated`).
-/

namespace TierAudit

/-! ### Parts of the variables -/

namespace Variables

/-- The variables besides those of some names, in order. -/
def beside (vars : Variables) (names : List String) : List Variable :=
  vars.entries.filter fun v => v.name ∉ names

section
variable {a b : Variables} {names fewer : List String}

/-- What is not left out has its value among what remains. -/
theorem get?_eq_find?_beside {name : String} (h : name ∉ names) (vars : Variables) :
    vars.get? name = ((vars.beside names).find? (·.name = name)).map Variable.value := by
  rw [get?, beside, List.find?_filter]
  refine congrArg _ (congrFun (congrArg _ (funext fun v => ?_)) _)
  by_cases hname : v.name = name <;> simp [hname, h]

theorem agreeBeside_of_beside_eq (h : a.beside names = b.beside names) : a.AgreeBeside b names :=
  fun name hname => by rw [get?_eq_find?_beside hname a, get?_eq_find?_beside hname b, h]

/-- The more names are left out, the less there is to agree on. -/
theorem beside_eq_of_subset (h : a.beside fewer = b.beside fewer) (hsubset : fewer ⊆ names) :
    a.beside names = b.beside names := by
  have htwice : ∀ vars : Variables,
      vars.beside names = (vars.beside fewer).filter fun v => v.name ∉ names := by
    intro vars
    rw [beside, beside, List.filter_filter]
    refine congrFun (congrArg _ (funext fun v => ?_)) _
    by_cases hname : v.name ∈ names
    · simp [hname]
    · simp [hname, mt (@hsubset v.name) hname]
  rw [htwice a, htwice b, h]

end

end Variables

/-! ### What each check goes by -/

namespace Check
open Variables

variable {tier : Tier} {keys : CredentialKeys} {vars vars' baseline baseline' : Variables}
  {exclusions : List String} {finding : Finding}

/-- The check of values goes by the variables that are not left out, and by the order of those in
the baseline. -/
theorem values_congr (hvars : vars.AgreeBeside vars' exclusions)
    (hbaseline : baseline.beside exclusions = baseline'.beside exclusions) :
    values tier vars baseline exclusions = values tier vars' baseline' exclusions := by
  change (baseline.beside exclusions).filterMap (mismatch? tier vars) =
    (baseline'.beside exclusions).filterMap (mismatch? tier vars')
  rw [hbaseline]
  refine List.filterMap_congr fun v hv => ?_
  rw [mismatch?, mismatch?, hvars v.name (by simpa using (List.mem_filter.mp hv).2)]

/-- The check of credentials goes by three variables of the tier and by three of the baseline. -/
theorem credentials_congr
    (hvars : vars.AgreeOn vars' [keys.user, keys.schemaName, keys.password])
    (hbaseline : baseline.AgreeOn baseline'
      [keys.schemaName, keys.password, keys.alternatePassword]) :
    credentials tier keys vars baseline = credentials tier keys vars' baseline' :=
  credentials_congr_asked hvars fun user _ name hname =>
    hbaseline name (keys.asked_subset user hname)

end Check

/-! ### Findings on values and on credentials -/

namespace Finding

/-- A finding on the value of a variable. -/
def isOnValue (finding : Finding) : Bool := finding.kind = .variableMismatch

/-- A finding on the schema or on the password of a user. -/
def isOnCredential (finding : Finding) : Bool :=
  finding.kind = .schemaMismatch || finding.kind = .passwordMismatch

end Finding

namespace Check

variable {tier : Tier} {keys : CredentialKeys} {vars baseline : Variables}
  {exclusions : List String} {finding : Finding}

theorem isOnValue_of_mem_values (h : finding ∈ values tier vars baseline exclusions) :
    finding.isOnValue = true ∧ finding.isOnCredential = false := by
  rw [values_eq_map] at h
  obtain ⟨d, -, rfl⟩ := List.mem_map.mp h
  exact ⟨rfl, rfl⟩

theorem isOnCredential_of_mem_credentials (h : finding ∈ credentials tier keys vars baseline) :
    finding.isOnCredential = true ∧ finding.isOnValue = false := by
  rw [credentials_eq] at h
  rcases List.mem_append.mp h with h | h
  · obtain ⟨d, -, rfl⟩ := List.mem_map.mp h
    exact ⟨rfl, rfl⟩
  · obtain ⟨d, -, rfl⟩ := List.mem_map.mp h
    exact ⟨rfl, rfl⟩

end Check

namespace Profile

variable {profile : Profile} {vars baseline : Variables}

theorem filter_isOnValue_check (profile : Profile) (vars baseline : Variables) :
    (profile.check vars baseline).filter Finding.isOnValue =
      Check.values profile.tier vars baseline profile.exclusions := by
  have hvalues := List.filter_eq_self.mpr fun finding
    (h : finding ∈ Check.values profile.tier vars baseline profile.exclusions) =>
      (Check.isOnValue_of_mem_values h).1
  rw [check, List.filter_append, hvalues]
  split
  · rw [List.filter_eq_nil_iff.mpr fun finding h => by
      simp [(Check.isOnCredential_of_mem_credentials h).2], List.append_nil]
  · exact List.append_nil _

theorem filter_isOnCredential_check (hrule : profile.credentialRule = true) :
    (profile.check vars baseline).filter Finding.isOnCredential =
      Check.credentials profile.tier profile.credentials vars baseline := by
  have hvalues : (Check.values profile.tier vars baseline profile.exclusions).filter
      Finding.isOnCredential = [] :=
    List.filter_eq_nil_iff.mpr fun finding h => by simp [(Check.isOnValue_of_mem_values h).2]
  rw [check, if_pos hrule, List.filter_append, hvalues, List.nil_append]
  exact List.filter_eq_self.mpr fun finding h => (Check.isOnCredential_of_mem_credentials h).1

end Profile

namespace Preflight
open Variables

/-- The variables of a connection that its credentials are in. -/
def credentialNames (connection alternate : String) : List String :=
  [connection ++ "USER", connection ++ "SCHEMA_NAME", connection ++ "PASSWORD",
    connection ++ "PASSWORD_" ++ alternate]

/-- The user is none of the other three, whatever the alternate identity is called. -/
theorem user_notMem_tail (connection alternate : String) :
    connection ++ "USER" ∉ (credentialNames connection alternate).tail :=
  (List.nodup_cons.mp (CredentialKeys.nodup_names_ofConnection connection alternate)).1

section
variable {profile : Profile} {connection alternate : String}
  {vars vars' baseline baseline' : Variables}

/-- The names that are left out are those that the check of credentials asks for. -/
theorem exclusions_eq_credentialNames (hrule : profile.credentialRule = true)
    (husual : profile.exclusionsOverride = none)
    (hkeys : profile.credentials = .ofConnection connection alternate) :
    profile.exclusions = credentialNames connection alternate := by
  rw [Profile.exclusions, husual, hrule, hkeys]
  rfl

/-- Of the baseline the check of credentials does not even ask for the user. -/
theorem credentials_eq_of_agreeOn (hkeys : profile.credentials = .ofConnection connection alternate)
    (hvars : vars.AgreeOn vars' (credentialNames connection alternate))
    (hbaseline : baseline.AgreeOn baseline' (credentialNames connection alternate).tail) :
    Check.credentials profile.tier profile.credentials vars baseline =
      Check.credentials profile.tier profile.credentials vars' baseline' := by
  rw [hkeys]
  exact Check.credentials_congr (fun name hname => hvars name (List.take_subset 3 _ hname))
    hbaseline

/-- What a baseline declares besides the user covers the other credentials. -/
theorem agreeOn_tail_of_beside_eq
    (h : baseline.beside [connection ++ "USER"] = baseline'.beside [connection ++ "USER"]) :
    baseline.AgreeOn baseline' (credentialNames connection alternate).tail := by
  intro name hname
  refine agreeBeside_of_beside_eq h name ?_
  rw [List.mem_singleton]
  exact fun huser => user_notMem_tail connection alternate (huser ▸ hname)

end

/-- **Values and credentials are checked apart.**  Take a profile that checks the credentials of a
connection and does not configure what to leave out.  If the files of two tiers declare the same
besides the credentials, and their baselines too and in the same order, then the same values are
reported; if they declare the same credentials, then the same schemas and passwords are.  No value
that is reported is a credential, none is reported twice, and besides values there is one finding on
the schema and one on the password at most.  What the baseline says of the user, and where, does not
matter at all. -/
theorem compare_separated {profile : Profile} {connection alternate : String}
    (hrule : profile.credentialRule = true) (husual : profile.exclusionsOverride = none)
    (hkeys : profile.credentials = .ofConnection connection alternate) :
    let names := credentialNames connection alternate
    (∀ vars vars' baseline baseline' : Variables, vars.AgreeBeside vars' names →
      baseline.beside names = baseline'.beside names →
        (compare profile (.ok vars) (.ok baseline)).filter Finding.isOnValue =
          (compare profile (.ok vars') (.ok baseline')).filter Finding.isOnValue) ∧
    (∀ vars vars' baseline baseline' : Variables, vars.AgreeOn vars' names →
      baseline.AgreeOn baseline' names →
        (compare profile (.ok vars) (.ok baseline)).filter Finding.isOnCredential =
          (compare profile (.ok vars') (.ok baseline')).filter Finding.isOnCredential) ∧
    (∀ vars baseline : Variables, ∃ found : Comparison,
      compare profile (.ok vars) (.ok baseline) = found.findings profile.tier ∧
        (found.mismatches.map Difference.subject).Nodup ∧
        ∀ difference ∈ found.mismatches, difference.subject ∉ names ∧
          baseline.get? difference.subject = some difference.expected ∧
          vars.get? difference.subject = some difference.found) ∧
    ∀ vars baseline baseline' : Variables,
      baseline.beside [connection ++ "USER"] = baseline'.beside [connection ++ "USER"] →
        compare profile (.ok vars) (.ok baseline) = compare profile (.ok vars) (.ok baseline') := by
  intro names
  have hexclusions : profile.exclusions = names :=
    exclusions_eq_credentialNames hrule husual hkeys
  have hcompare : ∀ vars baseline : Variables,
      compare profile (.ok vars) (.ok baseline) = profile.check vars baseline := fun _ _ => rfl
  simp only [hcompare]
  refine ⟨fun vars vars' baseline baseline' hvars hbaseline => ?_,
    fun vars vars' baseline baseline' hvars hbaseline => ?_, fun vars baseline => ?_,
    fun vars baseline baseline' hbaseline => ?_⟩
  · rw [profile.filter_isOnValue_check, profile.filter_isOnValue_check, hexclusions]
    exact Check.values_congr hvars hbaseline
  · rw [Profile.filter_isOnCredential_check hrule, Profile.filter_isOnCredential_check hrule]
    exact credentials_eq_of_agreeOn hkeys hvars fun name hname =>
      hbaseline name (List.mem_of_mem_tail hname)
  · obtain ⟨found, hfound, -, hlists⟩ := profile.exists_check_eq vars baseline
    refine ⟨found, hfound, baseline.nodup.sublist hlists.in_order, fun difference hmem => ?_⟩
    obtain ⟨hname, hexpected, hfound, -⟩ := (hlists.mem_iff difference).mp hmem
    exact ⟨hexclusions ▸ hname, hexpected, hfound⟩
  · have hbeside : baseline.beside names = baseline'.beside names :=
      beside_eq_of_subset hbaseline (List.cons_subset_cons _ (List.nil_subset _))
    rw [Profile.check, Profile.check, hexclusions, if_pos hrule, if_pos hrule,
      Check.values_congr (fun _ _ => rfl) hbeside,
      credentials_eq_of_agreeOn hkeys (fun _ _ => rfl) (agreeOn_tail_of_beside_eq hbaseline)]

/-- A profile that checks the credentials of a connection. -/
def connectionProfile : Profile :=
  { Profile.new .it ⟨"b"⟩ with credentials := .ofConnection "c/" "ro" }

/-- Variables with some credentials, and a baseline with a user of its own. -/
def declared : Variables := .ofList [("A", "1"), ("c/USER", "app"), ("c/SCHEMA_NAME", "own")]

def declaredBaseline : Variables :=
  .ofList [("A", "2"), ("c/USER", "other"), ("c/SCHEMA_NAME", "common")]

/-- Variables that differ from these in credentials only, declared in another order. -/
def redeclared : Variables := .ofList [("c/PASSWORD", "#!x"), ("c/USER", "ro"), ("A", "1")]

def redeclaredBaseline : Variables := .ofList [("c/PASSWORD_ro", "#!y"), ("A", "2")]

/-- The same value is reported of both, and the user of the baseline is reported of neither. -/
theorem compare_separated_redeclared :
    connectionProfile.credentialRule = true ∧ connectionProfile.exclusionsOverride = none ∧
      (compare connectionProfile (.ok declared) (.ok declaredBaseline)).filter
          Finding.isOnValue = [.of .it (.variableMismatch "A" "2" "1")] ∧
      (compare connectionProfile (.ok redeclared) (.ok redeclaredBaseline)).filter
          Finding.isOnValue = [.of .it (.variableMismatch "A" "2" "1")] ∧
      compare connectionProfile (.ok declared) (.ok declaredBaseline) =
        compare connectionProfile (.ok declared)
          (.ok (.ofList [("A", "2"), ("c/SCHEMA_NAME", "common"), ("c/USER", "app")])) := by
  obtain ⟨hvalues, -, -, huser⟩ := @compare_separated connectionProfile "c/" "ro" rfl rfl rfl
  have hvars : declared.AgreeBeside redeclared (credentialNames "c/" "ro") :=
    agreeBeside_of_beside_eq (by decide +kernel)
  have hvalue : (compare connectionProfile (.ok declared) (.ok declaredBaseline)).filter
      Finding.isOnValue = [.of .it (.variableMismatch "A" "2" "1")] := by
    decide +kernel
  refine ⟨rfl, rfl, hvalue, ?_, huser _ _ _ (by decide +kernel)⟩
  exact (hvalues _ _ _ _ hvars (by decide +kernel)).symm.trans hvalue

end Preflight

end TierAudit
