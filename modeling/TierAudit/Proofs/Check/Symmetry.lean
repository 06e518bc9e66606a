import Mathlib.Data.List.Nodup
import TierAudit.Proofs.Check.Separation

/-!
# Check — the comparison from both sides

Which of two files is the tier's and which the baseline decides in which order their differences are
listed and what is called expected, and nothing else: the differences are the same
(`values_symmetric`).  The order of the variables of the tier does not matter at all.
-/

namespace TierAudit

namespace Difference

/-- A difference from the other side. -/
def swap (d : Difference) : Difference := ⟨d.subject, d.found, d.expected⟩

theorem mem_map_swap_iff {differences : List Difference} {d : Difference} :
    d ∈ differences.map swap ↔ d.swap ∈ differences := by
  rw [List.mem_map]
  constructor
  · rintro ⟨e, he, rfl⟩
    exact he
  · exact fun h => ⟨d.swap, h, rfl⟩

end Difference

namespace ListsDifferences
variable {exclusions : List String} {vars baseline : Variables}
  {differences differences' : List Difference}

/-- Of each name there is one difference at most. -/
theorem nodup_subjects (h : ListsDifferences exclusions vars baseline differences) :
    (differences.map Difference.subject).Nodup :=
  baseline.nodup.sublist h.in_order

/-- The differences from one side are those from the other. -/
theorem perm_swap (h : ListsDifferences exclusions vars baseline differences)
    (h' : ListsDifferences exclusions baseline vars differences') :
    differences.Perm (differences'.map Difference.swap) := by
  have hnodup : (differences'.map Difference.swap).Nodup := by
    refine List.Nodup.of_map Difference.subject ?_
    rw [List.map_map]
    exact h'.nodup_subjects
  -- Neither list has a difference twice, so it is enough that they have the same ones.
  rw [List.perm_ext_iff_of_nodup (List.Nodup.of_map _ h.nodup_subjects) hnodup]
  intro d
  rw [Difference.mem_map_swap_iff, h.mem_iff, h'.mem_iff]
  refine and_congr_right fun _ => ?_
  constructor
  · rintro ⟨hexpected, hfound, hne⟩
    exact ⟨hfound, hexpected, hne.symm⟩
  · rintro ⟨hfound, hexpected, hne⟩
    exact ⟨hexpected, hfound, hne.symm⟩

end ListsDifferences

namespace Check

theorem values_eq_nil_of_perm {tier : Tier} {vars vars' : Variables} {exclusions : List String}
    (h : vars'.entries.Perm vars.entries) : values tier vars' vars exclusions = [] := by
  refine values_eq_nil_iff.mpr fun name found expected _ hfound hexpected => ?_
  rw [Variables.get?_eq_of_perm h, hexpected] at hfound
  exact (Option.some.inj hfound).symm

/-- **The comparison is the same from both sides.**  There is one set of differences, one for each
name that is not left out and that both files declare with different values.  Either file as the
baseline, these differences are reported, in the order of the baseline and with its value as the
expected one; so there are as many of them from one side as from the other.  The order in which the
other file declares its variables does not matter, and no file differs from itself in another order. -/
theorem values_symmetric (tier : Tier) (vars baseline : Variables) (exclusions : List String) :
    (∃ forth back : List Difference, forth.Perm back ∧ (forth.map Difference.subject).Nodup ∧
      (∀ d, d ∈ forth ↔ d.subject ∉ exclusions ∧ baseline.get? d.subject = some d.expected ∧
        vars.get? d.subject = some d.found ∧ d.found ≠ d.expected) ∧
      values tier vars baseline exclusions = forth.map (Difference.onVariable tier) ∧
      (forth.map Difference.subject).Sublist baseline.names ∧
      values tier baseline vars exclusions = back.map (fun d => d.swap.onVariable tier) ∧
      (back.map Difference.subject).Sublist vars.names) ∧
    (values tier vars baseline exclusions).length =
      (values tier baseline vars exclusions).length ∧
    (values tier vars baseline exclusions = [] ↔ values tier baseline vars exclusions = []) ∧
    ∀ vars' : Variables, vars'.entries.Perm vars.entries →
      values tier vars' baseline exclusions = values tier vars baseline exclusions ∧
        values tier vars' vars exclusions = [] := by
  have hforth : ListsDifferences exclusions vars baseline (differences vars baseline exclusions) :=
    lists_differences
  have hback : ListsDifferences exclusions baseline vars (differences baseline vars exclusions) :=
    lists_differences
  have hperm := hforth.perm_swap hback
  have hlength : (values tier vars baseline exclusions).length =
      (values tier baseline vars exclusions).length := by
    rw [values_eq_map, values_eq_map, List.length_map, List.length_map, hperm.length_eq,
      List.length_map]
  refine ⟨⟨_, _, hperm, hforth.nodup_subjects, hforth.mem_iff, values_eq_map, hforth.in_order,
    ?_, ?_⟩, hlength, ?_, fun vars' hvars => ⟨?_, values_eq_nil_of_perm hvars⟩⟩
  · rw [values_eq_map, List.map_map]
    rfl
  · rw [List.map_map]
    exact hback.in_order
  · rw [← List.length_eq_zero_iff, hlength, List.length_eq_zero_iff]
  · exact values_congr (fun name _ => Variables.get?_eq_of_perm hvars name) rfl

/-- Two files, and the first in another order. -/
def ascending : Variables := .ofList [("A", "1"), ("B", "2"), ("C", "3")]

def descending : Variables := .ofList [("C", "0"), ("B", "2"), ("A", "9")]

def shuffled : Variables := .ofList [("B", "2"), ("C", "3"), ("A", "1")]

/-- Two of three variables differ, and each side lists them in the order of the other. -/
theorem values_symmetric_shuffled :
    values .it ascending descending ["D"] =
        [.of .it (.variableMismatch "C" "0" "3"), .of .it (.variableMismatch "A" "9" "1")] ∧
      values .it descending ascending ["D"] =
        [.of .it (.variableMismatch "A" "1" "9"), .of .it (.variableMismatch "C" "3" "0")] ∧
      shuffled.entries.Perm ascending.entries ∧
      values .it shuffled descending ["D"] = values .it ascending descending ["D"] ∧
      values .it shuffled ascending ["D"] = [] := by
  have hperm : shuffled.entries.Perm ascending.entries := by decide +kernel
  obtain ⟨-, -, -, hreordered⟩ := values_symmetric .it ascending descending ["D"]
  exact ⟨by decide +kernel, by decide +kernel, hperm, hreordered shuffled hperm⟩

end Check

end TierAudit
