import TierAudit.Text.Blank
import TierAudit.Text.Case

/-!
# Text — trimmed texts

A text is its own trim if no blank stands at either end (`trim_eq_self_iff`).  At which end a blank
stands can be told from the parts of a text, and the case of letters has no part in it.
-/

namespace TierAudit.Text

/-- A text does not begin with a blank. -/
def NoBlankStart (s : String) : Prop := ∀ c ∈ s.toList.head?, isBlank c = false

/-- A text does not end with a blank. -/
def NoBlankEnd (s : String) : Prop := ∀ c ∈ s.toList.getLast?, isBlank c = false

instance (s : String) : Decidable (NoBlankStart s) :=
  decidable_of_iff (s.toList.head?.all (!isBlank ·) = true) (by simp [NoBlankStart, Option.all_eq_true])

instance (s : String) : Decidable (NoBlankEnd s) :=
  decidable_of_iff (s.toList.getLast?.all (!isBlank ·) = true) (by simp [NoBlankEnd, Option.all_eq_true])

/-! ### Trimming -/

theorem cutEnds_eq_self_iff {α : Type} {p : α → Bool} {xs : List α} :
    cutEnds p xs = xs ↔ (∀ x ∈ xs.head?, p x = false) ∧ ∀ x ∈ xs.getLast?, p x = false := by
  constructor
  · intro h
    have hstart : xs.dropWhile p = xs := by
      refine (List.dropWhile_suffix p).eq_of_length_le ?_
      have hend := ((xs.dropWhile p).reverse.dropWhile_suffix p).length_le
      rw [← List.length_reverse, ← cutEnds, h, List.length_reverse] at hend
      exact hend
    have hend : xs.reverse.dropWhile p = xs.reverse := by
      rw [cutEnds, hstart] at h
      rw [← List.reverse_reverse (xs.reverse.dropWhile p), h]
    refine ⟨fun x hx => head_dropWhile xs x (hstart.symm ▸ hx), fun x hx => ?_⟩
    rw [List.getLast?_eq_head?_reverse, ← hend] at hx
    exact head_dropWhile xs.reverse x hx
  · rintro ⟨hstart, hend⟩
    rw [List.getLast?_eq_head?_reverse] at hend
    rw [cutEnds, dropWhile_eq_self_of_head hstart, dropWhile_eq_self_of_head hend,
      List.reverse_reverse]

theorem trim_eq_self_iff {s : String} : trim s = s ↔ NoBlankStart s ∧ NoBlankEnd s := by
  rw [← String.toList_inj, trim, String.toList_ofList]
  exact cutEnds_eq_self_iff

/-! ### Parts -/

section
variable {s t : String}

theorem noBlankStart_append (h : s ≠ "" ∨ NoBlankStart t) :
    NoBlankStart (s ++ t) ↔ NoBlankStart s := by
  unfold NoBlankStart at *
  rw [String.toList_append, List.head?_append]
  cases hs : s.toList.head? with
  | none =>
    have hempty : s = "" := by
      rwa [List.head?_eq_none_iff, String.toList_eq_nil_iff] at hs
    simpa using h.resolve_left (not_not_intro hempty)
  | some c => simp

theorem noBlankEnd_append (h : NoBlankEnd s ∨ t ≠ "") : NoBlankEnd (s ++ t) ↔ NoBlankEnd t := by
  unfold NoBlankEnd at *
  rw [String.toList_append, List.getLast?_append]
  cases ht : t.toList.getLast? with
  | none =>
    have hempty : t = "" := by
      rwa [List.getLast?_eq_none_iff, String.toList_eq_nil_iff] at ht
    simpa using h.resolve_right (not_not_intro hempty)
  | some c => simp

end

/-! ### Case -/

theorem isBlank_of_letter {c : Char} (h : 0x41 ≤ c.toNat) (h' : c.toNat ≤ 0x7A) :
    isBlank c = false := by
  simp only [isBlank, Bool.or_eq_false_iff, Bool.and_eq_false_iff, decide_eq_false_iff_not,
    beq_eq_false_iff_ne]
  omega

/-- No letter is a blank, in whatever case it is written. -/
theorem isBlank_toLower (c : Char) : isBlank c.toLower = isBlank c := by
  unfold Char.toLower
  split
  · next h =>
    have hfirst : 0x41 ≤ c.toNat := UInt32.le_iff_toNat_le.mp h.1
    have hlast : c.toNat ≤ 0x5A := UInt32.le_iff_toNat_le.mp h.2
    have hsum : (c.val + 0x20).toNat = c.toNat + 0x20 := by
      rw [UInt32.toNat_add]
      exact Nat.mod_eq_of_lt (show c.toNat + 0x20 < 2 ^ 32 by omega)
    rw [isBlank_of_letter hfirst (by omega)]
    refine isBlank_of_letter ?_ ?_
    · exact Nat.le_trans (by omega) (Nat.le_of_eq hsum.symm)
    · exact Nat.le_trans (Nat.le_of_eq hsum) (by omega)
  · rfl

theorem noBlankStart_iff_foldCase {s : String} :
    NoBlankStart s ↔ ∀ c ∈ (foldCase s).head?, isBlank c = false := by
  simp [NoBlankStart, foldCase, isBlank_toLower]

theorem noBlankEnd_iff_foldCase {s : String} :
    NoBlankEnd s ↔ ∀ c ∈ (foldCase s).getLast?, isBlank c = false := by
  simp [NoBlankEnd, foldCase, isBlank_toLower]

theorem trim_eq_self_congr {s t : String} (h : equalsIgnoringCase s t = true) :
    trim s = s ↔ trim t = t := by
  rw [trim_eq_self_iff, trim_eq_self_iff, noBlankStart_iff_foldCase, noBlankEnd_iff_foldCase,
    noBlankStart_iff_foldCase, noBlankEnd_iff_foldCase, of_decide_eq_true h]

end TierAudit.Text
