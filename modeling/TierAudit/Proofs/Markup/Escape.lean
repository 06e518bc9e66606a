import TierAudit.Markup.Escape

/-!
# Markup — escapes, written and read

Unescaping an escaped text gives the text back (`unescape_escape`), and of the characters that markup
is made of an escaped text has only the `&` (`not_mem_escape`).
-/

namespace TierAudit.Markup
open Text

@[simp] theorem escape_empty : escape "" = "" := rfl

@[simp] theorem escape_append (s t : String) : escape (s ++ t) = escape s ++ escape t := by
  simp [escape]

/-! ### One character -/

/-- The characters that stand for themselves nowhere in an escaped text. -/
def specialChars : List Char := ['<', '>', '&', '\'', '"']

/-- A character is written as it is, or as the name of its entity. -/
theorem escapeChar_or (c : Char) :
    (c ∉ specialChars ∧ escapeChar c = [c]) ∨
      ∃ name, escapeChar c = '&' :: (name ++ [';']) ∧ entity? name = some c ∧
        name.all isNameChar = true ∧ name.head? ≠ some '#' ∧ ∀ x ∈ name, x ∉ specialChars := by
  unfold escapeChar
  split
  · exact .inr ⟨['l', 't'], rfl, rfl, rfl, by decide, by simp [specialChars]⟩
  · exact .inr ⟨['g', 't'], rfl, rfl, rfl, by decide, by simp [specialChars]⟩
  · exact .inr ⟨['a', 'm', 'p'], rfl, rfl, rfl, by decide, by simp [specialChars]⟩
  · exact .inr ⟨['a', 'p', 'o', 's'], rfl, rfl, rfl, by decide, by simp [specialChars]⟩
  · exact .inr ⟨['q', 'u', 'o', 't'], rfl, rfl, rfl, by decide, by simp [specialChars]⟩
  · next hlt hgt hamp hsingle hdouble =>
    refine .inl ⟨?_, rfl⟩
    simp only [specialChars, List.mem_cons, List.not_mem_nil, or_false, not_or]
    exact ⟨hlt, hgt, hamp, hsingle, hdouble⟩

theorem mem_specialChars_of_entity? {name : List Char} {c : Char} (h : entity? name = some c) :
    c ∈ specialChars := by
  unfold entity? at h
  split at h <;> cases h <;> decide

theorem unescapeName_entity {name : List Char} {c : Char} (start : Nat)
    (hc : entity? name = some c) (hsharp : name.head? ≠ some '#') :
    unescapeName start name = .ok c := by
  unfold unescapeName
  split
  · exact absurd rfl hsharp
  · rw [hc]

/-- An entity is read as its character. -/
theorem unescapeFrom_entity {name : List Char} {c : Char} (size offset : Nat) (rest : List Char)
    (hc : entity? name = some c) (hname : name.all isNameChar = true)
    (hsharp : name.head? ≠ some '#') :
    ∃ next, unescapeFrom size offset ('&' :: (name ++ [';']) ++ rest) =
      (c :: ·) <$> unescapeFrom size next rest := by
  have hall : ∀ x ∈ name, isNameChar x = true := List.all_eq_true.mp hname
  have hsemi : isNameChar ';' = false := by decide
  have hdrop : (name ++ ';' :: rest).dropWhile isNameChar = ';' :: rest := by
    rw [List.dropWhile_append_of_pos hall]
    simp [hsemi]
  have htake : (name ++ ';' :: rest).takeWhile isNameChar = name := by
    rw [List.takeWhile_append_of_pos hall]
    simp [hsemi]
  refine ⟨offset + 2 + (String.ofList name).utf8ByteSize, ?_⟩
  rw [List.cons_append, List.append_assoc, List.singleton_append, unescapeFrom, if_pos rfl]
  split
  · next after h =>
    rw [hdrop] at h
    cases h
    simp only [htake, unescapeName_entity _ hc hsharp]
    rfl
  · next h => exact absurd hdrop (h rest)

/-! ### Texts -/

theorem unescapeFrom_escape (size : Nat) (cs : List Char) :
    ∀ offset, unescapeFrom size offset (cs.flatMap escapeChar) = .ok cs := by
  induction cs with
  | nil =>
      intro offset
      rw [List.flatMap_nil, unescapeFrom]
  | cons c cs ih =>
      intro offset
      rw [List.flatMap_cons]
      rcases escapeChar_or c with ⟨hamp, hc⟩ | ⟨name, hc, hentity, hname, hsharp, -⟩
      · have hne : c ≠ '&' := fun h => hamp (h ▸ by decide)
        rw [hc, List.singleton_append, unescapeFrom, if_neg hne, ih]
        rfl
      · obtain ⟨next, hnext⟩ :=
          unescapeFrom_entity size offset (cs.flatMap escapeChar) hentity hname hsharp
        rw [hc, hnext, ih]
        rfl

/-- **Unescaping an escaped text gives the text.** -/
theorem unescape_escape (s : String) : unescape (escape s) = .ok s := by
  unfold unescape
  rw [show (escape s).toList = s.toList.flatMap escapeChar from String.toList_ofList,
    unescapeFrom_escape]
  exact congrArg Except.ok String.ofList_toList

/-- The characters of markup do not stand in an escaped text, but for the `&`. -/
theorem not_mem_escape {c : Char} (hc : c ∈ specialChars) (hamp : c ≠ '&') (s : String) :
    c ∉ (escape s).toList := by
  rw [show (escape s).toList = s.toList.flatMap escapeChar from String.toList_ofList,
    List.mem_flatMap]
  rintro ⟨d, -, hmem⟩
  rcases escapeChar_or d with ⟨hd, hescape⟩ | ⟨name, hescape, -, -, -, hname⟩
  · rw [hescape, List.mem_singleton] at hmem
    exact hd (hmem ▸ hc)
  · rw [hescape, List.mem_cons, List.mem_append, List.mem_singleton] at hmem
    rcases hmem with rfl | hmem | rfl
    · exact hamp rfl
    · exact hname c hmem hc
    · exact absurd hc (by decide)

/-- No markup begins in an escaped text. -/
theorem lt_not_mem_escape (s : String) : '<' ∉ (escape s).toList :=
  not_mem_escape (by decide) (by decide) s

/-- A text without the characters of markup is written as it is. -/
theorem escape_eq_self {s : String} (h : ∀ c ∈ s.toList, c ∉ specialChars) : escape s = s := by
  have hchars : ∀ cs : List Char, (∀ c ∈ cs, c ∉ specialChars) → cs.flatMap escapeChar = cs := by
    intro cs hcs
    induction cs with
    | nil => rfl
    | cons c cs ih =>
        rw [List.forall_mem_cons] at hcs
        rcases escapeChar_or c with ⟨-, hc⟩ | ⟨name, -, hentity, -⟩
        · rw [List.flatMap_cons, hc, ih hcs.2, List.singleton_append]
        · exact absurd (mem_specialChars_of_entity? hentity) hcs.1
  rw [escape, hchars s.toList h, String.ofList_toList]

end TierAudit.Markup
