/-!
# Text — blank characters

The characters that count as blank, and the text that is left when they are cut from both ends of a
string.  A trimmed text is its own trim (`trim_trim`).
-/

namespace TierAudit.Text

/-- A list without the items at its ends that satisfy `p`. -/
def cutEnds {α : Type} (p : α → Bool) (xs : List α) : List α :=
  ((xs.dropWhile p).reverse.dropWhile p).reverse

/-- The Unicode property `White_Space`. -/
def isBlank (c : Char) : Bool :=
  let n := c.toNat
  (0x09 ≤ n && n ≤ 0x0D) || n == 0x20 || n == 0x85 || n == 0xA0 || n == 0x1680 ||
    (0x2000 ≤ n && n ≤ 0x200A) || n == 0x2028 || n == 0x2029 || n == 0x202F || n == 0x205F ||
    n == 0x3000

/-- The text without the blank characters at its ends. -/
def trim (s : String) : String :=
  String.ofList (cutEnds isBlank s.toList)

/-! ### Laws of cutting -/

section
variable {α : Type} {p : α → Bool}

theorem dropWhile_eq_self_of_head {xs : List α} (h : ∀ x, xs.head? = some x → p x = false) :
    xs.dropWhile p = xs := by
  cases xs with
  | nil => rfl
  | cons x r => simp [h x rfl]

theorem head_dropWhile (xs : List α) : ∀ x, (xs.dropWhile p).head? = some x → p x = false := by
  induction xs with
  | nil => simp
  | cons a r ih =>
    by_cases ha : p a
    · simpa [ha] using ih
    · intro x hx
      simp only [List.dropWhile_cons, ha] at hx
      simp_all

/-- Cutting a list from the right leaves its head in place, or nothing at all. -/
theorem head_cut_right (xs : List α) (x : α)
    (h : ((xs.reverse.dropWhile p).reverse).head? = some x) : xs.head? = some x := by
  have hs : (xs.reverse.dropWhile p).reverse <+: xs := by
    have := List.dropWhile_suffix (l := xs.reverse) p
    simpa using List.reverse_prefix.2 this
  obtain ⟨t, ht⟩ := hs
  rw [← ht]
  cases hl : (xs.reverse.dropWhile p).reverse with
  | nil => simp [hl] at h
  | cons a r => simpa [hl] using h

theorem dropWhile_eq_nil_iff (xs : List α) : xs.dropWhile p = [] ↔ ∀ x ∈ xs, p x = true := by
  induction xs with
  | nil => simp
  | cons a r ih => by_cases ha : p a <;> simp [ha, ih]

@[simp] theorem cutEnds_cutEnds (xs : List α) : cutEnds p (cutEnds p xs) = cutEnds p xs := by
  unfold cutEnds
  generalize hd : xs.dropWhile p = ds
  have hhead : ∀ x, ((ds.reverse.dropWhile p).reverse).head? = some x → p x = false := by
    intro x hx
    exact head_dropWhile xs x (hd ▸ head_cut_right ds x hx)
  rw [dropWhile_eq_self_of_head hhead, List.reverse_reverse,
    dropWhile_eq_self_of_head (head_dropWhile ds.reverse)]

end

/-- A trimmed text is its own trim. -/
@[simp] theorem trim_trim (s : String) : trim (trim s) = trim s := by
  simp [trim]

end TierAudit.Text
