import TierAudit.Text.Blank
import TierAudit.Text.Bytes

/-!
# Text — recoding

Two encodings that have ASCII in common differ only in the bytes beyond it.  A `Recoding` leaves
ASCII bytes as they are and puts bytes beyond ASCII in the place of any other byte.  What looks only
at ASCII bytes does the same before and after: it cuts blanks, finds a marker and compares with an
ASCII text at the same place (`cutEnds_apply`, `cutAt?_apply`, `apply_eq_ascii_iff`).
-/

namespace TierAudit.Bytes
open Text

/-- A byte of ASCII. -/
def IsAscii (b : UInt8) : Prop := b < 0x80

instance (b : UInt8) : Decidable (IsAscii b) := inferInstanceAs (Decidable (b < 0x80))

/-- Bytes of ASCII only. -/
def AllAscii (bytes : Bytes) : Prop := ∀ b ∈ bytes, IsAscii b

-- Byte by byte of these, not of all bytes there are.
instance (bytes : Bytes) : Decidable (AllAscii bytes) := List.decidableBAll IsAscii bytes

theorem allAscii_cons {b : UInt8} {bytes : Bytes} :
    AllAscii (b :: bytes) ↔ IsAscii b ∧ AllAscii bytes := List.forall_mem_cons

/-- A test that tells no byte beyond ASCII from another. -/
def IsAsciiTest (p : UInt8 → Bool) : Prop := ∀ b c, ¬ IsAscii b → ¬ IsAscii c → p b = p c

namespace IsAsciiTest
variable {p q : UInt8 → Bool} {c : UInt8}

theorem beq (hc : IsAscii c) : IsAsciiTest (· == c) := by
  have hne : ∀ b, ¬ IsAscii b → (b == c) = false := fun b hb =>
    beq_eq_false_iff_ne.mpr fun h => hb (h ▸ hc)
  exact fun b b' hb hb' => (hne b hb).trans (hne b' hb').symm

theorem ne (hc : IsAscii c) : IsAsciiTest (· ≠ c) := by
  have hne : ∀ b, ¬ IsAscii b → decide (b ≠ c) = true := fun b hb =>
    decide_eq_true fun h => hb (h ▸ hc)
  exact fun b b' hb hb' => (hne b hb).trans (hne b' hb').symm

theorem not (h : IsAsciiTest p) : IsAsciiTest (!p ·) :=
  fun b b' hb hb' => congrArg (! ·) (h b b' hb hb')

theorem and (hp : IsAsciiTest p) (hq : IsAsciiTest q) : IsAsciiTest fun b => p b && q b :=
  fun b b' hb hb' => by simp only [hp b b' hb hb', hq b b' hb hb']

theorem or (hp : IsAsciiTest p) (hq : IsAsciiTest q) : IsAsciiTest fun b => p b || q b :=
  fun b b' hb hb' => by simp only [hp b b' hb hb', hq b b' hb hb']

theorem isTagBlank : IsAsciiTest isTagBlank :=
  (((beq (by decide)).or (beq (by decide))).or (beq (by decide))).or (beq (by decide))

theorem isAsciiBlank : IsAsciiTest isAsciiBlank := isTagBlank.or (beq (by decide))

end IsAsciiTest

/-- Other bytes in the place of those beyond ASCII. -/
structure Recoding where
  image : UInt8 → Bytes
  ascii : ∀ {b}, IsAscii b → image b = [b]
  ne_nil : ∀ b, image b ≠ []
  upper : ∀ {b}, ¬ IsAscii b → ∀ x ∈ image b, ¬ IsAscii x

namespace Recoding

/-- The bytes that stand in the place of bytes. -/
def apply (f : Recoding) (bytes : Bytes) : Bytes := bytes.flatMap f.image

variable (f : Recoding) {p : UInt8 → Bool} {marker : Bytes}

@[simp] theorem apply_nil : f.apply [] = [] := rfl

theorem apply_cons (b : UInt8) (bytes : Bytes) :
    f.apply (b :: bytes) = f.image b ++ f.apply bytes := List.flatMap_cons

@[simp] theorem apply_append (bytes more : Bytes) :
    f.apply (bytes ++ more) = f.apply bytes ++ f.apply more := List.flatMap_append

theorem apply_cons_ascii {b : UInt8} (h : IsAscii b) (bytes : Bytes) :
    f.apply (b :: bytes) = b :: f.apply bytes := by
  rw [apply_cons, f.ascii h, List.singleton_append]

/-- A byte beyond ASCII becomes at least one such byte. -/
theorem exists_image {b : UInt8} (h : ¬ IsAscii b) :
    ∃ x xs, f.image b = x :: xs ∧ ∀ y ∈ x :: xs, ¬ IsAscii y := by
  obtain ⟨x, xs, himage⟩ := List.exists_cons_of_ne_nil (f.ne_nil b)
  exact ⟨x, xs, himage, himage ▸ f.upper h⟩

theorem test_image (hp : IsAsciiTest p) {b x : UInt8} (hx : x ∈ f.image b) : p x = p b := by
  by_cases hb : IsAscii b
  · rw [f.ascii hb, List.mem_singleton] at hx
    rw [hx]
  · exact hp x b (f.upper hb x hx) hb

@[simp] theorem apply_eq_nil_iff {bytes : Bytes} : f.apply bytes = [] ↔ bytes = [] := by
  cases bytes with
  | nil => simp
  | cons b bytes => simp [apply_cons, f.ne_nil b]

/-- ASCII bytes stay. -/
theorem apply_ascii {bytes : Bytes} (h : AllAscii bytes) : f.apply bytes = bytes := by
  induction bytes with
  | nil => rfl
  | cons b bytes ih =>
      rw [allAscii_cons] at h
      rw [f.apply_cons_ascii h.1, ih h.2]

/-- Nothing else becomes ASCII. -/
theorem apply_eq_ascii_iff {bytes text : Bytes} (h : AllAscii text) :
    f.apply bytes = text ↔ bytes = text := by
  refine ⟨fun heq => ?_, fun heq => by rw [heq, f.apply_ascii h]⟩
  induction bytes generalizing text with
  | nil => exact heq
  | cons b bytes ih =>
      by_cases hb : IsAscii b
      · rw [f.apply_cons_ascii hb] at heq
        subst heq
        exact congrArg (b :: ·) (ih (fun c hc => h c (List.mem_cons_of_mem _ hc)) rfl)
      · obtain ⟨x, xs, himage, hupper⟩ := f.exists_image hb
        rw [apply_cons, himage] at heq
        exact absurd (h x (heq ▸ List.mem_cons_self)) (hupper x List.mem_cons_self)

/-! ### Tests -/

theorem takeWhile_apply (hp : IsAsciiTest p) (bytes : Bytes) :
    (f.apply bytes).takeWhile p = f.apply (bytes.takeWhile p) := by
  induction bytes with
  | nil => rfl
  | cons b bytes ih =>
      have himage : ∀ x ∈ f.image b, p x = p b := fun x hx => f.test_image hp hx
      rw [apply_cons, List.takeWhile_cons]
      cases hb : p b with
      | true =>
          rw [List.takeWhile_append_of_pos fun x hx => (himage x hx).trans hb, ih, if_pos rfl,
            apply_cons]
      | false =>
          obtain ⟨x, xs, heq⟩ := List.exists_cons_of_ne_nil (f.ne_nil b)
          have hx : p x = false := (himage x (heq ▸ List.mem_cons_self)).trans hb
          rw [heq, List.cons_append, List.takeWhile_cons, hx]
          rfl

theorem dropWhile_apply (hp : IsAsciiTest p) (bytes : Bytes) :
    (f.apply bytes).dropWhile p = f.apply (bytes.dropWhile p) := by
  induction bytes with
  | nil => rfl
  | cons b bytes ih =>
      have himage : ∀ x ∈ f.image b, p x = p b := fun x hx => f.test_image hp hx
      rw [apply_cons, List.dropWhile_cons]
      cases hb : p b with
      | true =>
          rw [List.dropWhile_append_of_pos fun x hx => (himage x hx).trans hb, ih, if_pos rfl]
      | false =>
          obtain ⟨x, xs, heq⟩ := List.exists_cons_of_ne_nil (f.ne_nil b)
          have hx : p x = false := (himage x (heq ▸ List.mem_cons_self)).trans hb
          rw [if_neg Bool.false_ne_true, apply_cons, heq, List.cons_append, List.dropWhile_cons,
            hx, if_neg Bool.false_ne_true]

theorem all_apply (hp : IsAsciiTest p) (bytes : Bytes) :
    (f.apply bytes).all p = bytes.all p := by
  rw [Bool.eq_iff_iff, List.all_eq_true, List.all_eq_true]
  constructor
  · intro h b hb
    obtain ⟨x, xs, heq⟩ := List.exists_cons_of_ne_nil (f.ne_nil b)
    have hx : x ∈ f.image b := heq ▸ List.mem_cons_self
    rw [← f.test_image hp hx]
    exact h x (List.mem_flatMap.mpr ⟨b, hb, hx⟩)
  · intro h x hx
    obtain ⟨b, hb, hx⟩ := List.mem_flatMap.mp hx
    rw [f.test_image hp hx]
    exact h b hb

/-- The first byte passes a test before and after. -/
theorem all_head?_apply (hp : IsAsciiTest p) (bytes : Bytes) :
    (f.apply bytes).head?.all p = bytes.head?.all p := by
  cases bytes with
  | nil => rfl
  | cons b bytes =>
      obtain ⟨x, xs, heq⟩ := List.exists_cons_of_ne_nil (f.ne_nil b)
      rw [apply_cons, heq]
      exact f.test_image hp (heq ▸ List.mem_cons_self)

/-- An ASCII byte in front stays there, and nothing else becomes one. -/
theorem head?_apply_eq_some_iff {c : UInt8} (hc : IsAscii c) (bytes : Bytes) :
    (f.apply bytes).head? = some c ↔ bytes.head? = some c := by
  cases bytes with
  | nil => rfl
  | cons b bytes =>
      by_cases hb : IsAscii b
      · rw [f.apply_cons_ascii hb]
        rfl
      · obtain ⟨x, xs, himage, hupper⟩ := f.exists_image hb
        have hx : x ≠ c := fun h => hupper x List.mem_cons_self (h ▸ hc)
        have hb : b ≠ c := fun h => hb (h ▸ hc)
        simp [apply_cons, himage, hx, hb]

theorem tail_apply {c : UInt8} (hc : IsAscii c) {bytes : Bytes} (h : bytes.head? = some c) :
    (f.apply bytes).tail = f.apply bytes.tail := by
  obtain ⟨rest, rfl⟩ := List.head?_eq_some_iff.mp h
  rw [f.apply_cons_ascii hc, List.tail_cons, List.tail_cons]

/-! ### Both ends -/

/-- The recoding of bytes that are read from the right. -/
def reverse : Recoding where
  image b := (f.image b).reverse
  ascii h := by rw [f.ascii h, List.reverse_singleton]
  ne_nil b := mt List.reverse_eq_nil_iff.mp (f.ne_nil b)
  upper h x hx := f.upper h x (List.mem_reverse.mp hx)

theorem reverse_apply (bytes : Bytes) :
    (f.apply bytes).reverse = f.reverse.apply bytes.reverse := by
  unfold apply
  rw [List.reverse_flatMap]
  rfl

theorem apply_reverse (bytes : Bytes) :
    (f.reverse.apply bytes).reverse = f.apply bytes.reverse := by
  rw [List.reverse_eq_iff, reverse_apply, List.reverse_reverse]

theorem cutEnds_apply (hp : IsAsciiTest p) (bytes : Bytes) :
    cutEnds p (f.apply bytes) = f.apply (cutEnds p bytes) := by
  unfold cutEnds
  rw [f.dropWhile_apply hp, reverse_apply, f.reverse.dropWhile_apply hp, apply_reverse]

theorem getLast?_apply_eq_some_iff {c : UInt8} (hc : IsAscii c) (bytes : Bytes) :
    (f.apply bytes).getLast? = some c ↔ bytes.getLast? = some c := by
  rw [List.getLast?_eq_head?_reverse, List.getLast?_eq_head?_reverse, reverse_apply,
    f.reverse.head?_apply_eq_some_iff hc]

theorem dropLast_apply {c : UInt8} (hc : IsAscii c) {bytes : Bytes}
    (h : bytes.getLast? = some c) : (f.apply bytes).dropLast = f.apply bytes.dropLast := by
  obtain ⟨start, rfl⟩ := List.getLast?_eq_some_iff.mp h
  rw [apply_append, f.apply_cons_ascii hc, apply_nil, List.dropLast_concat, List.dropLast_concat]

/-! ### Markers -/

theorem isPrefixOf_apply (hmarker : AllAscii marker) (bytes : Bytes) :
    marker.isPrefixOf (f.apply bytes) = marker.isPrefixOf bytes := by
  induction marker generalizing bytes with
  | nil => simp
  | cons m marker ih =>
      rw [allAscii_cons] at hmarker
      cases bytes with
      | nil => rfl
      | cons b bytes =>
          by_cases hb : IsAscii b
          · rw [f.apply_cons_ascii hb, List.isPrefixOf_cons_cons, List.isPrefixOf_cons_cons,
              ih hmarker.2]
          · obtain ⟨x, xs, himage, hupper⟩ := f.exists_image hb
            have hx : m ≠ x := fun h => hupper x List.mem_cons_self (h ▸ hmarker.1)
            have hb : m ≠ b := fun h => hb (h ▸ hmarker.1)
            rw [apply_cons, himage, List.cons_append, List.isPrefixOf_cons_cons,
              List.isPrefixOf_cons_cons, beq_eq_false_iff_ne.mpr hx, beq_eq_false_iff_ne.mpr hb]
            rfl

/-- ASCII bytes in front are dropped one by one. -/
theorem drop_apply {n : Nat} {bytes : Bytes} (h : AllAscii (bytes.take n)) :
    (f.apply bytes).drop n = f.apply (bytes.drop n) := by
  induction n generalizing bytes with
  | zero => rfl
  | succ n ih =>
      cases bytes with
      | nil => rfl
      | cons b bytes =>
          rw [List.take_succ_cons, allAscii_cons] at h
          rw [f.apply_cons_ascii h.1, List.drop_succ_cons, List.drop_succ_cons, ih h.2]

theorem drop_marker_apply (hmarker : AllAscii marker) {bytes : Bytes}
    (h : marker.isPrefixOf bytes = true) :
    (f.apply bytes).drop marker.length = f.apply (bytes.drop marker.length) := by
  refine f.drop_apply fun b hb => hmarker b ?_
  rwa [← List.prefix_iff_eq_take.mp (List.isPrefixOf_iff_prefix.mp h)] at hb

/-! ### Splits -/

/-- A split in which a byte beyond ASCII is never where it splits. -/
def PassesUpper (cut : Bytes → Option (Bytes × Bytes)) : Prop :=
  ∀ b, ¬ IsAscii b → ∀ rest,
    cut (b :: rest) = (cut rest).map fun (before, after) => (b :: before, after)

theorem PassesUpper.append {cut : Bytes → Option (Bytes × Bytes)} (hcut : PassesUpper cut)
    {upper : Bytes} (h : ∀ b ∈ upper, ¬ IsAscii b) (rest : Bytes) :
    cut (upper ++ rest) = (cut rest).map fun (before, after) => (upper ++ before, after) := by
  induction upper with
  | nil => exact Option.map_id'.symm
  | cons b upper ih =>
      rw [List.forall_mem_cons] at h
      rw [List.cons_append, hcut b h.1, ih h.2, Option.map_map]
      rfl

/-- It splits recoded bytes at the same place, if it does so behind the first of them. -/
theorem PassesUpper.apply_cons {cut : Bytes → Option (Bytes × Bytes)} (hcut : PassesUpper cut)
    {b : UInt8} (hb : ¬ IsAscii b) {bytes : Bytes}
    (ih : cut (f.apply bytes) = (cut bytes).map (Prod.map f.apply f.apply)) :
    cut (f.apply (b :: bytes)) = (cut (b :: bytes)).map (Prod.map f.apply f.apply) := by
  rw [f.apply_cons, hcut.append (f.upper hb), ih, hcut b hb, Option.map_map, Option.map_map]
  refine congrArg (Option.map · _) (funext fun parts => ?_)
  simp only [Function.comp, Prod.map, f.apply_cons]

/-- The same behind an ASCII byte, where it does not split either. -/
theorem map_apply_cons_ascii {b : UInt8} (hb : IsAscii b) (cut : Option (Bytes × Bytes)) :
    ((cut.map (Prod.map f.apply f.apply)).map fun (before, after) => (b :: before, after)) =
      (cut.map fun (before, after) => (b :: before, after)).map (Prod.map f.apply f.apply) := by
  rw [Option.map_map, Option.map_map]
  refine congrArg (Option.map · _) (funext fun parts => ?_)
  simp only [Function.comp, Prod.map, f.apply_cons_ascii hb]

theorem passesUpper_cutAt? {m : UInt8} (hm : IsAscii m) (marker : Bytes) :
    PassesUpper (cutAt? (m :: marker)) := by
  intro b hb rest
  have hne : m ≠ b := fun heq => hb (heq ▸ hm)
  have hstart : (m :: marker).isPrefixOf (b :: rest) = false := by
    rw [List.isPrefixOf_cons_cons, beq_eq_false_iff_ne.mpr hne, Bool.false_and]
  rw [cutAt?, hstart, if_neg Bool.false_ne_true]

/-- An ASCII marker is found at the same place. -/
theorem cutAt?_apply (hne : marker ≠ []) (hmarker : AllAscii marker) (bytes : Bytes) :
    cutAt? marker (f.apply bytes) = (cutAt? marker bytes).map (Prod.map f.apply f.apply) := by
  obtain ⟨m, ms, rfl⟩ := List.exists_cons_of_ne_nil hne
  induction bytes with
  | nil => rfl
  | cons b bytes ih =>
      by_cases hb : IsAscii b
      · have hprefix := f.isPrefixOf_apply hmarker (b :: bytes)
        rw [f.apply_cons_ascii hb] at hprefix ⊢
        rw [cutAt?, cutAt?, hprefix]
        split
        · next hstart =>
          rw [← f.apply_cons_ascii hb, f.drop_marker_apply hmarker hstart]
          rfl
        · rw [ih, f.map_apply_cons_ascii hb]
      · exact (passesUpper_cutAt? (hmarker m List.mem_cons_self) ms).apply_cons f hb ih

/-! ### Letter case -/

theorem lower_of_not_isAscii {b : UInt8} (h : ¬ IsAscii b) : lower b = b := by
  simp only [IsAscii, UInt8.lt_iff_toNat_lt, UInt8.reduceToNat] at h
  have hupper : ¬ b ≤ 0x5A := by
    simp only [UInt8.le_iff_toNat_le, UInt8.reduceToNat]
    omega
  simp [lower, hupper]

theorem isAscii_lower {b : UInt8} (h : IsAscii b) : IsAscii (lower b) := by
  unfold lower
  split
  · next hletter =>
    simp only [Bool.and_eq_true, decide_eq_true_eq, UInt8.le_iff_toNat_le, UInt8.reduceToNat]
      at hletter
    rw [IsAscii, UInt8.lt_iff_toNat_lt, UInt8.toNat_add]
    simp only [UInt8.reduceToNat]
    omega
  · exact h

theorem lower_apply (bytes : Bytes) : (f.apply bytes).map lower = f.apply (bytes.map lower) := by
  induction bytes with
  | nil => rfl
  | cons b bytes ih =>
      rw [List.map_cons]
      by_cases hb : IsAscii b
      · rw [f.apply_cons_ascii hb, f.apply_cons_ascii (isAscii_lower hb), List.map_cons, ih]
      · have himage : (f.image b).map lower = f.image b :=
          (List.map_congr_left fun x hx => lower_of_not_isAscii (f.upper hb x hx)).trans
            (List.map_id _)
        rw [lower_of_not_isAscii hb, apply_cons, apply_cons, List.map_append, himage, ih]

end Recoding

end TierAudit.Bytes
