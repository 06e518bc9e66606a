import TierAudit.Text.Encoding

/-!
# Text — UTF-8, written and read

Reading the bytes of a text gives the text back (`decode?_ofText`).  A character beyond ASCII has no
byte below 80, so an ASCII character stands in the bytes of a text only where it stands in the text
(`infix_of_ofText`).
-/

namespace TierAudit.Text.Utf8

/-! ### One character -/

/-- The bound is written out for `omega`. -/
theorem toNat_byte {n : Nat} (h : n < 256) : (UInt8.ofNat n).toNat = n :=
  UInt8.toNat_ofNat_of_lt' h

theorem charFrom?_toNat {least : Nat} (c : Char) (h : least ≤ c.toNat) :
    charFrom? least c.toNat = some c := by
  have hv : c.toNat.isValidChar := c.valid
  rw [charFrom?, dif_pos hv, if_pos h]
  exact congrArg some (Char.toNat_inj.mp rfl)

theorem decodeFrom_lead {b : UInt8} {p : Partial} (h : lead? b = some p) (rest : Bytes) :
    decodeFrom none (b :: rest) = decodeFrom (some p) rest := by
  have hb : ¬ b < 0x80 := by
    intro hb
    have hlow : b < 0xC0 := UInt8.lt_trans hb (by decide)
    rw [lead?, if_pos hlow] at h
    cases h
  rw [decodeFrom, if_neg hb, h, Option.bind_some]

theorem isTail_ofNat {n : Nat} (h : n < 0x40) : isTail (UInt8.ofNat (n + 0x80)) = true := by
  have hn : (UInt8.ofNat (n + 0x80)).toNat = n + 0x80 := toNat_byte (by omega)
  simp only [isTail, Bool.and_eq_true, decide_eq_true_eq, UInt8.le_iff_toNat_le, hn]
  exact ⟨Nat.le_add_left .., Nat.add_le_add_right (Nat.le_of_lt_succ h) 0x80⟩

/-- A byte within a character adds six bits. -/
theorem decodeFrom_next {n : Nat} (owed code least : Nat) (rest : Bytes) (h : n < 0x40) :
    decodeFrom (some ⟨owed + 1, code, least⟩) (UInt8.ofNat (n + 0x80) :: rest) =
      decodeFrom (some ⟨owed, code * 0x40 + n, least⟩) rest := by
  have hn : (UInt8.ofNat (n + 0x80)).toNat = n + 0x80 := toNat_byte (by omega)
  simp only [decodeFrom, isTail_ofNat h, hn, Nat.add_sub_cancel]
  rfl

/-- The last byte completes a character. -/
theorem decodeFrom_last {n code least : Nat} (c : Char) (rest : Bytes) (h : n < 0x40)
    (hc : code * 0x40 + n = c.toNat) (hl : least ≤ c.toNat) :
    decodeFrom (some ⟨0, code, least⟩) (UInt8.ofNat (n + 0x80) :: rest) =
      (decodeFrom none rest).map (c :: ·) := by
  have hn : (UInt8.ofNat (n + 0x80)).toNat = n + 0x80 := toNat_byte (by omega)
  simp only [decodeFrom, isTail_ofNat h, hn, Nat.add_sub_cancel, hc, charFrom?_toNat c hl]
  rfl

theorem lead?_two {n : Nat} (h : n < 0x20) :
    lead? (UInt8.ofNat (n + 0xC0)) = some ⟨0, n, 0x80⟩ := by
  have hn : (UInt8.ofNat (n + 0xC0)).toNat = n + 0xC0 := toNat_byte (by omega)
  simp only [lead?, UInt8.lt_iff_toNat_lt, hn, UInt8.reduceToNat, Nat.add_sub_cancel]
  rw [if_neg (by omega), if_pos (by omega)]

theorem lead?_three {n : Nat} (h : n < 0x10) :
    lead? (UInt8.ofNat (n + 0xE0)) = some ⟨1, n, 0x800⟩ := by
  have hn : (UInt8.ofNat (n + 0xE0)).toNat = n + 0xE0 := toNat_byte (by omega)
  simp only [lead?, UInt8.lt_iff_toNat_lt, hn, UInt8.reduceToNat, Nat.add_sub_cancel]
  rw [if_neg (by omega), if_neg (by omega), if_pos (by omega)]

theorem lead?_four {n : Nat} (h : n < 8) :
    lead? (UInt8.ofNat (n + 0xF0)) = some ⟨2, n, 0x10000⟩ := by
  have hn : (UInt8.ofNat (n + 0xF0)).toNat = n + 0xF0 := toNat_byte (by omega)
  simp only [lead?, UInt8.lt_iff_toNat_lt, hn, UInt8.reduceToNat, Nat.add_sub_cancel]
  rw [if_neg (by omega), if_neg (by omega), if_neg (by omega), if_pos (by omega)]

theorem encode_ascii {c : Char} (h : c.toNat < 0x80) :
    String.utf8EncodeChar c = [Bytes.ofAscii c] := by
  have hc : c.val.toNat ≤ 127 := Nat.le_of_lt_succ h
  simp only [String.utf8EncodeChar, hc, if_true]
  rfl

/-- A character beyond ASCII has no byte in ASCII. -/
theorem le_of_mem_encode {c : Char} {b : UInt8} (h : 0x80 ≤ c.toNat)
    (hb : b ∈ String.utf8EncodeChar c) : 0x80 ≤ b := by
  have high : ∀ m n : Nat, m < 0x80 → b = UInt8.ofNat (m + n) → 0x80 ≤ n → m + n < 256 →
      0x80 ≤ b := by
    intro m n _ hbn hn hlt
    rw [UInt8.le_iff_toNat_le, hbn, toNat_byte hlt]
    exact Nat.le_trans hn (Nat.le_add_left ..)
  have hc : ¬ c.val.toNat ≤ 127 := Nat.not_le.mpr h
  simp only [String.utf8EncodeChar, hc, if_false] at hb
  split at hb
  · simp only [List.mem_cons, List.not_mem_nil, or_false] at hb
    rcases hb with hb | hb <;> exact high _ _ (by omega) hb (by omega) (by omega)
  · split at hb
    · simp only [List.mem_cons, List.not_mem_nil, or_false] at hb
      rcases hb with hb | hb | hb <;> exact high _ _ (by omega) hb (by omega) (by omega)
    · simp only [List.mem_cons, List.not_mem_nil, or_false] at hb
      rcases hb with hb | hb | hb | hb <;> exact high _ _ (by omega) hb (by omega) (by omega)

/-- The bytes of a character are read as that character, whatever follows them. -/
theorem decodeFrom_encode (c : Char) (rest : Bytes) :
    decodeFrom none (String.utf8EncodeChar c ++ rest) = (decodeFrom none rest).map (c :: ·) := by
  have hlt : c.toNat ≤ 0x10FFFF := by
    have := c.valid
    unfold UInt32.isValidChar Nat.isValidChar at this
    unfold Char.toNat
    omega
  -- One case for each number of bytes; the least code point of a case bounds the one before.
  by_cases h1 : c.toNat ≤ 0x7F
  · rw [encode_ascii (by omega)]
    have hb : (Bytes.ofAscii c).toNat = c.toNat := toNat_byte (by omega)
    have hlow : Bytes.ofAscii c < 0x80 := by
      rw [UInt8.lt_iff_toNat_lt, hb]
      exact Nat.lt_succ_of_le h1
    simp only [List.singleton_append, decodeFrom, hlow, if_true, hb, Char.ofNat_toNat]
  · simp only [String.utf8EncodeChar, show c.val.toNat = c.toNat from rfl, h1, if_false]
    split
    · simp only [List.cons_append, List.nil_append]
      rw [decodeFrom_lead (lead?_two (by omega)),
        decodeFrom_last c rest (by omega) (by omega) (by omega)]
    · split
      · simp only [List.cons_append, List.nil_append]
        rw [decodeFrom_lead (lead?_three (by omega)), decodeFrom_next _ _ _ _ (by omega),
          decodeFrom_last c rest (by omega) (by omega) (by omega)]
      · simp only [List.cons_append, List.nil_append]
        rw [decodeFrom_lead (lead?_four (by omega)), decodeFrom_next _ _ _ _ (by omega),
          decodeFrom_next _ _ _ _ (by omega),
          decodeFrom_last c rest (by omega) (by omega) (by omega)]

/-! ### Texts -/

@[simp] theorem ofText_empty : Bytes.ofText "" = [] := rfl

@[simp] theorem ofText_append (s t : String) :
    Bytes.ofText (s ++ t) = Bytes.ofText s ++ Bytes.ofText t := by
  simp [Bytes.ofText]

theorem decode?_flatMap (cs : List Char) :
    decode? (cs.flatMap String.utf8EncodeChar) = some cs := by
  unfold decode?
  induction cs with
  | nil => rfl
  | cons c cs ih => rw [List.flatMap_cons, decodeFrom_encode, ih, Option.map_some]

/-- **Reading the bytes of a text gives the text.** -/
theorem decode?_ofText (s : String) : Encoding.utf8.decode? (Bytes.ofText s) = some s := by
  simp only [Encoding.decode?, Bytes.ofText, decode?_flatMap]
  exact congrArg some String.ofList_toList

theorem ofText_inj {s t : String} (h : Bytes.ofText s = Bytes.ofText t) : s = t := by
  have hread := decode?_ofText s
  rw [h, decode?_ofText, Option.some.injEq] at hread
  exact hread.symm

/-! ### ASCII in the bytes of a text -/

theorem ofAscii_inj {c d : Char} (hc : c.toNat < 0x80) (hd : d.toNat < 0x80)
    (h : Bytes.ofAscii c = Bytes.ofAscii d) : c = d := by
  have hbyte := congrArg UInt8.toNat h
  have hc' : (Bytes.ofAscii c).toNat = c.toNat := toNat_byte (by omega)
  have hd' : (Bytes.ofAscii d).toNat = d.toNat := toNat_byte (by omega)
  rw [hc', hd'] at hbyte
  exact Char.toNat_inj.mp hbyte

theorem ofAscii_lt {c : Char} (hc : c.toNat < 0x80) : Bytes.ofAscii c < 0x80 := by
  rw [UInt8.lt_iff_toNat_lt, show (Bytes.ofAscii c).toNat = c.toNat from toNat_byte (by omega)]
  exact hc

theorem prefix_of_encode : ∀ {marker cs : List Char}, (∀ c ∈ marker, c.toNat < 0x80) →
    marker.map Bytes.ofAscii <+: cs.flatMap String.utf8EncodeChar → marker <+: cs
  | [], _, _, _ => List.nil_prefix
  | _ :: _, [], _, h => by cases List.prefix_nil.mp h
  | x :: marker, c :: cs, hm, h => by
      have hx : x.toNat < 0x80 := hm x (by simp)
      rw [List.map_cons, List.flatMap_cons] at h
      by_cases hc : c.toNat < 0x80
      · rw [encode_ascii hc, List.singleton_append, List.cons_prefix_cons] at h
        rw [ofAscii_inj hx hc h.1, List.cons_prefix_cons]
        exact ⟨rfl, prefix_of_encode (fun d hd => hm d (by simp [hd])) h.2⟩
      · -- The first byte of `c` is no ASCII byte, so the marker cannot begin here.
        cases hbytes : String.utf8EncodeChar c with
        | nil => exact absurd hbytes String.utf8EncodeChar_ne_nil
        | cons b bs =>
            rw [hbytes, List.cons_append, List.cons_prefix_cons] at h
            have hb : 0x80 ≤ b := le_of_mem_encode (Nat.not_lt.mp hc) (by simp [hbytes])
            exact absurd (h.1 ▸ ofAscii_lt hx) (UInt8.not_lt.mpr hb)

/-- A marker does not begin where its first byte is missing. -/
theorem infix_of_infix_append {x : UInt8} {marker pre rest : Bytes} (hx : x ∉ pre)
    (h : x :: marker <:+: pre ++ rest) : x :: marker <:+: rest := by
  induction pre with
  | nil => exact h
  | cons b pre ih =>
      rw [List.mem_cons, not_or] at hx
      rcases List.infix_cons_iff.mp h with h | h
      · rw [List.cons_prefix_cons] at h
        exact absurd h.1 hx.1
      · exact ih hx.2 h

/-- ASCII characters stand in the bytes of a text only where they stand in the text. -/
theorem infix_of_ofText {marker : List Char} {s : String} (hm : ∀ c ∈ marker, c.toNat < 0x80)
    (h : marker.map Bytes.ofAscii <:+: Bytes.ofText s) : marker <:+: s.toList := by
  unfold Bytes.ofText at h
  generalize s.toList = cs at h ⊢
  cases marker with
  | nil => exact List.nil_infix
  | cons x marker =>
      induction cs with
      | nil => cases List.infix_nil.mp h
      | cons c cs ih =>
          rw [List.flatMap_cons] at h
          by_cases hc : c.toNat < 0x80
          · rw [encode_ascii hc, List.singleton_append, List.infix_cons_iff] at h
            rcases h with h | h
            · have hprefix : (x :: marker).map Bytes.ofAscii <+:
                  (c :: cs).flatMap String.utf8EncodeChar := by
                rwa [List.flatMap_cons, encode_ascii hc]
              exact (prefix_of_encode hm hprefix).isInfix
            · exact (ih h).trans (List.suffix_cons c cs).isInfix
          · have hx : Bytes.ofAscii x ∉ String.utf8EncodeChar c := fun hmem =>
              UInt8.not_lt.mpr (le_of_mem_encode (Nat.not_lt.mp hc) hmem)
                (ofAscii_lt (hm x (by simp)))
            exact (ih (infix_of_infix_append hx h)).trans (List.suffix_cons c cs).isInfix

/-- The byte of an ASCII character stands in the bytes of a text only if the character stands in
the text. -/
theorem mem_of_ofAscii_mem {c : Char} {s : String} (hc : c.toNat < 0x80)
    (h : Bytes.ofAscii c ∈ Bytes.ofText s) : c ∈ s.toList := by
  have hbyte : [c].map Bytes.ofAscii <:+: Bytes.ofText s := by
    obtain ⟨pre, post, hp⟩ := List.append_of_mem h
    exact ⟨pre, post, by rw [hp]; simp⟩
  have hm : ∀ d ∈ [c], d.toNat < 0x80 := fun d hd => List.mem_singleton.mp hd ▸ hc
  exact (infix_of_ofText hm hbyte).subset (List.mem_singleton_self c)

end TierAudit.Text.Utf8
