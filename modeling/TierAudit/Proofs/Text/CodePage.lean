import TierAudit.Proofs.Text.Recoding
import TierAudit.Proofs.Text.Utf8

/-!
# Text — code pages

In a page in which every byte has a character of its own (`CodePage.IsFull`) any bytes are a text,
and no others are the same text (`decode?_eq`, `charOf_injective`).  The bytes of that text in UTF-8
are a recoding of those in the page (`toUtf8`), with which nothing is lost (`transcodes`).
-/

namespace TierAudit.Bytes.Recoding

/-- What a recoding from one encoding into another has to establish: the same text is read, and
different bytes stay different. -/
structure Transcodes (f : Recoding) (source target : Text.Encoding) : Prop where
  decode? : ∀ bytes, target.decode? (f.apply bytes) = source.decode? bytes
  injective : ∀ {bytes bytes'}, f.apply bytes = f.apply bytes' → bytes = bytes'

end TierAudit.Bytes.Recoding

namespace TierAudit.Text.CodePage
open Bytes (IsAscii Recoding)

/-- Every byte beyond ASCII has a character of its own, which is beyond ASCII too. -/
structure IsFull (page : CodePage) : Prop where
  length_eq : page.upper.length = 0x80
  beyond : ∀ c ∈ page.upper, 0x80 ≤ c.toNat ∧ c ≠ '\ufffd'
  nodup : page.upper.Nodup

theorem isFull_windows1252 : IsFull windows1252 := by
  have hbeyond : ∀ {chars : List Char}, chars.all (fun c => 0x80 ≤ c.toNat ∧ c ≠ '\ufffd') = true →
      ∀ c ∈ chars, 0x80 ≤ c.toNat ∧ c ≠ '\ufffd' :=
    fun h c hc => of_decide_eq_true (List.all_eq_true.mp h c hc)
  have hnumbers : ∀ c c' : Char, c.toNat ≠ c'.toNat → c ≠ c' := fun _ _ => mt (congrArg _)
  -- The characters one by one: a text is slow to evaluate.
  rw [windows1252, ofUpper, String.toList_append, String.toList_ofList, String.toList_ofList]
  exact ⟨by decide +kernel, hbeyond (by decide +kernel),
    List.Pairwise.of_map Char.toNat hnumbers (by decide +kernel)⟩

/-- The character of a byte, in a page in which it has one. -/
def charOf (page : CodePage) (b : UInt8) : Char := (page.char? b).getD '\ufffd'

theorem char?_ascii (page : CodePage) {b : UInt8} (h : IsAscii b) :
    page.char? b = some (Char.ofNat b.toNat) := if_pos h

theorem charOf_ascii (page : CodePage) {b : UInt8} (h : IsAscii b) :
    page.charOf b = Char.ofNat b.toNat := by
  rw [charOf, char?_ascii page h, Option.getD_some]

theorem toNat_ofNat_ascii {b : UInt8} (h : IsAscii b) : (Char.ofNat b.toNat).toNat = b.toNat := by
  have hb : b.toNat < 0x80 := UInt8.lt_iff_toNat_lt.mp h
  have hvalid : b.toNat.isValidChar := .inl (by omega)
  rw [Char.ofNat, dif_pos hvalid]
  rfl

namespace IsFull
variable {page : CodePage} (h : page.IsFull)
include h

theorem lt_length (b : UInt8) : b.toNat - 0x80 < page.upper.length := by
  rw [h.length_eq]
  have hb := b.toNat_lt
  omega

theorem upper_eq {b : UInt8} (hb : ¬ IsAscii b) :
    page.upper[b.toNat - 0x80]? = some (page.charOf b) ∧ page.char? b = some (page.charOf b) := by
  obtain ⟨c, hc⟩ : ∃ c, page.upper[b.toNat - 0x80]? = some c :=
    ⟨_, List.getElem?_eq_getElem (h.lt_length b)⟩
  have hchar : page.char? b = some c := by
    rw [char?, if_neg (show ¬ b < 0x80 from hb), hc]
    simp [(h.beyond c (List.mem_of_getElem? hc)).2]
  rw [charOf, hchar]
  exact ⟨hc, rfl⟩

theorem char?_eq (b : UInt8) : page.char? b = some (page.charOf b) := by
  by_cases hb : IsAscii b
  · rw [charOf_ascii page hb, char?_ascii page hb]
  · exact (h.upper_eq hb).2

/-- Only bytes beyond ASCII have characters beyond ASCII. -/
theorem isAscii_iff (b : UInt8) : IsAscii b ↔ (page.charOf b).toNat < 0x80 := by
  by_cases hb : IsAscii b
  · rw [charOf_ascii page hb, toNat_ofNat_ascii hb]
    exact iff_of_true hb (UInt8.lt_iff_toNat_lt.mp hb)
  · have hmem := List.mem_of_getElem? (h.upper_eq hb).1
    exact iff_of_false hb (Nat.not_lt.mpr (h.beyond _ hmem).1)

theorem charOf_injective (b b' : UInt8) (heq : page.charOf b = page.charOf b') : b = b' := by
  have hsame : IsAscii b ↔ IsAscii b' := by
    rw [h.isAscii_iff b, h.isAscii_iff b', heq]
  refine UInt8.toNat_inj.mp ?_
  by_cases hb : IsAscii b
  · have hb' := hsame.mp hb
    rw [← toNat_ofNat_ascii hb, ← toNat_ofNat_ascii hb', ← charOf_ascii page hb, heq,
      charOf_ascii page hb']
  · have hb' := mt hsame.mpr hb
    -- The characters of the page tell the bytes apart.
    have hindex : b.toNat - 0x80 = b'.toNat - 0x80 := by
      refine (List.getElem?_inj (h.lt_length b) h.nodup).mp ?_
      rw [(h.upper_eq hb).1, (h.upper_eq hb').1, heq]
    simp only [IsAscii, UInt8.lt_iff_toNat_lt, UInt8.reduceToNat] at hb hb'
    omega

/-! ### Texts -/

/-- Any bytes are a text. -/
theorem decode?_eq (bytes : Bytes) : page.decode? bytes = some (bytes.map page.charOf) := by
  have hchar : page.char? = fun b => pure (page.charOf b) := funext h.char?_eq
  rw [decode?, hchar, List.mapM_pure]
  rfl

/-- The bytes of the text in UTF-8. -/
def toUtf8 : Recoding where
  image b := String.utf8EncodeChar (page.charOf b)
  ascii {b} hb := by
    rw [Utf8.encode_ascii ((h.isAscii_iff b).mp hb), Bytes.ofAscii, charOf_ascii page hb,
      toNat_ofNat_ascii hb]
    simp
  ne_nil _ := String.utf8EncodeChar_ne_nil
  upper {b} hb _ hx :=
    UInt8.not_lt.mpr (Utf8.le_of_mem_encode (Nat.not_lt.mp (mt (h.isAscii_iff b).mpr hb)) hx)

theorem toUtf8_apply (bytes : Bytes) :
    h.toUtf8.apply bytes = (bytes.map page.charOf).flatMap String.utf8EncodeChar := by
  rw [List.flatMap_map]
  rfl

/-- The bytes of a text in UTF-8, from those in the page. -/
theorem toUtf8_of_decode? {bytes : Bytes} {text : String}
    (htext : page.decode? bytes = some text.toList) : h.toUtf8.apply bytes = Bytes.ofText text := by
  rw [h.decode?_eq, Option.some.injEq] at htext
  rw [toUtf8_apply, htext, Bytes.ofText]

/-- **A page in UTF-8.** -/
theorem transcodes : h.toUtf8.Transcodes (.page page) .utf8 := by
  have hread : ∀ bytes, Utf8.decode? (h.toUtf8.apply bytes) = page.decode? bytes := by
    intro bytes
    rw [h.toUtf8_apply, Utf8.decode?_flatMap, h.decode?_eq]
  refine ⟨fun bytes => congrArg (String.ofList <$> ·) (hread bytes), fun {bytes bytes'} heq => ?_⟩
  have hsame : page.decode? bytes = page.decode? bytes' := by
    rw [← hread, heq, hread]
  rw [h.decode?_eq, h.decode?_eq, Option.some.injEq] at hsame
  exact (List.map_inj_right h.charOf_injective).mp hsame

end IsFull

end TierAudit.Text.CodePage
