import TierAudit.Proofs.Markup.Truncation

/-!
# Markup — the end of the root element

The root element ends with the tag that closes it, or with its only tag (`Document.rootEnd?`): a
`>`, found at the same place whatever follows it.  Up to there the lexemes of a document are those
of the whole (`exists_take_of_closingEnd?`), and so is the encoding that its first bytes give away
(`markSize_append_or`, `ofMark?_take`).
-/

namespace TierAudit.Text.Encoding

/-- The first bytes that give an encoding away, each with the encoding and how many of them are a
mark. -/
def signatures : List (Bytes × Encoding × Nat) := [
  ([0xFE, 0xFF], utf16 .bigEndian, 2),
  ([0xFF, 0xFE], utf16 .littleEndian, 2),
  ([0xEF, 0xBB, 0xBF], utf8, 3),
  ([0x00, 0x3C, 0x00, 0x3F], utf16 .bigEndian, 0),
  ([0x3C, 0x00, 0x3F, 0x00], utf16 .littleEndian, 0)]

theorem ofMark?_eq_some_iff {bytes : Bytes} {found : Encoding × Nat} :
    ofMark? bytes = some found ↔ ∃ entry ∈ signatures, entry.1 <+: bytes ∧ entry.2 = found := by
  constructor
  · intro h
    unfold ofMark? at h
    split at h
    all_goals cases h
    · exact ⟨_, List.mem_cons_self, ⟨_, rfl⟩, rfl⟩
    · exact ⟨([0xFF, 0xFE], _), by simp [signatures], ⟨_, rfl⟩, rfl⟩
    · exact ⟨([0xEF, 0xBB, 0xBF], _), by simp [signatures], ⟨_, rfl⟩, rfl⟩
    · exact ⟨([0x00, 0x3C, 0x00, 0x3F], _), by simp [signatures], ⟨_, rfl⟩, rfl⟩
    · exact ⟨([0x3C, 0x00, 0x3F, 0x00], _), by simp [signatures], ⟨_, rfl⟩, rfl⟩
  · rintro ⟨entry, hentry, ⟨rest, rfl⟩, rfl⟩
    simp only [signatures, List.mem_cons, List.not_mem_nil, or_false] at hentry
    rcases hentry with rfl | rfl | rfl | rfl | rfl <;> rfl

/-- What first bytes have in common: all of them are a mark, without a `<`, or none of them is and
there is no `>`. -/
theorem mark_signatures : ∀ entry ∈ signatures,
    entry.2.2 = entry.1.length ∧ 0x3C ∉ entry.1 ∨ entry.2.2 = 0 ∧ 0x3E ∉ entry.1 := by
  decide

/-- First bytes that give an encoding away, and of which only some are there. -/
theorem ofMark?_append_or (start other : Bytes) :
    ofMark? (start ++ other) = ofMark? start ∨
      ofMark? start = none ∧ ∃ entry ∈ signatures, ofMark? (start ++ other) = some entry.2 ∧
        start <+: entry.1 ∧ start.length < entry.1.length := by
  cases hstart : ofMark? start with
  | some found =>
      obtain ⟨entry, hentry, hstarts, rfl⟩ := ofMark?_eq_some_iff.mp hstart
      exact .inl (ofMark?_eq_some_iff.mpr
        ⟨entry, hentry, hstarts.trans (List.prefix_append _ _), rfl⟩)
  | none =>
      cases hall : ofMark? (start ++ other) with
      | none => exact .inl rfl
      | some found =>
          obtain ⟨entry, hentry, hstarts, rfl⟩ := ofMark?_eq_some_iff.mp hall
          have hmissing : ¬ entry.1 <+: start := fun hp => by
            rw [ofMark?_eq_some_iff.mpr ⟨entry, hentry, hp, rfl⟩] at hstart
            cases hstart
          have hlt : start.length < entry.1.length := Nat.lt_of_not_le fun hle =>
            hmissing (List.prefix_of_prefix_length_le hstarts (List.prefix_append _ _) hle)
          exact .inr ⟨rfl, entry, hentry, rfl,
            List.prefix_of_prefix_length_le (List.prefix_append _ _) hstarts (Nat.le_of_lt hlt),
            hlt⟩

end TierAudit.Text.Encoding

namespace TierAudit.Markup
open Text

/-! ### Behind the start tags -/

/-- How many elements are open behind a lexeme. -/
def Lexeme.depthAfter (depth : Nat) : Lexeme → Nat
  | .start _ => depth + 1
  | .finish _ => depth - 1
  | _ => depth

/-- Whether the root element ends with a lexeme: it closes the only open element, or it is an
element of its own where none is open. -/
def Lexeme.endsRoot (depth : Nat) : Lexeme → Bool
  | .finish _ => depth = 1
  | .empty _ => depth = 0
  | _ => false

/-- How many bytes there are up to the end of the root element, behind the start tags of the
elements that are open. -/
def closingEnd? (depth : Nat) (bytes : Bytes) : Option Nat :=
  if _hne : bytes = [] then none
  else match _h : lex bytes with
    | .error _ => none
    | .ok (lexeme, rest) =>
      let size := bytes.length - rest.length
      if lexeme.endsRoot depth then some size
      else (closingEnd? (lexeme.depthAfter depth) rest).map (size + ·)
termination_by bytes.length
decreasing_by exact length_lex _hne _h

section
variable {bytes rest : Bytes} {lexeme : Lexeme} {depth k : Nat}

theorem closingEnd?_nil : closingEnd? depth [] = none := by
  rw [closingEnd?, dif_pos rfl]

theorem closingEnd?_of_lex (hne : bytes ≠ []) (h : lex bytes = .ok (lexeme, rest)) :
    closingEnd? depth bytes =
      if lexeme.endsRoot depth then some (bytes.length - rest.length)
      else (closingEnd? (lexeme.depthAfter depth) rest).map (bytes.length - rest.length + ·) := by
  rw [closingEnd?, dif_neg hne]
  split
  · next hfault =>
    rw [h] at hfault
    cases hfault
  · next hlex =>
    rw [h] at hlex
    cases hlex
    rfl

theorem closingEnd?_of_text (h : 0x3C ∉ bytes) : closingEnd? depth bytes = none := by
  by_cases hne : bytes = []
  · rw [hne, closingEnd?_nil]
  · have hlex := lex_text hne h (show EndsText [] by simp [EndsText])
    rw [List.append_nil] at hlex
    rw [closingEnd?_of_lex hne hlex, closingEnd?_nil]
    rfl

/-- **Up to the end of the root element** the first lexeme is there, and what follows it up to that
end, or it is all there is. -/
theorem exists_take_of_closingEnd? (hne : bytes ≠ []) (h : lex bytes = .ok (lexeme, rest))
    (hk : closingEnd? depth bytes = some k) :
    (lexeme.endsRoot depth = true ∧ IsPiece lex (bytes.take k) lexeme) ∨
      lexeme.endsRoot depth = false ∧ ∃ k' piece,
        closingEnd? (lexeme.depthAfter depth) rest = some k' ∧ piece ≠ [] ∧
          bytes.take k = piece ++ rest.take k' ∧
            lex (piece ++ rest.take k') = .ok (lexeme, rest.take k') := by
  rw [closingEnd?_of_lex hne h] at hk
  obtain ⟨piece, hpiece, rfl, hreads⟩ := exists_of_lex hne h
  have hsize : (piece ++ rest).length - rest.length = piece.length := by
    rw [List.length_append, Nat.add_sub_cancel]
  rw [hsize] at hk
  cases hend : lexeme.endsRoot depth with
  | true =>
      rw [hend, if_pos rfl] at hk
      cases hk
      rw [List.take_left]
      rcases hreads with hreads | ⟨rfl, -⟩
      · exact .inl ⟨rfl, hreads⟩
      · cases hend
  | false =>
      rw [hend, if_neg Bool.false_ne_true] at hk
      obtain ⟨k', hk', rfl⟩ := Option.map_eq_some_iff.mp hk
      refine .inr ⟨rfl, k', piece, hk', hpiece, List.take_length_add_append k', ?_⟩
      rcases hreads with hreads | ⟨-, hends, hreads⟩
      · exact hreads.reads _
      · -- What stands behind a run of text begins with a `<`, or there is nothing.
        refine hreads _ fun b hb => hends b ?_
        cases rest with
        | nil =>
            rw [List.take_nil] at hb
            cases hb
        | cons c more =>
            cases k' with
            | zero => cases hb
            | succ k' => exact hb

/-- Where the root element ends there has been a lexeme. -/
theorem exists_lex_of_closingEnd? (hk : closingEnd? depth bytes = some k) :
    bytes ≠ [] ∧ ∃ lexeme rest, lex bytes = .ok (lexeme, rest) := by
  by_cases hne : bytes = []
  · rw [hne, closingEnd?_nil] at hk
    cases hk
  · refine ⟨hne, ?_⟩
    cases hlex : lex bytes with
    | ok found => exact ⟨found.1, found.2, rfl⟩
    | error fault =>
        rw [closingEnd?, dif_neg hne] at hk
        split at hk
        · cases hk
        · next h =>
          rw [hlex] at h
          cases h

/-- The root element ends with a `>`. -/
theorem suffix_take_closingEnd? (hk : closingEnd? depth bytes = some k) :
    [0x3E] <:+ bytes.take k := by
  induction hn : bytes.length using Nat.strongRecOn generalizing depth bytes k with
  | _ n ih =>
      obtain ⟨hne, lexeme, rest, hlex⟩ := exists_lex_of_closingEnd? hk
      rcases exists_take_of_closingEnd? hne hlex hk with
        ⟨-, hpiece⟩ | ⟨-, k', piece, hk', -, htake, -⟩
      · exact hpiece.ends
      · have hlt := length_lex hne hlex
        rw [htake]
        exact (ih rest.length (hn ▸ hlt) hk' rfl).trans (List.suffix_append _ _)

end

/-! ### Behind a mark -/

namespace Document

/-- How many bytes of a document are a byte-order mark. -/
def markSize (bytes : Bytes) : Nat :=
  match Encoding.ofMark? bytes with
  | some (_, mark) => mark
  | none => 0

/-- How many bytes of a document there are up to the end of its root element. -/
def rootEnd? (bytes : Bytes) : Option Nat :=
  let mark := markSize bytes
  (closingEnd? 0 (bytes.drop mark)).map (mark + ·)

section
variable {start other bytes : Bytes} {k : Nat}

theorem ofBytes_eq (bytes : Bytes) :
    ofBytes bytes = scan ((Encoding.ofMark? bytes).map (·.1) |>.getD .utf8) false
      (bytes.drop (markSize bytes)) := by
  unfold ofBytes markSize
  cases Encoding.ofMark? bytes <;> rfl

theorem ofText_eq (text : String) :
    ofText text = scan .utf8 true ((Bytes.ofText text).drop (markSize (Bytes.ofText text))) := by
  unfold ofText markSize
  simp only
  cases Encoding.ofMark? (Bytes.ofText text) <;> rfl

theorem markSize_le (bytes : Bytes) : markSize bytes ≤ bytes.length := by
  unfold markSize
  split
  · next mark h =>
    obtain ⟨entry, hentry, hstarts, heq⟩ := Encoding.ofMark?_eq_some_iff.mp h
    have hmark : entry.2.2 = mark := congrArg Prod.snd heq
    rcases Encoding.mark_signatures entry hentry with ⟨hsize, -⟩ | ⟨hsize, -⟩
    · rw [← hmark, hsize]
      exact hstarts.length_le
    · omega
  · exact Nat.zero_le _

/-- A mark is dropped from a document that is cut short as from the whole, or it is cut short
itself. -/
theorem markSize_append_or (start other : Bytes) :
    markSize (start ++ other) = markSize start ∨ markSize start = 0 ∧ 0x3C ∉ start := by
  rcases Encoding.ofMark?_append_or start other with h | ⟨hnone, entry, hentry, h, hstarts, -⟩
  · exact .inl (by rw [markSize, h]; rfl)
  · have hstart : markSize start = 0 := by rw [markSize, hnone]
    have hall : markSize (start ++ other) = entry.2.2 := by rw [markSize, h]
    rcases Encoding.mark_signatures entry hentry with ⟨-, hlt⟩ | ⟨hsize, -⟩
    · exact .inr ⟨hstart, fun hmem => hlt (hstarts.subset hmem)⟩
    · exact .inl (by rw [hall, hsize, hstart])

/-- **A document that is cut before the end of its root element**: what is left of its content ends
before the root element does, whatever follows. -/
theorem exists_cut (hk : rootEnd? (start ++ other) = some k) (hlt : start.length < k) :
    ∃ other', ∀ k', closingEnd? 0 (start.drop (markSize start) ++ other') = some k' →
      (start.drop (markSize start)).length < k' := by
  rcases markSize_append_or start other with hmark | ⟨hmark, htext⟩
  · refine ⟨other, fun k' hk' => ?_⟩
    have hle := markSize_le start
    rw [rootEnd?, hmark, List.drop_append_of_le_length hle, hk', Option.map_some] at hk
    cases hk
    rw [List.length_drop]
    omega
  · refine ⟨[], fun k' hk' => ?_⟩
    rw [hmark, List.drop_zero, List.append_nil, closingEnd?_of_text htext] at hk'
    cases hk'

/-- A document ends with a `>` where its root element does. -/
theorem suffix_take_rootEnd? (hk : rootEnd? bytes = some k) : [0x3E] <:+ bytes.take k := by
  obtain ⟨k', hk', rfl⟩ := Option.map_eq_some_iff.mp hk
  have hends := suffix_take_closingEnd? hk'
  rw [← Nat.add_sub_cancel_left (n := markSize bytes) (m := k'), ← List.drop_take] at hends
  exact hends.trans (List.drop_suffix _ _)

/-- Up to the end of the root element a document has the mark of the whole, and its content up to
that end. -/
theorem ofMark?_take (hk : rootEnd? bytes = some k) :
    Encoding.ofMark? (bytes.take k) = Encoding.ofMark? bytes ∧
      ∃ k', closingEnd? 0 (bytes.drop (markSize bytes)) = some k' ∧
        (bytes.take k).drop (markSize bytes) = (bytes.drop (markSize bytes)).take k' := by
  obtain ⟨k', hk', rfl⟩ := Option.map_eq_some_iff.mp hk
  have hcontent : (bytes.take (markSize bytes + k')).drop (markSize bytes) =
      (bytes.drop (markSize bytes)).take k' := by
    rw [List.drop_take, Nat.add_sub_cancel_left]
  refine ⟨?_, k', hk', hcontent⟩
  have hends := suffix_take_closingEnd? hk'
  rw [← hcontent] at hends
  rcases Encoding.ofMark?_append_or (bytes.take (markSize bytes + k'))
    (bytes.drop (markSize bytes + k')) with h | ⟨-, entry, hentry, h, hstarts, hshort⟩
  · rw [List.take_append_drop] at h
    exact h.symm
  · rw [List.take_append_drop] at h
    have hsize : markSize bytes = entry.2.2 := by rw [markSize, h]
    rcases Encoding.mark_signatures entry hentry with ⟨hall, -⟩ | ⟨-, hgt⟩
    · have hle := hends.length_le
      rw [List.length_drop, List.length_singleton] at hle
      omega
    · have hmem : 0x3E ∈ (bytes.take (markSize bytes + k')).drop (markSize bytes) :=
        hends.subset (List.mem_singleton_self _)
      exact absurd (hstarts.subset (List.mem_of_mem_drop hmem)) hgt

end

end Document

end TierAudit.Markup
