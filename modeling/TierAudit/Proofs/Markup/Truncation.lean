import TierAudit.Proofs.Markup.Scanning

/-!
# Markup — documents that are cut short

A piece of markup ends at the first place where it can, so what follows it has no part in how it is
read (`exists_piece_of_lexMarkup`).  Of a document that is cut short all that is complete is read as
before; a run of text at its end may be shorter (`lex_append_or`).
-/

namespace TierAudit

/-! ### Where a piece of markup ends -/

/-- A marker is found at the same place, whatever follows it. -/
theorem Bytes.cutAt?_eq_some {marker bytes before after : Bytes} (hmarker : marker ≠ [])
    (h : cutAt? marker bytes = some (before, after)) :
    bytes = before ++ marker ++ after ∧
      ∀ rest, cutAt? marker (before ++ marker ++ rest) = some (before, rest) := by
  induction bytes generalizing before with
  | nil =>
      rw [cutAt?, if_neg (mt List.isEmpty_iff.mp hmarker)] at h
      cases h
  | cons b bytes ih =>
      rw [cutAt?] at h
      split at h
      · next hprefix =>
        cases h
        obtain ⟨after, hafter⟩ := List.isPrefixOf_iff_prefix.mp hprefix
        rw [← hafter, List.drop_left]
        refine ⟨rfl, fun rest => ?_⟩
        obtain ⟨m, ms, rfl⟩ := List.exists_cons_of_ne_nil hmarker
        rw [List.nil_append, List.cons_append, cutAt?, ← List.cons_append,
          if_pos (List.isPrefixOf_iff_prefix.mpr (List.prefix_append _ _)), List.drop_left]
      · next hprefix =>
        obtain ⟨⟨before', after'⟩, hcut, heq⟩ := Option.map_eq_some_iff.mp h
        cases heq
        obtain ⟨rfl, hrest⟩ := ih hcut
        refine ⟨rfl, fun rest => ?_⟩
        -- A marker at the front would not reach beyond the one that was found.
        have hnone : ¬ marker.isPrefixOf (b :: (before' ++ marker ++ rest)) = true := by
          intro hp
          have hshort : marker <+: b :: (before' ++ marker) :=
            List.prefix_of_prefix_length_le (List.isPrefixOf_iff_prefix.mp hp)
              (List.prefix_append (b :: (before' ++ marker)) rest) (by simp; omega)
          exact hprefix (List.isPrefixOf_iff_prefix.mpr
            (hshort.trans (List.prefix_append (b :: (before' ++ marker)) after)))
        rw [List.cons_append, List.cons_append, cutAt?, if_neg hnone, hrest rest]
        rfl

namespace Markup
open Text

/-- The end of a tag is found at the same place, whatever follows it. -/
theorem cutTag?_eq_some {quote : Option UInt8} {bytes before after : Bytes}
    (h : cutTag? quote bytes = some (before, after)) :
    bytes = before ++ 0x3E :: after ∧
      ∀ rest, cutTag? quote (before ++ 0x3E :: rest) = some (before, rest) := by
  induction bytes generalizing quote before with
  | nil => cases quote <;> cases h
  | cons b bytes ih =>
      cases quote with
      | none =>
          rw [cutTag?] at h
          split at h
          · next hend =>
            cases h
            exact ⟨by rw [hend]; rfl, fun rest => rfl⟩
          · next hend =>
            obtain ⟨⟨before', after'⟩, hcut, heq⟩ := Option.map_eq_some_iff.mp h
            cases heq
            obtain ⟨rfl, hrest⟩ := ih hcut
            refine ⟨rfl, fun rest => ?_⟩
            simp only [List.cons_append, cutTag?, if_neg hend, hrest rest, Option.map_some]
      | some q =>
          rw [cutTag?] at h
          obtain ⟨⟨before', after'⟩, hcut, heq⟩ := Option.map_eq_some_iff.mp h
          cases heq
          obtain ⟨rfl, hrest⟩ := ih hcut
          refine ⟨rfl, fun rest => ?_⟩
          simp only [List.cons_append, cutTag?, hrest rest, Option.map_some]

/-- The end of a document type is found at the same place, whatever follows it. -/
theorem cutBalanced?_eq_some {depth : Nat} {bytes before after : Bytes}
    (h : cutBalanced? depth bytes = some (before, after)) :
    bytes = before ++ 0x3E :: after ∧
      ∀ rest, cutBalanced? depth (before ++ 0x3E :: rest) = some (before, rest) := by
  induction bytes generalizing depth before with
  | nil => cases h
  | cons b bytes ih =>
      rw [cutBalanced?] at h
      split at h
      · next hend =>
        cases h
        obtain ⟨rfl, rfl⟩ := hend
        exact ⟨rfl, fun rest => rfl⟩
      · next hend =>
        obtain ⟨⟨before', after'⟩, hcut, heq⟩ := Option.map_eq_some_iff.mp h
        cases heq
        obtain ⟨rfl, hrest⟩ := ih hcut
        refine ⟨rfl, fun rest => ?_⟩
        simp only [List.cons_append, cutBalanced?, if_neg hend, hrest rest, Option.map_some]

/-! ### Pieces -/

/-- Bytes that a lexer takes as a lexeme, whatever follows them.  Markup ends with a `>`. -/
structure IsPiece (lexer : Bytes → Except Fault (Lexeme × Bytes)) (piece : Bytes)
    (lexeme : Lexeme) : Prop where
  reads : ∀ rest, lexer (piece ++ rest) = .ok (lexeme, rest)
  ends : [0x3E] <:+ piece

section
variable {bytes rest : Bytes} {lexeme : Lexeme}

theorem exists_piece_of_lexInstruction (h : lexInstruction bytes = .ok (lexeme, rest)) :
    ∃ piece, bytes = piece ++ rest ∧ IsPiece lexInstruction piece lexeme := by
  unfold lexInstruction at h
  split at h
  · next b body after hcut =>
    obtain ⟨rfl, hreads⟩ := Bytes.cutAt?_eq_some (List.cons_ne_nil _ _) hcut
    have hends : [0x3E] <:+ b :: body ++ [0x3F, 0x3E] := ⟨b :: body ++ [0x3F], by simp⟩
    split at h
    · next more =>
      split at h
      · next hblank =>
        cases h
        refine ⟨_, rfl, fun rest' => ?_, hends⟩
        rw [lexInstruction, hreads rest']
        exact if_pos hblank
      · next hblank =>
        cases h
        refine ⟨_, rfl, fun rest' => ?_, hends⟩
        rw [lexInstruction, hreads rest']
        exact if_neg hblank
    · next hother =>
      cases h
      refine ⟨_, rfl, fun rest' => ?_, hends⟩
      rw [lexInstruction, hreads rest']
      simp only
  · cases h

theorem exists_piece_of_lexComment (h : lexComment bytes = .ok (lexeme, rest)) :
    ∃ piece, bytes = piece ++ rest ∧ IsPiece lexComment piece lexeme := by
  unfold lexComment at h
  split at h
  · next b c inside =>
    split at h
    · next body after hcut =>
      obtain ⟨rfl, hreads⟩ := Bytes.cutAt?_eq_some (List.cons_ne_nil _ _) hcut
      split at h
      · next hdashes =>
        cases h
        refine ⟨0x21 :: b :: c :: (body ++ [0x2D, 0x2D, 0x3E]), rfl, fun rest' => ?_,
          ⟨0x21 :: b :: c :: (body ++ [0x2D, 0x2D]), by simp⟩⟩
        simp only [List.cons_append, lexComment, hreads rest', if_pos hdashes]
      · cases h
    · cases h
  · cases h

theorem exists_piece_of_lexCData (h : lexCData bytes = .ok (lexeme, rest)) :
    ∃ piece, bytes = piece ++ rest ∧ IsPiece lexCData piece lexeme := by
  unfold lexCData at h
  split at h
  · next before after hcut =>
    obtain ⟨rfl, hreads⟩ := Bytes.cutAt?_eq_some (List.cons_ne_nil _ _) hcut
    split at h
    · next hopening =>
      cases h
      refine ⟨_, rfl, fun rest' => ?_, ⟨before ++ [0x5D, 0x5D], by simp⟩⟩
      rw [lexCData, hreads rest']
      exact if_pos hopening
    · cases h
  · cases h

theorem exists_piece_of_lexDoctype (h : lexDoctype bytes = .ok (lexeme, rest)) :
    ∃ piece, bytes = piece ++ rest ∧ IsPiece lexDoctype piece lexeme := by
  unfold lexDoctype at h
  split at h
  · next before after hcut =>
    obtain ⟨rfl, hreads⟩ := cutBalanced?_eq_some hcut
    split at h
    · next hopening =>
      split at h
      · cases h
      · next body hbody =>
        cases h
        refine ⟨before ++ [0x3E], by simp, fun rest' => ?_, List.suffix_append _ _⟩
        rw [List.append_assoc, List.singleton_append, lexDoctype, hreads rest']
        simp only [if_pos hopening]
    · cases h
  · cases h

theorem exists_piece_of_lexFinish (h : lexFinish bytes = .ok (lexeme, rest)) :
    ∃ piece, bytes = piece ++ rest ∧ IsPiece lexFinish piece lexeme := by
  unfold lexFinish at h
  split at h
  · next content after hcut =>
    obtain ⟨rfl, hreads⟩ := cutTag?_eq_some hcut
    cases h
    refine ⟨content ++ [0x3E], by simp, fun rest' => ?_, List.suffix_append _ _⟩
    rw [List.append_assoc, List.singleton_append, lexFinish, hreads rest']
  · cases h

theorem exists_piece_of_lexTag (h : lexTag bytes = .ok (lexeme, rest)) :
    ∃ piece, bytes = piece ++ rest ∧ IsPiece lexTag piece lexeme := by
  unfold lexTag at h
  split at h
  · next content after hcut =>
    obtain ⟨rfl, hreads⟩ := cutTag?_eq_some hcut
    refine ⟨content ++ [0x3E], ?_⟩
    split at h
    · next hslash =>
      cases h
      refine ⟨by simp, fun rest' => ?_, List.suffix_append _ _⟩
      rw [List.append_assoc, List.singleton_append, lexTag, hreads rest']
      exact if_pos hslash
    · next hslash =>
      cases h
      refine ⟨by simp, fun rest' => ?_, List.suffix_append _ _⟩
      rw [List.append_assoc, List.singleton_append, lexTag, hreads rest']
      exact if_neg hslash
  · cases h

namespace IsPiece
variable {lexer lexer' : Bytes → Except Fault (Lexeme × Bytes)} {piece : Bytes} {b c : UInt8}

theorem ne_nil (h : IsPiece lexer piece lexeme) : piece ≠ [] := by
  rintro rfl
  cases h.ends.length_le

/-- A piece has the first byte of what it is taken from. -/
theorem exists_cons (h : IsPiece lexer piece lexeme) (hbytes : b :: bytes = piece ++ rest) :
    ∃ more, piece = b :: more := by
  cases piece with
  | nil => cases h.ends.length_le
  | cons a more =>
      cases hbytes
      exact ⟨more, rfl⟩

/-- It has the first two bytes if it does not end with the first. -/
theorem exists_cons_cons (h : IsPiece lexer piece lexeme) (hb : b ≠ 0x3E)
    (hbytes : b :: c :: bytes = piece ++ rest) : ∃ more, piece = b :: c :: more := by
  obtain ⟨more, rfl⟩ := h.exists_cons hbytes
  cases more with
  | nil =>
      obtain ⟨front, hfront⟩ := h.ends
      obtain ⟨-, hend⟩ := List.append_inj' (hfront.trans (List.nil_append [b]).symm) rfl
      exact absurd (List.cons.inj hend).1.symm hb
  | cons a more =>
      cases hbytes
      exact ⟨more, rfl⟩

/-- Two lexers that agree where the piece stands take it as the same lexeme. -/
theorem congr (h : IsPiece lexer piece lexeme)
    (heq : ∀ rest, lexer' (piece ++ rest) = lexer (piece ++ rest)) : IsPiece lexer' piece lexeme :=
  ⟨fun rest => (heq rest).trans (h.reads rest), h.ends⟩

end IsPiece

/-- **Markup is read the same, whatever follows it.** -/
theorem exists_piece_of_lexMarkup (h : lexMarkup bytes = .ok (lexeme, rest)) :
    ∃ piece, bytes = piece ++ rest ∧ IsPiece lexMarkup piece lexeme := by
  -- The bytes that tell what markup it is belong to the piece.
  unfold lexMarkup at h
  split at h
  · obtain ⟨piece, hbytes, hpiece⟩ := exists_piece_of_lexInstruction h
    obtain ⟨more, rfl⟩ := hpiece.exists_cons hbytes
    exact ⟨_, hbytes, hpiece.congr fun _ => rfl⟩
  · obtain ⟨piece, hbytes, hpiece⟩ := exists_piece_of_lexFinish h
    obtain ⟨more, rfl⟩ := hpiece.exists_cons hbytes
    exact ⟨_, hbytes, hpiece.congr fun _ => rfl⟩
  · split at h
    · obtain ⟨piece, hbytes, hpiece⟩ := exists_piece_of_lexComment h
      obtain ⟨more, rfl⟩ := hpiece.exists_cons_cons (by decide) hbytes
      exact ⟨_, hbytes, hpiece.congr fun _ => rfl⟩
    · obtain ⟨piece, hbytes, hpiece⟩ := exists_piece_of_lexCData h
      obtain ⟨more, rfl⟩ := hpiece.exists_cons_cons (by decide) hbytes
      exact ⟨_, hbytes, hpiece.congr fun _ => rfl⟩
    · obtain ⟨piece, hbytes, hpiece⟩ := exists_piece_of_lexDoctype h
      obtain ⟨more, rfl⟩ := hpiece.exists_cons_cons (by decide) hbytes
      exact ⟨_, hbytes, hpiece.congr fun _ => rfl⟩
    · obtain ⟨piece, hbytes, hpiece⟩ := exists_piece_of_lexDoctype h
      obtain ⟨more, rfl⟩ := hpiece.exists_cons_cons (by decide) hbytes
      exact ⟨_, hbytes, hpiece.congr fun _ => rfl⟩
    · cases h
  · next hquestion hslash hbang =>
    obtain ⟨piece, hbytes, hpiece⟩ := exists_piece_of_lexTag h
    refine ⟨piece, hbytes, hpiece.congr fun rest' => ?_⟩
    cases piece with
    | nil => cases hpiece.ends.length_le
    | cons b more =>
        rw [List.cons_append, lexMarkup]
        · exact fun _ heq => hquestion _ ((List.cons.inj heq).1 ▸ hbytes)
        · exact fun _ heq => hslash _ ((List.cons.inj heq).1 ▸ hbytes)
        · exact fun _ heq => hbang _ ((List.cons.inj heq).1 ▸ hbytes)

/-! ### The first lexeme -/

/-- The bytes of the first lexeme.  Other bytes may follow them, only a run of text goes on to the
next markup. -/
theorem exists_of_lex (hne : bytes ≠ []) (h : lex bytes = .ok (lexeme, rest)) :
    ∃ piece, piece ≠ [] ∧ bytes = piece ++ rest ∧
      (IsPiece lex piece lexeme ∨
        lexeme = .text piece ∧ EndsText rest ∧
          ∀ other, EndsText other → lex (piece ++ other) = .ok (lexeme, other)) := by
  unfold lex at h
  split at h
  · next more =>
    obtain ⟨piece, hbytes, hpiece⟩ := exists_piece_of_lexMarkup h
    refine ⟨0x3C :: piece, List.cons_ne_nil _ _, by rw [hbytes]; rfl, .inl ⟨hpiece.reads, ?_⟩⟩
    exact hpiece.ends.trans (List.suffix_cons _ _)
  · next hmarkup =>
    cases h
    have hrun : bytes.takeWhile (· ≠ 0x3C) ≠ [] := by
      cases bytes with
      | nil => exact absurd rfl hne
      | cons b more =>
          have hb : b ≠ 0x3C := fun hb => hmarkup more (by rw [hb])
          rw [List.takeWhile_cons, if_pos (decide_eq_true hb)]
          exact List.cons_ne_nil _ _
    have hlt : 0x3C ∉ bytes.takeWhile (· ≠ 0x3C) := by
      intro hmem
      have hall := @List.all_takeWhile _ (fun b : UInt8 => decide (b ≠ 0x3C)) bytes
      simpa using List.all_eq_true.mp hall _ hmem
    have hends : EndsText (bytes.dropWhile (· ≠ 0x3C)) := by
      intro b hb
      have hhead := List.head?_dropWhile_not (fun b : UInt8 => decide (b ≠ 0x3C)) bytes
      rw [hb] at hhead
      simpa using hhead
    exact ⟨_, hrun, (List.takeWhile_append_dropWhile ..).symm,
      .inr ⟨rfl, hends, fun other hother => lex_text hrun hlt hother⟩⟩

/-- Bytes that are added behind a document do not change its first lexeme, unless that is a run of
text and all there is. -/
theorem lex_append_or (hne : bytes ≠ []) (h : lex bytes = .ok (lexeme, rest)) :
    (∃ run, lexeme = .text run) ∧ rest = [] ∨
      ∀ other, lex (bytes ++ other) = .ok (lexeme, rest ++ other) := by
  obtain ⟨piece, -, hbytes, hpiece | ⟨htext, hends, hreads⟩⟩ := exists_of_lex hne h
  · exact .inr fun other => by rw [hbytes, List.append_assoc, hpiece.reads]
  · cases rest with
    | nil => exact .inl ⟨⟨_, htext⟩, rfl⟩
    | cons b more =>
        have hb : b = 0x3C := hends b rfl
        refine .inr fun other => ?_
        rw [hbytes, List.append_assoc, hreads]
        exact hb ▸ endsText_cons (more ++ other)

end

end Markup

end TierAudit
