import TierAudit.Markup.Fault
import TierAudit.Text.Blank
import TierAudit.Text.Bytes

/-!
# Markup — lexemes

Cutting a document into runs of text and pieces of markup, byte by byte and before any decoding.
Every lexeme takes at least one byte, so what is left is shorter (`length_lex`).

The bytes that have a meaning are written in hexadecimal: `21` is `!`, `22` and `27` are the two
quotation marks, `2D` is `-`, `2F` is `/`, `3C` is `<`, `3E` is `>`, `3F` is `?`, `5B` is `[` and
`5D` is `]`.
-/

namespace TierAudit.Markup
open Bytes (isTagBlank)

/-- What stands between the `<` and the `>` of a tag, without the slash of an empty element. -/
structure Tag where
  content : Bytes
  deriving DecidableEq, Repr

namespace Tag

/-- All up to the first blank. -/
def name (tag : Tag) : Bytes := tag.content.takeWhile (!isTagBlank ·)

/-- The part of a name after its first colon, or all of it. -/
def localPart (name : Bytes) : Bytes :=
  match name.dropWhile (· ≠ 0x3A) with
  | [] => name
  | _ :: rest => rest

/-- The name without its namespace. -/
def localName (tag : Tag) : Bytes := localPart tag.name

end Tag

/-- A run of text or a piece of markup. -/
inductive Lexeme where
  | text (run : Bytes)
  | start (tag : Tag)
  /-- The tag of an element without content. -/
  | empty (tag : Tag)
  | finish (name : Bytes)
  | cdata (body : Bytes)
  | comment (body : Bytes)
  | instruction (body : Bytes)
  /-- What follows `<?xml` up to the `?>`. -/
  | declaration (body : Bytes)
  | doctype (body : Bytes)
  deriving DecidableEq, Repr

/-! ### Where a piece of markup ends -/

/-- Splits at the `>` that is not inside quotation marks. -/
def cutTag? : Option UInt8 → Bytes → Option (Bytes × Bytes)
  | _, [] => none
  | none, b :: rest =>
    if b = 0x3E then some ([], rest)
    else
      let quote := if b = 0x27 ∨ b = 0x22 then some b else none
      (cutTag? quote rest).map fun (before, after) => (b :: before, after)
  | some q, b :: rest =>
    (cutTag? (if b = q then none else some q) rest).map fun (before, after) => (b :: before, after)

/-- Splits at the `>` that has no `<` of its own. -/
def cutBalanced? : Nat → Bytes → Option (Bytes × Bytes)
  | _, [] => none
  | depth, b :: rest =>
    if b = 0x3E ∧ depth = 0 then some ([], rest)
    else
      let depth := if b = 0x3C then depth + 1 else if b = 0x3E then depth - 1 else depth
      (cutBalanced? depth rest).map fun (before, after) => (b :: before, after)

theorem length_of_cutTag? {quote : Option UInt8} {bytes before after : Bytes}
    (h : cutTag? quote bytes = some (before, after)) : after.length < bytes.length := by
  induction bytes generalizing quote before with
  | nil => cases quote <;> simp [cutTag?] at h
  | cons b rest ih =>
    cases quote with
    | none =>
      simp only [cutTag?] at h
      split at h
      · simp_all
      · obtain ⟨⟨x, y⟩, hxy, hab⟩ := Option.map_eq_some_iff.1 h
        simp only [Prod.mk.injEq] at hab
        exact Nat.lt_succ_of_lt (ih (hab.2 ▸ hxy))
    | some q =>
      simp only [cutTag?] at h
      obtain ⟨⟨x, y⟩, hxy, hab⟩ := Option.map_eq_some_iff.1 h
      simp only [Prod.mk.injEq] at hab
      exact Nat.lt_succ_of_lt (ih (hab.2 ▸ hxy))

theorem length_of_cutBalanced? {depth : Nat} {bytes before after : Bytes}
    (h : cutBalanced? depth bytes = some (before, after)) : after.length < bytes.length := by
  induction bytes generalizing depth before with
  | nil => simp [cutBalanced?] at h
  | cons b rest ih =>
    simp only [cutBalanced?] at h
    split at h
    · simp_all
    · obtain ⟨⟨x, y⟩, hxy, hab⟩ := Option.map_eq_some_iff.1 h
      simp only [Prod.mk.injEq] at hab
      exact Nat.lt_succ_of_lt (ih (hab.2 ▸ hxy))

/-! ### One piece of markup

Each function is given the bytes after a `<` and returns the lexeme with what follows it. -/

/-- `<?…?>`, a declaration if the first word is `xml`.  The `?` after the `<` may not be the one
that closes it. -/
def lexInstruction (bytes : Bytes) : Except Fault (Lexeme × Bytes) :=
  match Bytes.cutAt? [0x3F, 0x3E] bytes with
  | some (_ :: body, rest) =>
    match body with
    | 0x78 :: 0x6D :: 0x6C :: more =>
      if more.head?.all isTagBlank then .ok (.declaration more, rest)
      else .ok (.instruction body, rest)
    | _ => .ok (.instruction body, rest)
  | _ => .error .unclosedInstruction

/-- `<!--…-->`.  The dashes that open a comment are not those that close it. -/
def lexComment (bytes : Bytes) : Except Fault (Lexeme × Bytes) :=
  match bytes with
  | 0x21 :: b :: c :: inside =>
    match Bytes.cutAt? [0x2D, 0x2D, 0x3E] inside with
    | some (body, rest) =>
      if b = 0x2D ∧ c = 0x2D then .ok (.comment body, rest) else .error .unclosedComment
    | none => .error .unclosedComment
  | _ => .error .unclosedComment

/-- `![CDATA[`. -/
def cdataOpening : Bytes := [0x21, 0x5B, 0x43, 0x44, 0x41, 0x54, 0x41, 0x5B]

/-- `<![CDATA[…]]>`. -/
def lexCData (bytes : Bytes) : Except Fault (Lexeme × Bytes) :=
  match Bytes.cutAt? [0x5D, 0x5D, 0x3E] bytes with
  | some (before, rest) =>
    if cdataOpening.isPrefixOf before then .ok (.cdata (before.drop cdataOpening.length), rest)
    else .error .unclosedCData
  | none => .error .unclosedCData

/-- `!doctype`, compared without regard to case. -/
def doctypeOpening : Bytes := [0x21, 0x64, 0x6F, 0x63, 0x74, 0x79, 0x70, 0x65]

/-- `<!DOCTYPE …>`.  It has to name a document type. -/
def lexDoctype (bytes : Bytes) : Except Fault (Lexeme × Bytes) :=
  match cutBalanced? 0 bytes with
  | some (before, rest) =>
    if doctypeOpening.isPrefixOf (before.map Bytes.lower) then
      match (before.drop doctypeOpening.length).dropWhile isTagBlank with
      | [] => .error .namelessDoctype
      | body => .ok (.doctype body, rest)
    else .error .unclosedDoctype
  | none => .error .unclosedDoctype

/-- The name in an end tag: blanks at its end are not part of it, unless there is nothing else. -/
def finishName (content : Bytes) : Bytes :=
  match content.reverse.dropWhile isTagBlank with
  | [] => content
  | kept => kept.reverse

/-- `</…>`. -/
def lexFinish (bytes : Bytes) : Except Fault (Lexeme × Bytes) :=
  match cutTag? none bytes with
  | some (content, rest) => .ok (.finish (finishName (content.drop 1)), rest)
  | none => .error .unclosedTag

/-- `<…>` or `<…/>`. -/
def lexTag (bytes : Bytes) : Except Fault (Lexeme × Bytes) :=
  match cutTag? none bytes with
  | some (content, rest) =>
    if content.getLast? = some 0x2F then .ok (.empty ⟨content.dropLast⟩, rest)
    else .ok (.start ⟨content⟩, rest)
  | none => .error .unclosedTag

/-- The byte after the `<` tells what markup it is. -/
def lexMarkup (bytes : Bytes) : Except Fault (Lexeme × Bytes) :=
  match bytes with
  | 0x3F :: _ => lexInstruction bytes
  | 0x2F :: _ => lexFinish bytes
  | 0x21 :: kind =>
    match kind with
    | 0x2D :: _ => lexComment bytes
    | 0x5B :: _ => lexCData bytes
    | 0x44 :: _ => lexDoctype bytes
    | 0x64 :: _ => lexDoctype bytes
    | _ => .error .unknownMarkup
  | _ => lexTag bytes

/-- The first lexeme of a document and what follows it: markup after a `<`, else the text up to the
next one. -/
def lex (bytes : Bytes) : Except Fault (Lexeme × Bytes) :=
  match bytes with
  | 0x3C :: rest => lexMarkup rest
  | _ => .ok (.text (bytes.takeWhile (· ≠ 0x3C)), bytes.dropWhile (· ≠ 0x3C))

/-! ### Progress -/

theorem length_lexMarkup {bytes rest : Bytes} {lexeme : Lexeme}
    (h : lexMarkup bytes = .ok (lexeme, rest)) : rest.length ≤ bytes.length := by
  have hcut : ∀ {marker b before after : Bytes}, Bytes.cutAt? marker b = some (before, after) →
      after.length ≤ b.length := Bytes.length_of_cutAt?
  have htag : ∀ {b before after : Bytes}, cutTag? none b = some (before, after) →
      after.length ≤ b.length := fun h => Nat.le_of_lt (length_of_cutTag? h)
  have hbal : ∀ {b before after : Bytes}, cutBalanced? 0 b = some (before, after) →
      after.length ≤ b.length := fun h => Nat.le_of_lt (length_of_cutBalanced? h)
  unfold lexMarkup at h
  split at h
  · unfold lexInstruction at h
    grind
  · unfold lexFinish at h
    grind
  · split at h
    · unfold lexComment at h
      grind
    · unfold lexCData at h
      grind
    · unfold lexDoctype at h
      grind
    · unfold lexDoctype at h
      grind
    · simp at h
  · unfold lexTag at h
    grind

/-- A lexeme takes at least one byte. -/
theorem length_lex {bytes rest : Bytes} {lexeme : Lexeme} (hne : bytes ≠ [])
    (h : lex bytes = .ok (lexeme, rest)) : rest.length < bytes.length := by
  unfold lex at h
  split at h
  · exact Nat.lt_succ_of_le (length_lexMarkup h)
  · rename_i hnot
    simp only [Except.ok.injEq, Prod.mk.injEq] at h
    cases bytes with
    | nil => exact absurd rfl hne
    | cons b r =>
      have hb : b ≠ 0x3C := fun hb => hnot r (by rw [hb])
      rw [← h.2, List.dropWhile_cons, if_pos (by simpa using hb)]
      exact Nat.lt_succ_of_le (List.dropWhile_sublist _).length_le

end TierAudit.Markup
