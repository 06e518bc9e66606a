import TierAudit.Proofs.Markup.Item
import TierAudit.Proofs.Text.Utf8

/-!
# Markup — scanning what was written

Which bytes are scanned as which items: a CDATA section, a comment, and an element with what stands
in it, whatever follows them (`ScansAs`), and these with runs of text among them (`ScansAsAll`).  A
run of text goes on until markup begins, so bytes that may end in one are scanned as their items
only before a `<` or at the end of the document.
-/

namespace TierAudit.Markup
open Text

/-! ### Lexemes -/

/-- A marker `xxy` is found behind a text that does not have it, also if the text ends in `x`. -/
theorem cutAt?_append {x y : UInt8} {body : Bytes} (rest : Bytes) (hxy : x ≠ y)
    (h : ¬ [x, x, y] <:+: body) :
    Bytes.cutAt? [x, x, y] (body ++ x :: x :: y :: rest) = some (body, rest) := by
  induction body with
  | nil => simp [Bytes.cutAt?]
  | cons b body ih =>
      have hbody : ¬ [x, x, y] <:+: body := fun hi =>
        h (hi.trans (List.suffix_cons b body).isInfix)
      have hstart : ¬ [x, x, y] <+: b :: (body ++ x :: x :: y :: rest) := by
        intro hp
        -- A marker that begins one or two bytes before the end would need its `y` to be an `x`.
        rcases body with _ | ⟨c, _ | ⟨d, body⟩⟩
        · simp [hxy.symm] at hp
        · simp [hxy.symm] at hp
        · simp only [List.cons_append, List.cons_prefix_cons] at hp
          obtain ⟨rfl, rfl, rfl, -⟩ := hp
          exact h (List.prefix_append [_, _, _] body).isInfix
      rw [List.cons_append, Bytes.cutAt?, if_neg (mt List.isPrefixOf_iff_prefix.mp hstart),
        ih hbody]
      rfl

/-- A marker is found behind bytes that do not have its first byte. -/
theorem cutAt?_of_not_mem {first : UInt8} {marker body : Bytes} (rest : Bytes)
    (h : first ∉ body) :
    Bytes.cutAt? (first :: marker) (body ++ first :: (marker ++ rest)) = some (body, rest) := by
  induction body with
  | nil => simp [Bytes.cutAt?]
  | cons b body ih =>
      rw [List.mem_cons, not_or] at h
      have hstart : (first :: marker).isPrefixOf (b :: (body ++ first :: (marker ++ rest))) =
          false := by
        simp [List.isPrefixOf, h.1]
      simp only [List.cons_append, Bytes.cutAt?, hstart, Bool.false_eq_true, if_false, ih h.2,
        Option.map_some]

/-! ### Tags -/

/-- Bytes that a tag goes on behind: none of them ends it, and the quotation marks in them are
closed. -/
def IsPassed (content : Bytes) : Prop :=
  ∀ rest, cutTag? none (content ++ rest) =
    (cutTag? none rest).map fun parts => (content ++ parts.1, parts.2)

namespace IsPassed

theorem nil : IsPassed [] := by
  intro rest
  cases h : cutTag? none rest <;> simp [h]

theorem append {content content' : Bytes} (h : IsPassed content) (h' : IsPassed content') :
    IsPassed (content ++ content') := by
  intro rest
  rw [List.append_assoc, h, h', Option.map_map]
  refine congrArg (Option.map · (cutTag? none rest)) (funext fun parts => ?_)
  simp only [Function.comp, List.append_assoc]

theorem of_forall {content : Bytes} (h : ∀ b ∈ content, b ≠ 0x3E ∧ b ≠ 0x27 ∧ b ≠ 0x22) :
    IsPassed content := by
  induction content with
  | nil => exact nil
  | cons b content ih =>
      rw [List.forall_mem_cons] at h
      obtain ⟨⟨hend, hsingle, hdouble⟩, h⟩ := h
      intro rest
      have hpassed : cutTag? none (content ++ rest) = _ := ih h rest
      simp only [List.cons_append, cutTag?, hend, hsingle, hdouble, or_self, if_false, hpassed,
        Option.map_map]
      rfl

/-- Behind them the next `>` ends the tag. -/
theorem cut {content : Bytes} (h : IsPassed content) (rest : Bytes) :
    cutTag? none (content ++ 0x3E :: rest) = some (content, rest) := by
  simp only [h (0x3E :: rest), cutTag?, if_true, Option.map_some, List.append_nil]

end IsPassed

/-- A name in which every byte stands for itself: no blank, quotation mark, slash or angle bracket. -/
def IsPlainName (name : Bytes) : Prop := name ≠ [] ∧ ∀ b ∈ name, b = 0x2D ∨ 0x40 ≤ b

instance (name : Bytes) : Decidable (IsPlainName name) :=
  decidable_of_iff (name ≠ [] ∧ name.all (fun b => b = 0x2D ∨ 0x40 ≤ b) = true)
    (by simp [IsPlainName])

/-- What may follow the name in a tag. -/
structure FollowsName (more : Bytes) : Prop where
  passed : IsPassed more
  /-- The name ends where it begins. -/
  blank : ∀ b ∈ more.head?, Bytes.isTagBlank b = true

/-- Blanks may, and nothing at all. -/
theorem FollowsName.of_blank {more : Bytes} (h : ∀ b ∈ more, Bytes.isTagBlank b = true) :
    FollowsName more := by
  refine ⟨.of_forall fun b hb => ?_, fun b hb => h b (List.mem_of_mem_head? hb)⟩
  have hblank := h b hb
  simp only [Bytes.isTagBlank, Bool.or_eq_true, beq_iff_eq] at hblank
  rcases hblank with ((rfl | rfl) | rfl) | rfl <;> decide

theorem FollowsName.nil : FollowsName [] := .of_blank (by simp)

namespace IsPlainName

variable {name : Bytes} (h : IsPlainName name)
include h

theorem ne {b c : UInt8} (hb : b ∈ name) (hc : c < 0x40) (hdash : c ≠ 0x2D) : b ≠ c := by
  rintro rfl
  rcases h.2 b hb with hb | hb
  · exact hdash hb
  · exact UInt8.not_lt.mpr hb hc

theorem not_isTagBlank {b : UInt8} (hb : b ∈ name) : Bytes.isTagBlank b = false := by
  have hne : ∀ {c : UInt8}, c < 0x40 → c ≠ 0x2D → b ≠ c := fun hc hd => h.ne hb hc hd
  simp [Bytes.isTagBlank, hne (c := 0x20) (by decide) (by decide),
    hne (c := 0x09) (by decide) (by decide), hne (c := 0x0A) (by decide) (by decide),
    hne (c := 0x0D) (by decide) (by decide)]

theorem isPassed : IsPassed name :=
  .of_forall fun _ hb => ⟨h.ne hb (by decide) (by decide), h.ne hb (by decide) (by decide),
    h.ne hb (by decide) (by decide)⟩

/-- The name of a tag ends where something follows it. -/
theorem name_append {more : Bytes} (hmore : FollowsName more) :
    Tag.name ⟨name ++ more⟩ = name := by
  have hall : ∀ b ∈ name, (!Bytes.isTagBlank b) = true :=
    fun b hb => by rw [h.not_isTagBlank hb, Bool.not_false]
  have hstop : more.takeWhile (!Bytes.isTagBlank ·) = [] := by
    cases more with
    | nil => rfl
    | cons b more => simp [hmore.blank b rfl]
  rw [Tag.name, List.takeWhile_append_of_pos hall, hstop, List.append_nil]

/-- The rest of the tag begins where its name ends. -/
theorem dropWhile_append {more : Bytes} (hmore : FollowsName more) :
    (name ++ more).dropWhile (!Bytes.isTagBlank ·) = more := by
  have hall : ∀ b ∈ name, (!Bytes.isTagBlank b) = true :=
    fun b hb => by rw [h.not_isTagBlank hb, Bool.not_false]
  rw [List.dropWhile_append_of_pos hall]
  exact dropWhile_eq_self_of_head fun b hb => by rw [hmore.blank b hb, Bool.not_true]

/-- The name of a tag that holds nothing else. -/
theorem name_eq : Tag.name ⟨name⟩ = name := by
  simpa using h.name_append .nil

theorem localName_eq : Tag.localName ⟨name⟩ = name := by
  have hcolon : name.dropWhile (· ≠ 0x3A) = [] := by
    rw [dropWhile_eq_nil_iff]
    exact fun b hb => by simp [h.ne hb (show (0x3A : UInt8) < 0x40 by decide) (by decide)]
  rw [Tag.localName, h.name_eq, Tag.localPart, hcolon]

/-- What begins with a name is a tag, and no other markup. -/
theorem lexMarkup_append (rest : Bytes) : lexMarkup (name ++ rest) = lexTag (name ++ rest) := by
  obtain ⟨b, more, rfl⟩ := List.exists_cons_of_ne_nil h.1
  have hne : ∀ {c : UInt8}, c < 0x40 → c ≠ 0x2D → b ≠ c := fun hc hd => h.ne (by simp) hc hd
  rw [List.cons_append, lexMarkup]
  · exact fun _ hb => hne (by decide) (by decide) (List.cons.inj hb).1
  · exact fun _ hb => hne (by decide) (by decide) (List.cons.inj hb).1
  · exact fun _ hb => hne (by decide) (by decide) (List.cons.inj hb).1

/-- A name does not end in the slash of an element without content. -/
theorem getLast?_ne : name.getLast? ≠ some 0x2F := fun hlast =>
  h.ne (List.mem_of_getLast? hlast) (by decide) (by decide) rfl

theorem lex_start {more : Bytes} (hmore : FollowsName more)
    (hlast : (name ++ more).getLast? ≠ some 0x2F) (rest : Bytes) :
    lex (0x3C :: (name ++ more ++ 0x3E :: rest)) = .ok (.start ⟨name ++ more⟩, rest) := by
  have hcut := (h.isPassed.append hmore.passed).cut rest
  rw [lex, List.append_assoc, h.lexMarkup_append, ← List.append_assoc, lexTag, hcut]
  exact if_neg hlast

theorem lex_empty {more : Bytes} (hmore : FollowsName more) (rest : Bytes) :
    lex (0x3C :: (name ++ more ++ 0x2F :: 0x3E :: rest)) = .ok (.empty ⟨name ++ more⟩, rest) := by
  have hslash : IsPassed [0x2F] := .of_forall (by simp)
  have hcut := ((h.isPassed.append hmore.passed).append hslash).cut rest
  rw [List.append_assoc (name ++ more), List.singleton_append] at hcut
  rw [lex, List.append_assoc name, h.lexMarkup_append, ← List.append_assoc, lexTag, hcut]
  simp only [List.getLast?_concat, if_true, List.dropLast_concat]

theorem lex_finish (rest : Bytes) :
    lex (0x3C :: 0x2F :: (name ++ 0x3E :: rest)) = .ok (.finish name, rest) := by
  have hslash : IsPassed [0x2F] := .of_forall (by simp)
  have hcut : cutTag? none (0x2F :: (name ++ 0x3E :: rest)) = some (0x2F :: name, rest) :=
    (hslash.append h.isPassed).cut rest
  have hname : finishName name = name := by
    have hkept : name.reverse.dropWhile Bytes.isTagBlank = name.reverse := by
      refine dropWhile_eq_self_of_head fun b hb => h.not_isTagBlank ?_
      exact List.mem_reverse.mp (List.mem_of_head? hb)
    unfold finishName
    rw [hkept]
    split
    · rfl
    · exact List.reverse_reverse name
  simp [lex, lexMarkup, lexFinish, hcut, hname]

end IsPlainName

/-! ### Sections, comments and texts -/

theorem lex_cdata {body : Bytes} (rest : Bytes) (h : ¬ [0x5D, 0x5D, 0x3E] <:+: body) :
    lex (0x3C :: (cdataOpening ++ body ++ 0x5D :: 0x5D :: 0x3E :: rest)) =
      .ok (.cdata body, rest) := by
  have hbody : ¬ [0x5D, 0x5D, 0x3E] <:+: cdataOpening ++ body :=
    fun hi => h (Utf8.infix_of_infix_append (by decide) hi)
  have hcut := cutAt?_append rest (by decide) hbody
  have hopening : cdataOpening.isPrefixOf (cdataOpening ++ body) = true :=
    List.isPrefixOf_iff_prefix.mpr (List.prefix_append _ _)
  have hlex : lexCData ((cdataOpening ++ body) ++ 0x5D :: 0x5D :: 0x3E :: rest) =
      .ok (.cdata body, rest) := by
    simp only [lexCData, hcut, hopening, if_true, List.drop_left]
  exact hlex

theorem lex_comment {body : Bytes} (rest : Bytes) (h : ¬ [0x2D, 0x2D, 0x3E] <:+: body) :
    lex (0x3C :: 0x21 :: 0x2D :: 0x2D :: (body ++ 0x2D :: 0x2D :: 0x3E :: rest)) =
      .ok (.comment body, rest) := by
  simp [lex, lexMarkup, lexComment, cutAt?_append rest (by decide) h]

/-- A declaration says something behind its first word. -/
theorem lex_declaration {body : Bytes} (rest : Bytes) (h : 0x3F ∉ body)
    (hblank : ∀ b ∈ body.head?, Bytes.isTagBlank b = true) :
    lex (0x3C :: 0x3F :: 0x78 :: 0x6D :: 0x6C :: (body ++ 0x3F :: 0x3E :: rest)) =
      .ok (.declaration body, rest) := by
  have hinside : 0x3F ∉ (0x78 :: 0x6D :: 0x6C :: body : Bytes) := by
    simpa using h
  have hcut : Bytes.cutAt? [0x3F, 0x3E]
      (0x3F :: 0x78 :: 0x6D :: 0x6C :: (body ++ 0x3F :: 0x3E :: rest)) =
        some (0x3F :: 0x78 :: 0x6D :: 0x6C :: body, rest) := by
    rw [Bytes.cutAt?, if_neg (by simp [List.isPrefixOf])]
    exact congrArg (Option.map _) (cutAt?_of_not_mem rest hinside)
  have hall : body.head?.all Bytes.isTagBlank = true := by
    cases hbody : body.head? with
    | none => rfl
    | some b => exact hblank b hbody
  simp only [lex, lexMarkup, lexInstruction, hcut, hall, if_true]

/-- Whether a text ends where these bytes begin: at markup or at the end of the document. -/
def EndsText (bytes : Bytes) : Prop := ∀ b ∈ bytes.head?, b = 0x3C

theorem lex_text {run rest : Bytes} (hne : run ≠ []) (h : 0x3C ∉ run) (hrest : EndsText rest) :
    lex (run ++ rest) = .ok (.text run, rest) := by
  have hall : ∀ b ∈ run, decide (b ≠ 0x3C) = true :=
    fun b hb => decide_eq_true fun he => h (he ▸ hb)
  have hstop : rest.takeWhile (· ≠ 0x3C) = [] ∧ rest.dropWhile (· ≠ 0x3C) = rest := by
    cases rest with
    | nil => exact ⟨rfl, rfl⟩
    | cons b rest =>
        have hb : b = 0x3C := hrest b rfl
        simp [hb]
  have htake : (run ++ rest).takeWhile (· ≠ 0x3C) = run := by
    rw [List.takeWhile_append_of_pos hall, hstop.1, List.append_nil]
  have hdrop : (run ++ rest).dropWhile (· ≠ 0x3C) = rest := by
    rw [List.dropWhile_append_of_pos hall, hstop.2]
  unfold lex
  split
  · next after heq =>
    cases run with
    | nil => exact absurd rfl hne
    | cons b run =>
        have hb : b = 0x3C := (List.cons.inj heq).1
        exact absurd (hb ▸ List.mem_cons_self) h
  · rw [htake, hdrop]

/-! ### Items -/

/-- A scan with events in front of it. -/
def Scan.prepend (events : List Event) (scan : Scan) : Scan :=
  ⟨events ++ scan.events, scan.fault⟩

@[simp] theorem Scan.prepend_prepend (events rest : List Event) (scan : Scan) :
    (scan.prepend rest).prepend events = scan.prepend (events ++ rest) := by
  rw [prepend, prepend, prepend, List.append_assoc]

/-- A scan goes on behind a lexeme. -/
theorem fromContext_of_lex {context context' : Context} {bytes rest : Bytes} {lexeme : Lexeme}
    (hne : bytes ≠ []) (h : lex bytes = .ok (lexeme, rest))
    (hafter : context.after lexeme = .ok context') :
    Scan.fromContext context bytes =
      (Scan.fromContext context' rest).prepend [⟨lexeme, context.encoding⟩] := by
  rw [Scan.fromContext, dif_neg hne]
  split
  · next fault hf =>
    rw [h] at hf
    cases hf
  · next lexeme' rest' hl =>
    rw [h] at hl
    cases hl
    rw [hafter]
    rfl

/-- In UTF-8 the bytes are scanned as an item that is no text, whatever follows them. -/
structure ScansAs (bytes : Bytes) (item : Item) : Prop where
  begins : bytes.head? = some 0x3C
  scan : ∀ (context : Context) (rest : Bytes), context.encoding = .utf8 →
    Scan.fromContext context (bytes ++ rest) =
      (Scan.fromContext context rest).prepend item.events

/-- In UTF-8, and where a text may end behind them, the bytes are scanned as the items. -/
def ScansAsAll (bytes : Bytes) (items : List Item) : Prop :=
  ∀ (context : Context) (rest : Bytes), context.encoding = .utf8 → EndsText rest →
    Scan.fromContext context (bytes ++ rest) =
      (Scan.fromContext context rest).prepend (Item.eventsAll items)

/-- The items of a run of text: there is none if the run is empty. -/
def textItems (run : Bytes) : List Item := if run = [] then [] else [.text run .utf8]

theorem endsText_cons (rest : Bytes) : EndsText (0x3C :: rest) :=
  fun _ hb => (Option.some.inj hb).symm

/-- A run of text without a `<`. -/
theorem ScansAsAll.text {run : Bytes} (h : 0x3C ∉ run) : ScansAsAll run (textItems run) := by
  intro context rest hc hrest
  by_cases hne : run = []
  · subst hne
    rfl
  · have hbytes : run ++ rest ≠ [] := fun he => hne (List.append_eq_nil_iff.mp he).1
    rw [fromContext_of_lex hbytes (lex_text hne h hrest) rfl, hc, textItems, if_neg hne]
    rfl

/-- A run of text, a piece of markup and what follows. -/
theorem ScansAsAll.cons {run bytes bytes' : Bytes} {item : Item} {items : List Item}
    (hrun : 0x3C ∉ run) (h : ScansAs bytes item) (h' : ScansAsAll bytes' items) :
    ScansAsAll (run ++ (bytes ++ bytes')) (textItems run ++ item :: items) := by
  intro context rest hc hrest
  have hends : EndsText (bytes ++ (bytes' ++ rest)) := by
    intro b hb
    rw [List.head?_append, h.begins] at hb
    exact (Option.some.inj hb).symm
  rw [List.append_assoc, List.append_assoc, text hrun context _ hc hends, h.scan context _ hc,
    h' context rest hc hrest, Scan.prepend_prepend, Scan.prepend_prepend, Item.eventsAll_append,
    Item.eventsAll_cons, List.append_assoc]

/-- They are all there is in a document. -/
theorem ScansAsAll.fromContext {bytes : Bytes} {items : List Item} (h : ScansAsAll bytes items)
    (context : Context) (hc : context.encoding = .utf8) :
    Scan.fromContext context bytes = ⟨Item.eventsAll items, none⟩ := by
  have hscan := h context [] hc (by simp [EndsText])
  have hend : Scan.fromContext context [] = ⟨[], none⟩ := by
    rw [Scan.fromContext, dif_pos rfl]
  rwa [List.append_nil, hend, Scan.prepend, List.append_nil] at hscan

/-- A text in which no markup begins, a piece of markup and what follows. -/
theorem scansAsAll_cons {text markup rest : String} {item : Item} {items : List Item}
    (htext : '<' ∉ text.toList) (h : ScansAs (Bytes.ofText markup) item)
    (h' : ScansAsAll (Bytes.ofText rest) items) :
    ScansAsAll (Bytes.ofText (text ++ (markup ++ rest)))
      (textItems (Bytes.ofText text) ++ item :: items) := by
  rw [Utf8.ofText_append, Utf8.ofText_append]
  exact .cons (fun hmem => htext (Utf8.mem_of_ofAscii_mem (by decide) hmem)) h h'

namespace ScansAs

/-- A CDATA section without its closing marker inside. -/
theorem cdata {body : Bytes} (h : ¬ [0x5D, 0x5D, 0x3E] <:+: body) :
    ScansAs (0x3C :: (cdataOpening ++ body ++ [0x5D, 0x5D, 0x3E])) (.cdata body .utf8) := by
  refine ⟨rfl, fun context rest hc => ?_⟩
  have hbytes : 0x3C :: (cdataOpening ++ body ++ [0x5D, 0x5D, 0x3E]) ++ rest =
      0x3C :: (cdataOpening ++ body ++ 0x5D :: 0x5D :: 0x3E :: rest) := by
    simp
  rw [hbytes, fromContext_of_lex (List.cons_ne_nil _ _) (lex_cdata rest h) rfl, hc]
  rfl

/-- A comment without its closing marker inside. -/
theorem comment {body : Bytes} (h : ¬ [0x2D, 0x2D, 0x3E] <:+: body) :
    ScansAs (0x3C :: 0x21 :: 0x2D :: 0x2D :: (body ++ [0x2D, 0x2D, 0x3E]))
      (.aside (.comment body) .utf8) := by
  refine ⟨rfl, fun context rest hc => ?_⟩
  have hbytes : 0x3C :: 0x21 :: 0x2D :: 0x2D :: (body ++ [0x2D, 0x2D, 0x3E]) ++ rest =
      0x3C :: 0x21 :: 0x2D :: 0x2D :: (body ++ 0x2D :: 0x2D :: 0x3E :: rest) := by
    simp
  rw [hbytes, fromContext_of_lex (List.cons_ne_nil _ _) (lex_comment rest h) rfl, hc]
  rfl

/-- An element with its content between two tags, the first of which may say more than its
name. -/
theorem element {name more content : Bytes} {items : List Item} (hname : IsPlainName name)
    (hmore : FollowsName more) (hlast : (name ++ more).getLast? ≠ some 0x2F)
    (h : ScansAsAll content items) :
    ScansAs (0x3C :: (name ++ more ++ 0x3E :: (content ++ 0x3C :: 0x2F :: (name ++ [0x3E]))))
      (.element ⟨name ++ more⟩ items .utf8 .utf8) := by
  refine ⟨rfl, fun context rest hc => ?_⟩
  have hstart := hname.lex_start hmore hlast (content ++ 0x3C :: 0x2F :: (name ++ 0x3E :: rest))
  have hfinish := hname.lex_finish rest
  -- Inside the element the scan is in a context of its own, which the end tag leaves again.
  have hinside := h
    { context with openNames := Tag.name ⟨name ++ more⟩ :: context.openNames }
    (0x3C :: 0x2F :: (name ++ 0x3E :: rest)) hc (endsText_cons _)
  have hclose : Context.after
      { context with openNames := Tag.name ⟨name ++ more⟩ :: context.openNames }
      (.finish name) = .ok context := by
    simp [Context.after, hname.name_append hmore]
  have hbytes :
      0x3C :: (name ++ more ++ 0x3E :: (content ++ 0x3C :: 0x2F :: (name ++ [0x3E]))) ++ rest =
        0x3C :: (name ++ more ++
          0x3E :: (content ++ 0x3C :: 0x2F :: (name ++ 0x3E :: rest))) := by
    simp
  rw [hbytes, fromContext_of_lex (List.cons_ne_nil _ _) hstart rfl, hinside,
    fromContext_of_lex (List.cons_ne_nil _ _) hfinish hclose]
  simp [Item.events, hname.name_append hmore, hc]

/-- An element without content, of one tag. -/
theorem empty {name more : Bytes} (hname : IsPlainName name) (hmore : FollowsName more) :
    ScansAs (0x3C :: (name ++ more ++ [0x2F, 0x3E])) (.empty ⟨name ++ more⟩ .utf8) := by
  refine ⟨rfl, fun context rest hc => ?_⟩
  have hbytes : 0x3C :: (name ++ more ++ [0x2F, 0x3E]) ++ rest =
      0x3C :: (name ++ more ++ 0x2F :: 0x3E :: rest) := by
    simp
  rw [hbytes, fromContext_of_lex (List.cons_ne_nil _ _) (hname.lex_empty hmore rest) rfl, hc]
  rfl

end ScansAs

/-! ### Documents -/

/-- A document from a text that begins with a declaration. -/
theorem ofText_declared {body rest : String} {items : List Item}
    (h : 0x3F ∉ Bytes.ofText body)
    (hblank : ∀ b ∈ (Bytes.ofText body).head?, Bytes.isTagBlank b = true)
    (hrest : ScansAsAll (Bytes.ofText rest) items) :
    Document.ofText ("<?xml" ++ body ++ "?>" ++ rest) =
      ⟨Item.eventsAll (.aside (.declaration (Bytes.ofText body)) .utf8 :: items), none⟩ := by
  have hbytes : Bytes.ofText ("<?xml" ++ body ++ "?>" ++ rest) = 0x3C :: 0x3F :: 0x78 :: 0x6D ::
      0x6C :: (Bytes.ofText body ++ 0x3F :: 0x3E :: Bytes.ofText rest) := by
    simp only [Utf8.ofText_append, List.append_assoc]
    rfl
  have hscan : Scan.fromContext ⟨.utf8, true, []⟩ (Bytes.ofText ("<?xml" ++ body ++ "?>" ++ rest)) =
      ⟨⟨.declaration (Bytes.ofText body), .utf8⟩ :: Item.eventsAll items, none⟩ := by
    rw [hbytes, fromContext_of_lex (List.cons_ne_nil _ _) (lex_declaration _ h hblank) rfl,
      hrest.fromContext _ rfl]
    rfl
  have hmark : Encoding.ofMark? (Bytes.ofText ("<?xml" ++ body ++ "?>" ++ rest)) = none := by
    rw [hbytes]
    rfl
  simp only [Document.ofText, hmark, Document.scan, hscan]
  rfl

end TierAudit.Markup
