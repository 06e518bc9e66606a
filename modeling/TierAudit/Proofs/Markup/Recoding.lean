import TierAudit.Proofs.Markup.Attribute
import TierAudit.Proofs.Text.Recoding

/-!
# Markup — recoding

Markup is made of ASCII bytes, so it is cut into the same lexemes whatever bytes beyond ASCII stand
in it (`lex_apply`).  The attributes of a declaration are the same too, and as the names of
encodings are ASCII, so is the encoding that it names (`declared?_apply`).
-/

namespace TierAudit.Markup
open Bytes (IsAscii AllAscii IsAsciiTest Recoding)

/-! ### Lexemes -/

/-- The tag of recoded bytes. -/
def Tag.recode (f : Recoding) (tag : Tag) : Tag := ⟨f.apply tag.content⟩

/-- The lexeme of recoded bytes. -/
def Lexeme.recode (f : Recoding) : Lexeme → Lexeme
  | text run => text (f.apply run)
  | start tag => start (tag.recode f)
  | empty tag => empty (tag.recode f)
  | finish name => finish (f.apply name)
  | cdata body => cdata (f.apply body)
  | comment body => comment (f.apply body)
  | instruction body => instruction (f.apply body)
  | declaration body => declaration (f.apply body)
  | doctype body => doctype (f.apply body)

/-- What is cut off recoded bytes: the lexeme, and what follows it. -/
def recodeCut (f : Recoding) (cut : Except Fault (Lexeme × Bytes)) :
    Except Fault (Lexeme × Bytes) :=
  cut.map (Prod.map (Lexeme.recode f) f.apply)

variable (f : Recoding)

theorem Tag.name_recode (tag : Tag) : (tag.recode f).name = f.apply tag.name :=
  f.takeWhile_apply IsAsciiTest.isTagBlank.not tag.content

theorem Tag.localPart_apply (name : Bytes) :
    localPart (f.apply name) = f.apply (localPart name) := by
  unfold localPart
  rw [f.dropWhile_apply (.ne (by decide))]
  cases hcolon : name.dropWhile (· ≠ 0x3A) with
  | nil => rfl
  | cons b rest =>
      -- Only an ASCII byte ends what is dropped.
      have hb : b = 0x3A := by
        have hhead := Text.head_dropWhile (p := (· ≠ 0x3A)) name b (by rw [hcolon]; rfl)
        simpa using hhead
      rw [hb, f.apply_cons_ascii (by decide)]

theorem Tag.localName_recode (tag : Tag) : (tag.recode f).localName = f.apply tag.localName := by
  rw [localName, name_recode, localPart_apply, localName]

/-! ### Where a piece of markup ends -/

theorem passesUpper_cutTag? {quote : Option UInt8} (hquote : ∀ q ∈ quote, IsAscii q) :
    Recoding.PassesUpper (cutTag? quote) := by
  intro b hb rest
  have hne : ∀ c, IsAscii c → b ≠ c := fun c hc heq => hb (heq ▸ hc)
  cases quote with
  | none => simp [cutTag?, hne 0x3E (by decide), hne 0x27 (by decide), hne 0x22 (by decide)]
  | some q => simp [cutTag?, hne q (hquote q rfl)]

theorem cutTag?_apply {quote : Option UInt8} (hquote : ∀ q ∈ quote, IsAscii q) (bytes : Bytes) :
    cutTag? quote (f.apply bytes) = (cutTag? quote bytes).map (Prod.map f.apply f.apply) := by
  induction bytes generalizing quote with
  | nil => cases quote <;> rfl
  | cons b bytes ih =>
      by_cases hb : IsAscii b
      · rw [f.apply_cons_ascii hb]
        cases quote with
        | none =>
            rw [cutTag?, cutTag?]
            split
            · rfl
            · have hopened : ∀ q ∈ if b = 0x27 ∨ b = 0x22 then some b else none, IsAscii q := by
                intro q hq
                split at hq <;> cases hq
                exact hb
              dsimp only
              rw [ih hopened, f.map_apply_cons_ascii hb]
        | some q =>
            have hleft : ∀ q' ∈ if b = q then none else some q, IsAscii q' := by
              intro q' hq
              split at hq <;> cases hq
              exact hquote q rfl
            rw [cutTag?, cutTag?, ih hleft, f.map_apply_cons_ascii hb]
      · exact (passesUpper_cutTag? hquote).apply_cons f hb (ih hquote)

theorem passesUpper_cutBalanced? (depth : Nat) : Recoding.PassesUpper (cutBalanced? depth) := by
  intro b hb rest
  have hne : ∀ c, IsAscii c → b ≠ c := fun c hc heq => hb (heq ▸ hc)
  simp [cutBalanced?, hne 0x3E (by decide), hne 0x3C (by decide)]

theorem cutBalanced?_apply (depth : Nat) (bytes : Bytes) :
    cutBalanced? depth (f.apply bytes) =
      (cutBalanced? depth bytes).map (Prod.map f.apply f.apply) := by
  induction bytes generalizing depth with
  | nil => rfl
  | cons b bytes ih =>
      by_cases hb : IsAscii b
      · rw [f.apply_cons_ascii hb, cutBalanced?, cutBalanced?]
        split
        · rfl
        · dsimp only
          rw [ih, f.map_apply_cons_ascii hb]
      · exact (passesUpper_cutBalanced? depth).apply_cons f hb (ih depth)

/-! ### One piece of markup -/

/-- What stands in an instruction: a declaration if the first word is `xml`. -/
def instructionOf (body : Bytes) : Lexeme :=
  if [0x78, 0x6D, 0x6C].isPrefixOf body ∧ (body.drop 3).head?.all Bytes.isTagBlank then
    .declaration (body.drop 3)
  else .instruction body

/-- The first byte of an instruction is not looked at again, and neither is what closes it. -/
theorem lexInstruction_cons (bytes : Bytes) : lexInstruction (0x3F :: bytes) =
    if [0x3E].isPrefixOf bytes then .error .unclosedInstruction
    else match Bytes.cutAt? [0x3F, 0x3E] bytes with
      | some (body, rest) => .ok (instructionOf body, rest)
      | none => .error .unclosedInstruction := by
  have hstart : [0x3F, 0x3E].isPrefixOf (0x3F :: bytes) = [(0x3E : UInt8)].isPrefixOf bytes := by
    rw [List.isPrefixOf_cons_cons, beq_self_eq_true, Bool.true_and]
  rw [lexInstruction, Bytes.cutAt?, hstart]
  by_cases hclosed : [(0x3E : UInt8)].isPrefixOf bytes = true
  · rw [if_pos hclosed, if_pos hclosed]
  · rw [if_neg hclosed, if_neg hclosed]
    cases Bytes.cutAt? [0x3F, 0x3E] bytes with
    | none => rfl
    | some parts =>
        obtain ⟨body, rest⟩ := parts
        simp only [Option.map_some, instructionOf]
        split
        · next more =>
          cases hblank : more.head?.all Bytes.isTagBlank <;> simp [hblank]
        · next hother =>
          rw [if_neg fun h => ?_]
          obtain ⟨more, hmore⟩ := List.isPrefixOf_iff_prefix.mp h.1
          exact hother more hmore.symm

theorem instructionOf_apply (body : Bytes) :
    instructionOf (f.apply body) = (instructionOf body).recode f := by
  have hword : AllAscii [0x78, 0x6D, 0x6C] := by decide
  unfold instructionOf
  rw [f.isPrefixOf_apply hword]
  by_cases hstart : [0x78, 0x6D, 0x6C].isPrefixOf body = true
  · have hdrop : (f.apply body).drop 3 = f.apply (body.drop 3) := f.drop_marker_apply hword hstart
    rw [hdrop, f.all_head?_apply .isTagBlank]
    split <;> rfl
  · rw [if_neg fun h => hstart h.1, if_neg fun h => hstart h.1]
    rfl

theorem lexInstruction_apply {bytes : Bytes} (h : bytes.head? = some 0x3F) :
    lexInstruction (f.apply bytes) = recodeCut f (lexInstruction bytes) := by
  obtain ⟨rest, rfl⟩ := List.head?_eq_some_iff.mp h
  rw [f.apply_cons_ascii (by decide), lexInstruction_cons, lexInstruction_cons,
    f.isPrefixOf_apply (by decide), f.cutAt?_apply (by decide) (by decide)]
  split
  · rfl
  · cases Bytes.cutAt? [0x3F, 0x3E] rest with
    | none => rfl
    | some parts =>
        simp only [Option.map_some, Prod.map, instructionOf_apply]
        rfl

theorem lexComment_eq (bytes : Bytes) : lexComment bytes =
    if [0x21, 0x2D, 0x2D].isPrefixOf bytes then
      match Bytes.cutAt? [0x2D, 0x2D, 0x3E] (bytes.drop 3) with
      | some (body, rest) => .ok (.comment body, rest)
      | none => .error .unclosedComment
    else .error .unclosedComment := by
  unfold lexComment
  split
  · next b c inside =>
    have hstart : [0x21, 0x2D, 0x2D].isPrefixOf (0x21 :: b :: c :: inside) = true ↔
        b = 0x2D ∧ c = 0x2D := by
      simp only [List.isPrefixOf_cons_cons, List.isPrefixOf_nil_left, beq_self_eq_true,
        Bool.true_and, Bool.and_true, Bool.and_eq_true, beq_iff_eq]
      exact and_congr eq_comm eq_comm
    rw [List.drop_succ_cons, List.drop_succ_cons, List.drop_succ_cons, List.drop_zero]
    simp only [hstart]
    cases Bytes.cutAt? [0x2D, 0x2D, 0x3E] inside with
    | none => simp
    | some parts => rfl
  · next hother =>
    rw [if_neg fun hp => by
      obtain ⟨inside, hinside⟩ := List.isPrefixOf_iff_prefix.mp hp
      exact hother _ _ inside hinside.symm]

theorem lexComment_apply (bytes : Bytes) :
    lexComment (f.apply bytes) = recodeCut f (lexComment bytes) := by
  have hmarker : AllAscii [0x21, 0x2D, 0x2D] := by decide
  rw [lexComment_eq, lexComment_eq, f.isPrefixOf_apply hmarker]
  split
  · next hstart =>
    have hdrop : (f.apply bytes).drop 3 = f.apply (bytes.drop 3) :=
      f.drop_marker_apply hmarker hstart
    rw [hdrop, f.cutAt?_apply (by decide) (by decide)]
    cases Bytes.cutAt? [0x2D, 0x2D, 0x3E] (bytes.drop 3) <;> rfl
  · rfl

theorem lexCData_apply (bytes : Bytes) :
    lexCData (f.apply bytes) = recodeCut f (lexCData bytes) := by
  unfold lexCData
  rw [f.cutAt?_apply (by decide) (by decide)]
  cases Bytes.cutAt? [0x5D, 0x5D, 0x3E] bytes with
  | none => rfl
  | some parts =>
      have hmarker : AllAscii cdataOpening := by decide
      simp only [Option.map_some, Prod.map, f.isPrefixOf_apply hmarker]
      split
      · next hstart =>
        rw [f.drop_marker_apply hmarker hstart]
        rfl
      · rfl

theorem lexDoctype_apply (bytes : Bytes) :
    lexDoctype (f.apply bytes) = recodeCut f (lexDoctype bytes) := by
  unfold lexDoctype
  rw [cutBalanced?_apply]
  cases cutBalanced? 0 bytes with
  | none => rfl
  | some parts =>
      have hmarker : AllAscii doctypeOpening := by decide
      simp only [Option.map_some, Prod.map, f.lower_apply, f.isPrefixOf_apply hmarker]
      split
      · next hstart =>
        -- A byte whose lower case is ASCII is ASCII itself.
        have hascii : AllAscii (parts.1.take doctypeOpening.length) := by
          intro b hb
          have hlower : Bytes.lower b ∈ doctypeOpening := by
            rw [List.prefix_iff_eq_take.mp (List.isPrefixOf_iff_prefix.mp hstart), ← List.map_take]
            exact List.mem_map_of_mem hb
          refine Decidable.byContradiction fun hupper => ?_
          rw [Recoding.lower_of_not_isAscii hupper] at hlower
          exact hupper (hmarker b hlower)
        rw [f.drop_apply hascii, f.dropWhile_apply .isTagBlank]
        cases (parts.1.drop doctypeOpening.length).dropWhile Bytes.isTagBlank with
        | nil => rfl
        | cons b body =>
            -- The recoded name is not empty either.
            have hne := mt f.apply_eq_nil_iff.mp (List.cons_ne_nil b body)
            obtain ⟨x, xs, hname⟩ := List.exists_cons_of_ne_nil hne
            rw [hname]
            exact congrArg (fun name => Except.ok (Lexeme.doctype name, f.apply parts.2)) hname.symm
      · rfl

theorem finishName_eq (content : Bytes) : finishName content =
    let kept := content.reverse.dropWhile Bytes.isTagBlank
    if kept = [] then content else kept.reverse := by
  unfold finishName
  cases content.reverse.dropWhile Bytes.isTagBlank <;> rfl

theorem finishName_apply (content : Bytes) :
    finishName (f.apply content) = f.apply (finishName content) := by
  rw [finishName_eq, finishName_eq, f.reverse_apply, f.reverse.dropWhile_apply .isTagBlank,
    apply_ite f.apply]
  simp only [Recoding.apply_eq_nil_iff, f.apply_reverse]

theorem lexFinish_cons (bytes : Bytes) : lexFinish (0x2F :: bytes) =
    (cutTag? none bytes).elim (.error .unclosedTag)
      fun parts => .ok (.finish (finishName parts.1), parts.2) := by
  have hcut : cutTag? none (0x2F :: bytes) =
      (cutTag? none bytes).map fun parts => (0x2F :: parts.1, parts.2) := rfl
  rw [lexFinish, hcut]
  cases cutTag? none bytes <;> rfl

theorem lexFinish_apply {bytes : Bytes} (h : bytes.head? = some 0x2F) :
    lexFinish (f.apply bytes) = recodeCut f (lexFinish bytes) := by
  obtain ⟨rest, rfl⟩ := List.head?_eq_some_iff.mp h
  rw [f.apply_cons_ascii (by decide), lexFinish_cons, lexFinish_cons, cutTag?_apply f (by simp)]
  cases cutTag? none rest with
  | none => rfl
  | some parts =>
      simp only [Option.map_some, Option.elim_some, Prod.map, finishName_apply]
      rfl

theorem lexTag_apply (bytes : Bytes) :
    lexTag (f.apply bytes) = recodeCut f (lexTag bytes) := by
  unfold lexTag
  rw [cutTag?_apply f (by simp)]
  cases cutTag? none bytes with
  | none => rfl
  | some parts =>
      simp only [Option.map_some, Prod.map, f.getLast?_apply_eq_some_iff (c := 0x2F) (by decide)]
      split
      · next hempty =>
        rw [f.dropLast_apply (by decide) hempty]
        rfl
      · rfl

theorem head?_ne_some {bytes : Bytes} {b : UInt8} (h : ∀ rest, bytes = b :: rest → False) :
    bytes.head? ≠ some b := fun hhead => by
  obtain ⟨rest, heq⟩ := List.head?_eq_some_iff.mp hhead
  exact h rest heq

/-- The first two bytes tell what markup it is. -/
theorem lexMarkup_eq (bytes : Bytes) : lexMarkup bytes =
    if bytes.head? = some 0x3F then lexInstruction bytes
    else if bytes.head? = some 0x2F then lexFinish bytes
    else if bytes.head? = some 0x21 then
      if bytes.tail.head? = some 0x2D then lexComment bytes
      else if bytes.tail.head? = some 0x5B then lexCData bytes
      else if bytes.tail.head? = some 0x44 ∨ bytes.tail.head? = some 0x64 then lexDoctype bytes
      else .error .unknownMarkup
    else lexTag bytes := by
  unfold lexMarkup
  split
  · rfl
  · rfl
  · split
    · rfl
    · rfl
    · rfl
    · rfl
    · next kind hdash hbracket hupper hlower =>
      simp [head?_ne_some hdash, head?_ne_some hbracket, head?_ne_some hupper,
        head?_ne_some hlower]
  · next hquestion hslash hbang =>
    simp [head?_ne_some hquestion, head?_ne_some hslash, head?_ne_some hbang]

theorem lexMarkup_apply (bytes : Bytes) :
    lexMarkup (f.apply bytes) = recodeCut f (lexMarkup bytes) := by
  have hhead : ∀ {c : UInt8} (bytes : Bytes), IsAscii c →
      ((f.apply bytes).head? = some c ↔ bytes.head? = some c) :=
    fun bytes hc => f.head?_apply_eq_some_iff hc bytes
  rw [lexMarkup_eq, lexMarkup_eq bytes]
  simp only [hhead bytes (c := 0x3F) (by decide), hhead bytes (c := 0x2F) (by decide),
    hhead bytes (c := 0x21) (by decide)]
  split
  · next h => exact lexInstruction_apply f h
  · split
    · next h => exact lexFinish_apply f h
    · split
      · next h =>
        simp only [f.tail_apply (by decide) h, hhead bytes.tail (c := 0x2D) (by decide),
          hhead bytes.tail (c := 0x5B) (by decide), hhead bytes.tail (c := 0x44) (by decide),
          hhead bytes.tail (c := 0x64) (by decide)]
        split
        · exact lexComment_apply f bytes
        · split
          · exact lexCData_apply f bytes
          · split
            · exact lexDoctype_apply f bytes
            · rfl
      · exact lexTag_apply f bytes

/-- **Recoded bytes** are cut into the recoded lexemes. -/
theorem lex_apply (bytes : Bytes) : lex (f.apply bytes) = recodeCut f (lex bytes) := by
  have hlex : ∀ bytes : Bytes, ¬ bytes.head? = some 0x3C →
      lex bytes = .ok (.text (bytes.takeWhile (· ≠ 0x3C)), bytes.dropWhile (· ≠ 0x3C)) := by
    intro bytes h
    unfold lex
    split
    · exact absurd rfl h
    · rfl
  by_cases h : bytes.head? = some 0x3C
  · obtain ⟨rest, rfl⟩ := List.head?_eq_some_iff.mp h
    rw [f.apply_cons_ascii (by decide)]
    exact lexMarkup_apply f rest
  · rw [hlex bytes h, hlex _ (mt (f.head?_apply_eq_some_iff (by decide) bytes).mp h),
      f.takeWhile_apply (.ne (by decide)), f.dropWhile_apply (.ne (by decide))]
    rfl

/-! ### Attributes -/

namespace Attribute

/-- The attribute of recoded bytes. -/
def recode (f : Recoding) (a : Attribute) : Attribute := ⟨f.apply a.name, f.apply a.value⟩

theorem isAsciiTest_isNameByte : IsAsciiTest isNameByte :=
  (IsAsciiTest.ne (by decide)).and IsAsciiTest.isTagBlank.not

theorem isNameByte_upper {b : UInt8} (h : ¬ IsAscii b) : isNameByte b = true :=
  (isAsciiTest_isNameByte b 0xFF h (by decide)).trans (by decide)

/-- A value between quotation marks, with blanks in front, and what follows it. -/
def quoted? (bytes : Bytes) : Option (Bytes × Bytes) :=
  match bytes.dropWhile Bytes.isTagBlank with
  | quote :: inside => if quote = 0x22 ∨ quote = 0x27 then Bytes.cutAt? [quote] inside else none
  | [] => none

/-- What follows the first byte of a name, and behind it the value. -/
def named? (first : UInt8) (more : Bytes) : Option (Attribute × Bytes) :=
  let after := (more.dropWhile isNameByte).dropWhile Bytes.isTagBlank
  if after.head? = some 0x3D then
    (quoted? after.tail).map fun (value, rest) =>
      (⟨first :: more.takeWhile isNameByte, value⟩, rest)
  else none

theorem next?_eq (bytes : Bytes) : next? bytes =
    match bytes.dropWhile Bytes.isTagBlank with
    | [] => none
    | first :: more => named? first more := by
  unfold next? named? quoted?
  cases bytes.dropWhile Bytes.isTagBlank with
  | nil => rfl
  | cons first more =>
      dsimp only
      split
      · next more' hafter =>
        rw [hafter]
        simp only [List.head?_cons, if_true, List.tail_cons]
        cases more'.dropWhile Bytes.isTagBlank with
        | nil => rfl
        | cons quote inside =>
            dsimp only
            split
            · cases Bytes.cutAt? [quote] inside <;> rfl
            · rfl
      · next hother =>
        rw [if_neg (head?_ne_some hother)]

theorem quoted?_apply (bytes : Bytes) :
    quoted? (f.apply bytes) = (quoted? bytes).map (Prod.map f.apply f.apply) := by
  unfold quoted?
  rw [f.dropWhile_apply .isTagBlank]
  cases bytes.dropWhile Bytes.isTagBlank with
  | nil => rfl
  | cons quote inside =>
      by_cases hquote : IsAscii quote
      · rw [f.apply_cons_ascii hquote]
        dsimp only
        split
        · exact f.cutAt?_apply (List.cons_ne_nil _ _)
            (fun b hb => List.mem_singleton.mp hb ▸ hquote) inside
        · rfl
      · obtain ⟨x, xs, himage, hupper⟩ := f.exists_image hquote
        have hne : ∀ b, ¬ IsAscii b → ¬ (b = 0x22 ∨ b = 0x27) := by
          rintro b hb (rfl | rfl)
          · exact hb (by decide)
          · exact hb (by decide)
        rw [f.apply_cons, himage, List.cons_append]
        dsimp only
        rw [if_neg (hne x (hupper x List.mem_cons_self)), if_neg (hne quote hquote)]
        rfl

/-- The bytes of a name's first byte are bytes of the name. -/
theorem exists_image_first (first : UInt8) :
    ∃ x xs, f.image first = x :: xs ∧ ∀ b ∈ xs, isNameByte b = true := by
  by_cases hfirst : IsAscii first
  · exact ⟨first, [], f.ascii hfirst, by simp⟩
  · obtain ⟨x, xs, himage, hupper⟩ := f.exists_image hfirst
    exact ⟨x, xs, himage, fun b hb => isNameByte_upper (hupper b (List.mem_cons_of_mem x hb))⟩

theorem next?_apply (bytes : Bytes) :
    next? (f.apply bytes) = (next? bytes).map (Prod.map (recode f) f.apply) := by
  rw [next?_eq, next?_eq, f.dropWhile_apply .isTagBlank]
  cases bytes.dropWhile Bytes.isTagBlank with
  | nil => rfl
  | cons first more =>
      obtain ⟨x, xs, himage, hxs⟩ := exists_image_first f first
      rw [f.apply_cons, himage, List.cons_append]
      dsimp only [named?]
      rw [List.dropWhile_append_of_pos hxs, List.takeWhile_append_of_pos hxs,
        f.dropWhile_apply isAsciiTest_isNameByte, f.takeWhile_apply isAsciiTest_isNameByte,
        f.dropWhile_apply .isTagBlank]
      simp only [f.head?_apply_eq_some_iff (c := 0x3D) (by decide)]
      split
      · next hequals =>
        rw [f.tail_apply (by decide) hequals, quoted?_apply, Option.map_map, Option.map_map]
        refine congrArg (Option.map · _) (funext fun parts => ?_)
        simp only [Function.comp, Prod.map, recode, f.apply_cons, himage, List.cons_append]
      · rfl

theorem all_apply (bytes : Bytes) : all (f.apply bytes) = (all bytes).map (recode f) := by
  fun_induction all bytes with
  | case1 bytes hnone =>
      have hnone' : next? (f.apply bytes) = none := by rw [next?_apply, hnone, Option.map_none]
      rw [all]
      split
      · rfl
      · next hsome => cases hnone'.symm.trans hsome
  | case2 bytes first rest hsome ih =>
      have hsome' : next? (f.apply bytes) = some (first.recode f, f.apply rest) := by
        rw [next?_apply, hsome]
        rfl
      rw [all_of_next? hsome', ih, List.map_cons]

theorem value?_apply {name : Bytes} (hname : AllAscii name) (bytes : Bytes) :
    value? name (f.apply bytes) = (value? name bytes).map f.apply := by
  have hsame : (fun a : Attribute => decide (a.name = name)) ∘ recode f =
      fun a => decide (a.name = name) :=
    funext fun a => decide_eq_decide.mpr (f.apply_eq_ascii_iff hname)
  rw [value?, all_apply, List.find?_map, hsame, Option.map_map, value?, Option.map_map]
  rfl

end Attribute

/-! ### Declared encodings -/

theorem normalLabel_apply (label : Bytes) :
    Text.Encoding.normalLabel (f.apply label) = f.apply (Text.Encoding.normalLabel label) := by
  rw [Text.Encoding.normalLabel, f.cutEnds_apply .isAsciiBlank, f.lower_apply]
  rfl

theorem allAscii_labels : ∀ entry ∈ Text.Encoding.labels, ∀ name ∈ entry.2,
    AllAscii (Bytes.ofText name) := by
  unfold Text.Encoding.labels
  simp only [List.forall_mem_cons]
  and_intros
  -- The characters of each label one by one: a text is slow to evaluate.
  all_goals first | rw [Bytes.ofText, String.toList_ofList]; decide | exact List.forall_mem_nil _

theorem ofLabel?_apply (label : Bytes) :
    Text.Encoding.ofLabel? (f.apply label) = Text.Encoding.ofLabel? label := by
  have htest : ∀ entry ∈ Text.Encoding.labels,
      (entry.2.any fun name => Bytes.ofText name == f.apply (Text.Encoding.normalLabel label)) =
        entry.2.any fun name => Bytes.ofText name == Text.Encoding.normalLabel label := by
    intro entry hentry
    rw [Bool.eq_iff_iff, List.any_eq_true, List.any_eq_true]
    refine exists_congr fun name => and_congr_right fun hname => ?_
    rw [beq_iff_eq, beq_iff_eq, eq_comm,
      f.apply_eq_ascii_iff (allAscii_labels _ hentry name hname), eq_comm]
  unfold Text.Encoding.ofLabel?
  rw [normalLabel_apply]
  dsimp only
  rw [← List.head?_filter, ← List.head?_filter, List.filter_congr htest]

/-- A label that is its own normal form is looked up among the labels. -/
theorem ofLabel?_ofText {label : String} {i : Nat}
    (hlabel : Text.Encoding.normalLabel (Bytes.ofText label) = Bytes.ofText label)
    (hi : Text.Encoding.labels.findIdx (·.2.contains label) = i) :
    Text.Encoding.ofLabel? (Bytes.ofText label) = Text.Encoding.labels[i]?.map (·.1) := by
  have htest : ∀ entry : Text.Encoding × List String,
      (entry.2.any fun name => Bytes.ofText name == Bytes.ofText label) =
        entry.2.contains label := by
    intro entry
    rw [Bool.eq_iff_iff, List.any_eq_true, List.contains_iff_mem]
    constructor
    · rintro ⟨name, hname, heq⟩
      rwa [← Text.Utf8.ofText_inj (beq_iff_eq.mp heq)]
    · exact fun hmem => ⟨label, hmem, BEq.rfl⟩
  unfold Text.Encoding.ofLabel?
  rw [hlabel]
  dsimp only
  rw [funext htest, List.find?_eq_getElem?_findIdx, hi]

/-- A declaration names the same encoding. -/
theorem declared?_apply (body : Bytes) :
    Context.declared? (f.apply body) = Context.declared? body := by
  rw [Context.declared?, Attribute.value?_apply f (by decide), Option.bind_map, Context.declared?]
  exact congrArg _ (funext (ofLabel?_apply f))

end TierAudit.Markup
