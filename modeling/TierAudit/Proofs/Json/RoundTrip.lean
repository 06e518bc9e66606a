import TierAudit.Json
import TierAudit.Proofs.Json.Reading
import TierAudit.Text.Blank

/-!
# JSON — written and read

What is read of a written value is the value, in either layout (`read?_render`): the text is cut
into the tokens of the value (`tokens?_renderAt`), and the machine reads them as the value, whatever
brackets are open around it (`foldlM_tokens`).
-/

namespace TierAudit.Json
open Text

/-! ### What is read -/

mutual

/-- What a value says when it is read. -/
def value : Json → Value
  | null => .null
  | number n => .number n 0
  | text s => .text s
  | array items => .array (values items)
  | object members => .object (memberValues members)

def values : List Json → List Value
  | [] => []
  | item :: items => value item :: values items

def memberValues : List (String × Json) → List (String × Value)
  | [] => []
  | (name, json) :: members => (name, value json) :: memberValues members

end

@[simp] theorem values_eq_map (items : List Json) : values items = items.map value := by
  induction items with
  | nil => rfl
  | cons item items ih => rw [values, ih, List.map_cons]

@[simp] theorem memberValues_eq_map (members : List (String × Json)) :
    memberValues members = members.map fun (name, json) => (name, value json) := by
  induction members with
  | nil => rfl
  | cons member members ih => rw [memberValues, ih, List.map_cons]

mutual

/-- The tokens that a value is written with. -/
def tokens : Json → List Token
  | null => [.value .null]
  | number n => [.value (.number n 0)]
  | text s => [.value (.text s)]
  | array [] => [.openArray, .closeArray]
  | array (item :: items) => .openArray :: (tokens item ++ (itemTokens items ++ [.closeArray]))
  | object [] => [.openObject, .closeObject]
  | object ((name, json) :: members) =>
    .openObject :: .value (.text name) :: .colon ::
      (tokens json ++ (memberTokens members ++ [.closeObject]))

/-- The items of an array after the first. -/
def itemTokens : List Json → List Token
  | [] => []
  | item :: items => .comma :: (tokens item ++ itemTokens items)

/-- The members of an object after the first. -/
def memberTokens : List (String × Json) → List Token
  | [] => []
  | (name, json) :: members =>
    .comma :: .value (.text name) :: .colon :: (tokens json ++ memberTokens members)

end

/-! ### Reading the tokens -/

mutual

/-- Whatever brackets are open, the tokens of a value are read as the value. -/
theorem foldlM_tokens (json : Json) (frames : List Frame) :
    json.tokens.foldlM State.next? (.value frames) = some (.full json.value frames) := by
  cases json with
  | null => rfl
  | number n => rfl
  | text s => rfl
  | array items =>
      cases items with
      | nil => rfl
      | cons item items =>
          rw [tokens, value, List.foldlM_cons]
          change (tokens item ++ _).foldlM State.next? (.value (.array [] :: frames)) = _
          rw [List.foldlM_append, foldlM_tokens item]
          exact foldlM_itemTokens items (value item) [] frames
  | object members =>
      cases members with
      | nil => rfl
      | cons member members =>
          rw [tokens, value, List.foldlM_cons]
          change (tokens member.2 ++ _).foldlM State.next?
            (.value (.object [] member.1 :: frames)) = _
          rw [List.foldlM_append, foldlM_tokens member.2]
          exact foldlM_memberTokens members (value member.2) member.1 [] frames

/-- Behind a complete item the rest of an array is read up to its bracket. -/
theorem foldlM_itemTokens (items : List Json) (v : Value) (done : List Value)
    (frames : List Frame) :
    (itemTokens items ++ [Token.closeArray]).foldlM State.next? (.full v (.array done :: frames)) =
      some (.full (.array (done ++ v :: values items)) frames) := by
  cases items with
  | nil => rfl
  | cons item items =>
      rw [itemTokens, List.cons_append, List.foldlM_cons, List.append_assoc]
      change (tokens item ++ _).foldlM State.next? (.value (.array (done ++ [v]) :: frames)) = _
      rw [List.foldlM_append, foldlM_tokens item]
      refine (foldlM_itemTokens items (value item) (done ++ [v]) frames).trans ?_
      rw [values, List.append_assoc, List.singleton_append]

/-- Behind a complete member the rest of an object is read up to its bracket. -/
theorem foldlM_memberTokens (members : List (String × Json)) (v : Value) (name : String)
    (done : List (String × Value)) (frames : List Frame) :
    (memberTokens members ++ [Token.closeObject]).foldlM State.next?
        (.full v (.object done name :: frames)) =
      some (.full (.object (done ++ (name, v) :: memberValues members)) frames) := by
  cases members with
  | nil => rfl
  | cons member members =>
      rw [memberTokens, List.cons_append, List.cons_append, List.cons_append, List.foldlM_cons,
        List.append_assoc]
      change (tokens member.2 ++ _).foldlM State.next?
        (.value (.object (done ++ [(name, v)]) member.1 :: frames)) = _
      rw [List.foldlM_append, foldlM_tokens member.2]
      refine (foldlM_memberTokens members (value member.2) member.1 (done ++ [(name, v)])
        frames).trans ?_
      rw [memberValues, List.append_assoc, List.singleton_append]

end

/-! ### Cutting texts -/

theorem digit?_hexDigit : ∀ n < 16, Numeral.digit? 16 (hexDigit n) = some n := by decide

theorem chars?_of_escaped? {cs rest : List Char} {c : Char} (h : escaped? cs = some (c, rest)) :
    chars? ('\\' :: cs) = (chars? rest).map fun (cs, rest) => (c :: cs, rest) := by
  rw [chars?, if_neg (by decide), if_pos rfl]
  split
  · next hnone => cases h.symm.trans hnone
  · next c' rest' hsome =>
    cases h.symm.trans hsome
    rfl

theorem ofCode?_toNat (c : Char) : ofCode? c.toNat = some c := by
  have hvalid : c.toNat.isValidChar := c.valid
  rw [ofCode?, dif_pos hvalid]
  rfl

/-- A control that is escaped by its number. -/
theorem escaped?_control {c : Char} (h : c.toNat < 0x20) (rest : List Char) :
    escaped? ('u' :: '0' :: '0' :: hexDigit (c.toNat / 16) :: hexDigit (c.toNat % 16) :: rest) =
      some (c, rest) := by
  have hunit : unit? ('0' :: '0' :: hexDigit (c.toNat / 16) :: hexDigit (c.toNat % 16) :: rest) =
      some (c.toNat, rest) := by
    have hhigh := digit?_hexDigit (c.toNat / 16) (by omega)
    have hlow := digit?_hexDigit (c.toNat % 16) (by omega)
    have hzero : Numeral.digit? 16 '0' = some 0 := by decide
    have hcode : 16 * (c.toNat / 16) + c.toNat % 16 = c.toNat := Nat.div_add_mod ..
    simp [unit?, hhigh, hlow, hzero, hcode]
  have hlow : ¬ (0xD800 ≤ c.toNat ∧ c.toNat < 0xDC00) := by omega
  rw [escaped?, if_pos rfl, numbered?, hunit]
  simp only [hlow, if_false, ofCode?_toNat, Option.map_some]

/-- An escaped character is read as it is. -/
theorem chars?_escapeChar (c : Char) (rest : List Char) :
    chars? (escapeChar c ++ rest) = (chars? rest).map fun (cs, rest) => (c :: cs, rest) := by
  unfold escapeChar
  split
  · exact chars?_of_escaped? rfl
  · exact chars?_of_escaped? rfl
  · exact chars?_of_escaped? rfl
  · exact chars?_of_escaped? rfl
  · exact chars?_of_escaped? rfl
  · exact chars?_of_escaped? rfl
  · exact chars?_of_escaped? rfl
  · next hquote hbackslash _ _ _ _ _ =>
    split
    · next hcontrol => exact chars?_of_escaped? (escaped?_control hcontrol rest)
    · next hcontrol =>
      rw [List.singleton_append, chars?, if_neg hquote, if_neg hbackslash, if_neg hcontrol]

/-- A quoted text is read up to its quotation mark. -/
theorem chars?_escaped (cs rest : List Char) :
    chars? (cs.flatMap escapeChar ++ '"' :: rest) = some (cs, rest) := by
  induction cs with
  | nil =>
      rw [List.flatMap_nil, List.nil_append, chars?, if_pos rfl]
  | cons c cs ih =>
      rw [List.flatMap_cons, List.append_assoc, chars?_escapeChar, ih]
      rfl

/-! ### Cutting numbers -/

/-- A number may end in front of what is left. -/
def EndsNumber (rest : List Char) : Prop :=
  ∀ c ∈ rest.head?, c.isDigit = false ∧ c ≠ '.' ∧ c ≠ 'e' ∧ c ≠ 'E'

theorem EndsNumber.takeWhile_isDigit {rest : List Char} (h : EndsNumber rest) :
    rest.takeWhile Char.isDigit = [] := by
  cases rest with
  | nil => rfl
  | cons c rest => rw [List.takeWhile_cons, (h c rfl).1, if_neg Bool.false_ne_true]

theorem EndsNumber.dropWhile_isDigit {rest : List Char} (h : EndsNumber rest) :
    rest.dropWhile Char.isDigit = rest :=
  dropWhile_eq_self_of_head fun c hc => (h c hc).1

theorem isDigit_of_mem_toDigits {n : Nat} {c : Char} (h : c ∈ Nat.toDigits 10 n) :
    c.isDigit = true :=
  Nat.isDigit_of_mem_toDigits (by decide) (by decide) h

theorem exists_digit (n : Nat) :
    ∃ c digits, Nat.toDigits 10 n = c :: digits ∧ c.isDigit = true := by
  obtain ⟨c, digits, heq⟩ := List.exists_cons_of_ne_nil (Nat.toDigits_ne_nil (n := n) (b := 10))
  exact ⟨c, digits, heq, isDigit_of_mem_toDigits (heq ▸ List.mem_cons_self)⟩

/-- The first digit of a number is a zero only if it is the only one. -/
theorem toDigits_eq_zero_or (n : Nat) :
    Nat.toDigits 10 n = ['0'] ∨ ∃ c digits, Nat.toDigits 10 n = c :: digits ∧ c ≠ '0' := by
  induction n using Nat.strongRecOn with
  | ind n ih =>
      by_cases hsmall : n < 10
      · rw [Nat.toDigits_of_lt_base hsmall]
        by_cases hzero : n.digitChar = '0'
        · exact .inl (by rw [hzero])
        · exact .inr ⟨_, _, rfl, hzero⟩
      · rw [Nat.toDigits_of_base_le (by decide) (by omega)]
        rcases ih (n / 10) (by omega) with hzero | ⟨c, digits, heq, hne⟩
        · have hvalue : n / 10 = 0 := by
            rw [← Nat.ofDigitChars_ten_toDigits (n := n / 10), hzero]
            rfl
          omega
        · exact .inr ⟨c, _, by rw [heq, List.cons_append], hne⟩

theorem digits?_toDigits (n : Nat) {rest : List Char} (h : EndsNumber rest) :
    digits? (Nat.toDigits 10 n ++ rest) = some (Nat.toDigits 10 n, rest) := by
  have htake : (Nat.toDigits 10 n ++ rest).takeWhile Char.isDigit = Nat.toDigits 10 n := by
    rw [List.takeWhile_append_of_pos fun _ => isDigit_of_mem_toDigits, h.takeWhile_isDigit,
      List.append_nil]
  have hdrop : (Nat.toDigits 10 n ++ rest).dropWhile Char.isDigit = rest := by
    rw [List.dropWhile_append_of_pos fun _ => isDigit_of_mem_toDigits, h.dropWhile_isDigit]
  unfold digits?
  rw [htake, hdrop]
  split
  · next hnil => exact absurd hnil Nat.toDigits_ne_nil
  · rfl

theorem whole?_toDigits (n : Nat) {rest : List Char} (h : EndsNumber rest) :
    whole? (Nat.toDigits 10 n ++ rest) = some (Nat.toDigits 10 n, rest) := by
  rcases toDigits_eq_zero_or n with hzero | ⟨c, digits, heq, hne⟩
  · rw [hzero]
    rfl
  · have hwhole : whole? (Nat.toDigits 10 n ++ rest) = digits? (Nat.toDigits 10 n ++ rest) := by
      rw [heq, List.cons_append, whole?]
      exact fun _ h => hne (List.cons.inj h).1
    rw [hwhole, digits?_toDigits n h]

/-- A number is read up to its last digit. -/
theorem number?_toDigits (n : Nat) {rest : List Char} (h : EndsNumber rest) :
    number? (Nat.toDigits 10 n ++ rest) = some (.number n 0, rest) := by
  have hfraction : fraction? rest = some ([], rest) := by
    unfold fraction?
    split
    · exact absurd rfl (h '.' rfl).2.1
    · rfl
  have hexponent : exponent? rest = some (0, rest) := by
    cases rest with
    | nil => rfl
    | cons c rest => rw [exponent?, if_neg (not_or.mpr (h c rfl).2.2)]
  have hunsigned : number? (Nat.toDigits 10 n ++ rest) =
      unsigned? false (Nat.toDigits 10 n ++ rest) := by
    unfold number?
    split
    · next rest' heq =>
      obtain ⟨c, digits, hdigits, hdigit⟩ := exists_digit n
      rw [hdigits, List.cons_append] at heq
      cases (List.cons.inj heq).1
      cases hdigit
    · rfl
  rw [hunsigned, unsigned?]
  simp [whole?_toDigits n h, hfraction, hexponent, signed, Nat.ofDigitChars_ten_toDigits]

/-! ### Cutting values -/

/-- The token that is read from a text in front of others. -/
theorem tokens?_of_token? {c : Char} {cs rest : List Char} {token : Token}
    (hblank : isBlank c = false) (h : token? c cs = some (token, rest)) :
    tokens? (c :: cs) = (tokens? rest).map (token :: ·) := by
  rw [tokens?, hblank, if_neg Bool.false_ne_true]
  split
  · next hnone => cases h.symm.trans hnone
  · next token' rest' hsome =>
    cases h.symm.trans hsome
    rfl

theorem tokens?_punctuation {s : String} {c : Char} {token : Token} (hs : s.toList = [c])
    (hblank : isBlank c = false) (h : punctuation? c = some token) (rest : List Char) :
    tokens? (s.toList ++ rest) = (tokens? rest).map (token :: ·) := by
  rw [hs, List.singleton_append]
  exact tokens?_of_token? hblank (by rw [token?, h])

theorem tokens?_blanks {blanks : List Char} (h : ∀ c ∈ blanks, isBlank c = true)
    (rest : List Char) : tokens? (blanks ++ rest) = tokens? rest := by
  induction blanks with
  | nil => rfl
  | cons c blanks ih =>
      rw [List.cons_append, tokens?, if_pos (h c List.mem_cons_self),
        ih fun c hc => h c (List.mem_cons_of_mem _ hc)]

theorem tokens?_lineBreak (layout : Layout) (depth : Nat) (rest : List Char) :
    tokens? ((layout.lineBreak depth).toList ++ rest) = tokens? rest := by
  refine tokens?_blanks (fun c hc => ?_) rest
  cases layout with
  | compact => cases hc
  | indented =>
      rw [Layout.lineBreak, String.toList_append, String.toList_ofList, List.mem_append] at hc
      rcases hc with hc | hc
      · cases List.mem_singleton.mp hc
        rfl
      · cases List.eq_of_mem_replicate (String.toList_ofList ▸ hc)
        rfl

theorem tokens?_quote (s : String) (rest : List Char) :
    tokens? ((quote s).toList ++ rest) = (tokens? rest).map (.value (.text s) :: ·) := by
  rw [quote, String.toList_ofList, List.append_assoc, List.cons_append]
  refine tokens?_of_token? (by decide) ?_
  have hscalar : scalar? '"' (s.toList.flatMap escapeChar ++ '"' :: rest) =
      some (.text s, rest) := by
    rw [scalar?, if_pos rfl, chars?_escaped, Option.map_some]
    simp only [String.ofList_toList]
  change (scalar? '"' _).map _ = _
  rw [List.singleton_append, hscalar, Option.map_some]

theorem tokens?_colon (layout : Layout) (rest : List Char) :
    tokens? (layout.colon.toList ++ rest) = (tokens? rest).map (.colon :: ·) := by
  cases layout with
  | compact => exact tokens?_of_token? rfl rfl
  | indented =>
      have htoken : token? ':' (' ' :: rest) = some (.colon, ' ' :: rest) := rfl
      have hblanks : ∀ c ∈ [' '], isBlank c = true := List.forall_mem_singleton.mpr rfl
      exact (tokens?_of_token? rfl htoken).trans (congrArg _ (tokens?_blanks hblanks rest))

/-- A digit begins a number and nothing else. -/
theorem token?_of_isDigit {c : Char} (h : c.isDigit = true) (rest : List Char) :
    isBlank c = false ∧ token? c rest =
      (number? (c :: rest)).map fun (value, rest) => (.value value, rest) := by
  have hpunctuation : punctuation? c = none := by
    unfold punctuation?
    split
    all_goals first | cases h | rfl
  have hquote : c ≠ '"' := by
    rintro rfl
    cases h
  refine ⟨?_, ?_⟩
  · rw [← Bool.not_eq_true, isBlank]
    simp only [Bool.or_eq_true, decide_eq_true_eq, not_or]
    refine ⟨⟨⟨?_, ?_⟩, ?_⟩, ?_⟩
    all_goals
      rintro rfl
      cases h
  · rw [token?, hpunctuation]
    simp only [scalar?, if_neg hquote, if_pos (Or.inr h : c = '-' ∨ c.isDigit = true)]

theorem tokens?_number (n : Nat) {rest : List Char} (h : EndsNumber rest) :
    tokens? ((toString n).toList ++ rest) = (tokens? rest).map (.value (.number n 0) :: ·) := by
  obtain ⟨c, digits, heq, hdigit⟩ := exists_digit n
  have htext : (toString n).toList = c :: digits := Nat.toList_repr.trans heq
  have hread : number? (c :: (digits ++ rest)) = some (.number n 0, rest) := by
    rw [← List.cons_append, ← heq, number?_toDigits n h]
  obtain ⟨hblank, htoken⟩ := token?_of_isDigit hdigit (digits ++ rest)
  rw [htext, List.cons_append]
  exact tokens?_of_token? hblank (by rw [htoken, hread, Option.map_some])

/-! ### Cutting whole values -/

/-- In front of a comma, a bracket or a line break a number ends. -/
theorem endsNumber_cons {c : Char} (h : c ∈ [',', ']', '\x7d', '\n']) (rest : List Char) :
    EndsNumber (c :: rest) := by
  intro c' hc'
  cases hc'
  simp only [List.mem_cons, List.not_mem_nil, or_false] at h
  rcases h with rfl | rfl | rfl | rfl <;> decide

theorem endsNumber_lineBreak (layout : Layout) (depth : Nat) {rest : List Char}
    (h : EndsNumber rest) : EndsNumber ((layout.lineBreak depth).toList ++ rest) := by
  cases layout with
  | compact => exact h
  | indented =>
      rw [Layout.lineBreak, String.toList_append, List.append_assoc]
      exact endsNumber_cons (by decide) _

theorem endsNumber_items (layout : Layout) (depth : Nat) (items : List Json) {rest : List Char}
    (h : EndsNumber rest) : EndsNumber ((renderItems layout depth items).toList ++ rest) := by
  cases items with
  | nil => exact h
  | cons item items =>
      simp only [renderItems, String.toList_append, List.append_assoc]
      exact endsNumber_cons (by decide) _

theorem endsNumber_members (layout : Layout) (depth : Nat) (members : List (String × Json))
    {rest : List Char} (h : EndsNumber rest) :
    EndsNumber ((renderMembers layout depth members).toList ++ rest) := by
  cases members with
  | nil => exact h
  | cons member members =>
      simp only [renderMembers, String.toList_append, List.append_assoc]
      exact endsNumber_cons (by decide) _

mutual

/-- A written value is cut into its tokens, in front of whatever does not lengthen a number. -/
theorem tokens?_renderAt (layout : Layout) (depth : Nat) (json : Json) {rest : List Char}
    (h : EndsNumber rest) :
    tokens? ((renderAt layout depth json).toList ++ rest) =
      (tokens? rest).map (json.tokens ++ ·) := by
  cases json with
  | null =>
      rw [renderAt]
      have htoken : token? 'n' ('u' :: 'l' :: 'l' :: rest) = some (.value .null, rest) := by rfl
      exact tokens?_of_token? (by rfl) htoken
  | number n => exact tokens?_number n h
  | text s => exact tokens?_quote s rest
  | array items =>
      have hclose : EndsNumber ((layout.lineBreak depth).toList ++ ("]".toList ++ rest)) :=
        endsNumber_lineBreak layout depth (endsNumber_cons (by decide) rest)
      cases items with
      | nil =>
          have htext : (renderAt layout depth (array [])).toList = "[".toList ++ "]".toList := by
            rw [renderAt]
            rfl
          rw [htext, List.append_assoc, tokens?_punctuation rfl rfl rfl,
            tokens?_punctuation rfl rfl rfl, Option.map_map]
          rfl
      | cons item items =>
          simp only [renderAt, String.toList_append, List.append_assoc]
          rw [tokens?_punctuation rfl rfl rfl, tokens?_lineBreak,
            tokens?_renderAt layout (depth + 1) item
              (endsNumber_items layout (depth + 1) items hclose),
            tokens?_renderItems layout (depth + 1) items hclose, tokens?_lineBreak,
            tokens?_punctuation rfl rfl rfl]
          simp only [Option.map_map, Function.comp_def, tokens, List.cons_append,
            List.append_assoc, List.nil_append]
  | object members =>
      have hclose : EndsNumber ((layout.lineBreak depth).toList ++ ("\x7d".toList ++ rest)) :=
        endsNumber_lineBreak layout depth (endsNumber_cons (by decide) rest)
      cases members with
      | nil =>
          have htext : (renderAt layout depth (object [])).toList =
              "\x7b".toList ++ "\x7d".toList := by
            rw [renderAt]
            rfl
          rw [htext, List.append_assoc, tokens?_punctuation rfl rfl rfl,
            tokens?_punctuation rfl rfl rfl, Option.map_map]
          rfl
      | cons member members =>
          obtain ⟨name, value⟩ := member
          simp only [renderAt, String.toList_append, List.append_assoc]
          rw [tokens?_punctuation rfl rfl rfl, tokens?_lineBreak, tokens?_quote, tokens?_colon,
            tokens?_renderAt layout (depth + 1) value
              (endsNumber_members layout (depth + 1) members hclose),
            tokens?_renderMembers layout (depth + 1) members hclose, tokens?_lineBreak,
            tokens?_punctuation rfl rfl rfl]
          simp only [Option.map_map, Function.comp_def, tokens, List.cons_append,
            List.append_assoc, List.nil_append]

theorem tokens?_renderItems (layout : Layout) (depth : Nat) (items : List Json)
    {rest : List Char} (h : EndsNumber rest) :
    tokens? ((renderItems layout depth items).toList ++ rest) =
      (tokens? rest).map (itemTokens items ++ ·) := by
  cases items with
  | nil =>
      rw [renderItems]
      exact Option.map_id'.symm
  | cons item items =>
      simp only [renderItems, String.toList_append, List.append_assoc]
      rw [tokens?_punctuation rfl rfl rfl, tokens?_lineBreak,
        tokens?_renderAt layout depth item (endsNumber_items layout depth items h),
        tokens?_renderItems layout depth items h]
      simp only [Option.map_map, Function.comp_def, itemTokens, List.cons_append,
        List.append_assoc]

theorem tokens?_renderMembers (layout : Layout) (depth : Nat) (members : List (String × Json))
    {rest : List Char} (h : EndsNumber rest) :
    tokens? ((renderMembers layout depth members).toList ++ rest) =
      (tokens? rest).map (memberTokens members ++ ·) := by
  cases members with
  | nil =>
      rw [renderMembers]
      exact Option.map_id'.symm
  | cons member members =>
      obtain ⟨name, value⟩ := member
      simp only [renderMembers, String.toList_append, List.append_assoc]
      rw [tokens?_punctuation rfl rfl rfl, tokens?_lineBreak, tokens?_quote, tokens?_colon,
        tokens?_renderAt layout depth value (endsNumber_members layout depth members h),
        tokens?_renderMembers layout depth members h]
      simp only [Option.map_map, Function.comp_def, memberTokens, List.cons_append,
        List.append_assoc]

end

end TierAudit.Json
