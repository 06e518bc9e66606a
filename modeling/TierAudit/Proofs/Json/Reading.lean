import TierAudit.Text.Numeral

/-!
# JSON — reading

A reader of JSON: of all its texts, numbers and blanks, not only of those that are written here.  A
document is cut into tokens, and the tokens are read by a machine that keeps one frame for each
bracket that is still open.
-/

namespace TierAudit.Json
open Text

/-- What a document says.  A number is `mantissa * 10 ^ exponent`, and members keep their order. -/
inductive Value where
  | null
  | bool (b : Bool)
  | number (mantissa exponent : Int)
  | text (s : String)
  | array (items : List Value)
  | object (members : List (String × Value))

/-- A piece of a document: a value without parts, or punctuation. -/
inductive Token where
  | value (v : Value)
  | openArray
  | closeArray
  | openObject
  | closeObject
  | comma
  | colon

/-! ### Texts -/

/-- The character that a letter behind a backslash stands for. -/
def letter? : Char → Option Char
  | '"' => some '"'
  | '\\' => some '\\'
  | '/' => some '/'
  | 'b' => some '\x08'
  | 'f' => some '\x0c'
  | 'n' => some '\n'
  | 'r' => some '\r'
  | 't' => some '\t'
  | _ => none

/-- Four hexadecimal digits. -/
def unit? : List Char → Option (Nat × List Char)
  | a :: b :: c :: d :: rest => do
    let digits ← [a, b, c, d].mapM (Numeral.digit? 16)
    return (digits.foldl (fun n digit => 16 * n + digit) 0, rest)
  | _ => none

/-- The character of a number. -/
def ofCode? (code : Nat) : Option Char :=
  if h : code.isValidChar then some (Char.ofNatAux code h) else none

/-- The character that hexadecimal digits stand for.  Beyond four digits it is written in two
halves, and neither stands alone. -/
def numbered? (cs : List Char) : Option (Char × List Char) :=
  match unit? cs with
  | none => none
  | some (unit, rest) =>
    if 0xD800 ≤ unit ∧ unit < 0xDC00 then
      match rest with
      | '\\' :: 'u' :: rest =>
        match unit? rest with
        | none => none
        | some (low, rest) =>
          if 0xDC00 ≤ low ∧ low < 0xE000 then
            (ofCode? (0x10000 + (unit - 0xD800) * 0x400 + (low - 0xDC00))).map (·, rest)
          else none
      | _ => none
    else (ofCode? unit).map (·, rest)

/-- The character that is escaped by a backslash. -/
def escaped? : List Char → Option (Char × List Char)
  | [] => none
  | c :: rest => if c = 'u' then numbered? rest else (letter? c).map (·, rest)

theorem length_of_unit? {cs rest : List Char} {unit : Nat} (h : unit? cs = some (unit, rest)) :
    rest.length < cs.length := by
  unfold unit? at h
  split at h
  · obtain ⟨digits, -, h⟩ := Option.bind_eq_some_iff.mp h
    cases h
    simp only [List.length_cons]
    omega
  · cases h

theorem length_of_numbered? {cs rest : List Char} {c : Char} (h : numbered? cs = some (c, rest)) :
    rest.length < cs.length := by
  unfold numbered? at h
  split at h
  · cases h
  · next unit after hunit =>
    have hlt := length_of_unit? hunit
    split at h
    · split at h
      · split at h
        · cases h
        · next low end' hlow =>
          have hlow := length_of_unit? hlow
          split at h
          · obtain ⟨c', -, hc⟩ := Option.map_eq_some_iff.mp h
            cases hc
            simp only [List.length_cons] at hlt
            omega
          · cases h
      · cases h
    · obtain ⟨c', -, hc⟩ := Option.map_eq_some_iff.mp h
      cases hc
      exact hlt

theorem length_of_escaped? {cs rest : List Char} {c : Char} (h : escaped? cs = some (c, rest)) :
    rest.length < cs.length := by
  cases cs with
  | nil => cases h
  | cons a cs =>
      rw [List.length_cons]
      rw [escaped?] at h
      split at h
      · exact Nat.lt_succ_of_lt (length_of_numbered? h)
      · obtain ⟨c', -, hc⟩ := Option.map_eq_some_iff.mp h
        cases hc
        exact Nat.lt_succ_self _

/-- The characters up to a quotation mark.  Controls have to be escaped. -/
def chars? (cs : List Char) : Option (List Char × List Char) :=
  match cs with
  | [] => none
  | c :: rest =>
    if c = '"' then some ([], rest)
    else if c = '\\' then
      match _h : escaped? rest with
      | none => none
      | some (c, rest) => (chars? rest).map fun (cs, rest) => (c :: cs, rest)
    else if c.toNat < 0x20 then none
    else (chars? rest).map fun (cs, rest) => (c :: cs, rest)
termination_by cs.length
decreasing_by
  · exact Nat.lt_succ_of_lt (length_of_escaped? _h)
  · exact Nat.lt_succ_self _

/-! ### Numbers -/

/-- Digits, at least one. -/
def digits? (cs : List Char) : Option (List Char × List Char) :=
  match cs.takeWhile Char.isDigit with
  | [] => none
  | digits => some (digits, cs.dropWhile Char.isDigit)

/-- Digits without a zero in front. -/
def whole? : List Char → Option (List Char × List Char)
  | '0' :: rest => some (['0'], rest)
  | cs => digits? cs

/-- The digits behind the point, if there is one. -/
def fraction? : List Char → Option (List Char × List Char)
  | '.' :: rest => digits? rest
  | cs => some ([], cs)

/-- A sign that may stand in front of an exponent, and whether it is a minus sign. -/
def sign : List Char → Bool × List Char
  | '-' :: rest => (true, rest)
  | '+' :: rest => (false, rest)
  | cs => (false, cs)

/-- The negative of a number, if that is asked for. -/
def signed (negative : Bool) (n : Nat) : Int := if negative then -(n : Int) else n

/-- The exponent, if there is one. -/
def exponent? : List Char → Option (Int × List Char)
  | [] => some (0, [])
  | c :: rest =>
    if c = 'e' ∨ c = 'E' then
      let (negative, rest) := sign rest
      (digits? rest).map fun (digits, rest) =>
        (signed negative (Nat.ofDigitChars 10 digits 0), rest)
    else some (0, c :: rest)

/-- A number without a sign in front. -/
def unsigned? (negative : Bool) (cs : List Char) : Option (Value × List Char) := do
  let (whole, cs) ← whole? cs
  let (fraction, cs) ← fraction? cs
  let (exponent, cs) ← exponent? cs
  let mantissa := signed negative (Nat.ofDigitChars 10 (whole ++ fraction) 0)
  return (.number mantissa (exponent - fraction.length), cs)

def number? : List Char → Option (Value × List Char)
  | '-' :: rest => unsigned? true rest
  | cs => unsigned? false cs

/-! ### Tokens -/

/-- A blank between tokens. -/
def isBlank (c : Char) : Bool := c = ' ' || c = '\t' || c = '\n' || c = '\r'

def punctuation? : Char → Option Token
  | '[' => some .openArray
  | ']' => some .closeArray
  | '\x7b' => some .openObject
  | '\x7d' => some .closeObject
  | ',' => some .comma
  | ':' => some .colon
  | _ => none

/-- The values that have a name. -/
def words : List (List Char × Value) :=
  [("null".toList, .null), ("true".toList, .bool true), ("false".toList, .bool false)]

def word? (cs : List Char) : Option (Value × List Char) :=
  words.findSome? fun (word, value) =>
    if word.isPrefixOf cs then some (value, cs.drop word.length) else none

/-- A value without parts.  Its first character tells of what kind it is. -/
def scalar? (c : Char) (rest : List Char) : Option (Value × List Char) :=
  if c = '"' then (chars? rest).map fun (cs, rest) => (.text (String.ofList cs), rest)
  else if c = '-' ∨ c.isDigit then number? (c :: rest)
  else word? (c :: rest)

/-- The token that begins with a character. -/
def token? (c : Char) (rest : List Char) : Option (Token × List Char) :=
  match punctuation? c with
  | some token => some (token, rest)
  | none => (scalar? c rest).map fun (value, rest) => (.value value, rest)

theorem length_of_chars? {cs text rest : List Char} (h : chars? cs = some (text, rest)) :
    rest.length < cs.length := by
  fun_induction chars? cs generalizing text with
  | case1 => cases h
  | case2 =>
      cases h
      exact Nat.lt_succ_self _
  | case3 => cases h
  | case4 _ c after hescaped _ ih =>
      obtain ⟨⟨text', rest'⟩, hchars, heq⟩ := Option.map_eq_some_iff.mp h
      cases heq
      exact Nat.lt_succ_of_lt (Nat.lt_trans (ih hchars) (length_of_escaped? hescaped))
  | case5 => cases h
  | case6 c after _ _ _ ih =>
      obtain ⟨⟨text', rest'⟩, hchars, heq⟩ := Option.map_eq_some_iff.mp h
      cases heq
      exact Nat.lt_succ_of_lt (ih hchars)

theorem length_of_digits? {cs digits rest : List Char} (h : digits? cs = some (digits, rest)) :
    rest.length < cs.length := by
  have hlength := congrArg List.length
    (List.takeWhile_append_dropWhile (p := Char.isDigit) (l := cs))
  unfold digits? at h
  split at h
  · cases h
  · next hne =>
    cases h
    have hpos := List.length_pos_iff.mpr hne
    rw [List.length_append] at hlength
    omega

theorem length_of_whole? {cs digits rest : List Char} (h : whole? cs = some (digits, rest)) :
    rest.length < cs.length := by
  unfold whole? at h
  split at h
  · cases h
    exact Nat.lt_succ_self _
  · exact length_of_digits? h

theorem length_of_fraction? {cs digits rest : List Char} (h : fraction? cs = some (digits, rest)) :
    rest.length ≤ cs.length := by
  unfold fraction? at h
  split at h
  · exact Nat.le_succ_of_le (Nat.le_of_lt (length_of_digits? h))
  · cases h
    exact Nat.le_refl _

theorem length_sign (cs : List Char) : (sign cs).2.length ≤ cs.length := by
  unfold sign
  split
  · exact Nat.le_succ _
  · exact Nat.le_succ _
  · exact Nat.le_refl _

theorem length_of_exponent? {cs rest : List Char} {exponent : Int}
    (h : exponent? cs = some (exponent, rest)) : rest.length ≤ cs.length := by
  cases cs with
  | nil =>
      cases h
      exact Nat.le_refl _
  | cons c cs =>
      rw [exponent?] at h
      split at h
      · obtain ⟨⟨digits, rest'⟩, hdigits, heq⟩ := Option.map_eq_some_iff.mp h
        cases heq
        have hsign := length_sign cs
        have hlt : rest.length < (sign cs).2.length := length_of_digits? hdigits
        rw [List.length_cons]
        omega
      · cases h
        exact Nat.le_refl _

theorem length_of_unsigned? {negative : Bool} {cs rest : List Char} {value : Value}
    (h : unsigned? negative cs = some (value, rest)) : rest.length < cs.length := by
  obtain ⟨⟨whole, after⟩, hwhole, h⟩ := Option.bind_eq_some_iff.mp h
  obtain ⟨⟨fraction, after'⟩, hfraction, h⟩ := Option.bind_eq_some_iff.mp h
  obtain ⟨⟨exponent, after''⟩, hexponent, h⟩ := Option.bind_eq_some_iff.mp h
  cases h
  exact Nat.lt_of_le_of_lt
    (Nat.le_trans (length_of_exponent? hexponent) (length_of_fraction? hfraction))
    (length_of_whole? hwhole)

theorem length_of_number? {cs rest : List Char} {value : Value}
    (h : number? cs = some (value, rest)) : rest.length < cs.length := by
  unfold number? at h
  split at h
  · exact Nat.lt_succ_of_lt (length_of_unsigned? h)
  · exact length_of_unsigned? h

theorem length_of_word? {c : Char} {cs rest : List Char} {value : Value}
    (h : word? (c :: cs) = some (value, rest)) : rest.length < (c :: cs).length := by
  obtain ⟨⟨word, value'⟩, hmem, h⟩ := List.exists_of_findSome?_eq_some h
  have hpos : 0 < word.length := by
    simp only [words, List.mem_cons, Prod.mk.injEq, List.not_mem_nil, or_false] at hmem
    rcases hmem with ⟨rfl, -⟩ | ⟨rfl, -⟩ | ⟨rfl, -⟩ <;> decide
  simp only [Option.ite_none_right_eq_some, Option.some.injEq, Prod.mk.injEq] at h
  obtain ⟨-, -, rfl⟩ := h
  rw [List.length_drop, List.length_cons]
  omega

theorem length_of_token? {c : Char} {cs rest : List Char} {token : Token}
    (h : token? c cs = some (token, rest)) : rest.length < (c :: cs).length := by
  unfold token? at h
  split at h
  · cases h
    exact Nat.lt_succ_self _
  · obtain ⟨⟨value, rest'⟩, hscalar, heq⟩ := Option.map_eq_some_iff.mp h
    cases heq
    unfold scalar? at hscalar
    split at hscalar
    · obtain ⟨⟨text, rest''⟩, hchars, heq⟩ := Option.map_eq_some_iff.mp hscalar
      cases heq
      exact Nat.lt_succ_of_lt (length_of_chars? hchars)
    · split at hscalar
      · exact length_of_number? hscalar
      · exact length_of_word? hscalar

/-- The tokens of a document. -/
def tokens? (cs : List Char) : Option (List Token) :=
  match cs with
  | [] => some []
  | c :: rest =>
    if isBlank c then tokens? rest
    else
      match _h : token? c rest with
      | none => none
      | some (token, rest) => (tokens? rest).map (token :: ·)
termination_by cs.length
decreasing_by
  · exact Nat.lt_succ_self _
  · exact length_of_token? _h

/-! ### Values -/

/-- What has been read of an array or object in which a value is due. -/
inductive Frame where
  | array (items : List Value)
  | object (members : List (String × Value)) (name : String)

/-- What is due, in front of the open brackets from the innermost. -/
inductive State where
  | value (frames : List Frame)
  /-- The name of the next member. -/
  | member (members : List (String × Value)) (frames : List Frame)
  | colon (members : List (String × Value)) (name : String) (frames : List Frame)
  /-- A value is complete. -/
  | full (v : Value) (frames : List Frame)

/-- Reads a token.  A bracket may be closed without an item or a member, or behind one. -/
def State.next? : State → Token → Option State
  | .value frames, .value v => some (.full v frames)
  | .value frames, .openArray => some (.value (.array [] :: frames))
  | .value frames, .openObject => some (.member [] frames)
  | .value (.array [] :: frames), .closeArray => some (.full (.array []) frames)
  | .member members frames, .value (.text name) => some (.colon members name frames)
  | .member [] frames, .closeObject => some (.full (.object []) frames)
  | .colon members name frames, .colon => some (.value (.object members name :: frames))
  | .full v (.array items :: frames), .comma => some (.value (.array (items ++ [v]) :: frames))
  | .full v (.array items :: frames), .closeArray => some (.full (.array (items ++ [v])) frames)
  | .full v (.object members name :: frames), .comma =>
    some (.member (members ++ [(name, v)]) frames)
  | .full v (.object members name :: frames), .closeObject =>
    some (.full (.object (members ++ [(name, v)])) frames)
  | _, _ => none

/-- The value of a document that has been read to its end. -/
def State.result? : State → Option Value
  | .full v [] => some v
  | _ => none

/-- The value that a document says. -/
def read? (document : String) : Option Value := do
  let tokens ← tokens? document.toList
  let state ← tokens.foldlM State.next? (.value [])
  state.result?

end TierAudit.Json
