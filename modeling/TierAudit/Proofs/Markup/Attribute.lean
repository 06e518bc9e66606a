import TierAudit.Markup.Attribute
import TierAudit.Proofs.Markup.Escape
import TierAudit.Proofs.Markup.Scanning

/-!
# Markup — attributes, written and read

The attributes of a tag as texts.  A value is written escaped and between quotation marks, so that it
can hold any text: the attributes that are read from a tag are those that were written
(`readAttributes_append`), and the tag ends only behind them (`followsName_attributes`).
-/

namespace TierAudit.Markup
open Text

/-- The name and the value of an attribute, decoded and unescaped. -/
def Attribute.read? (encoding : Encoding) (written : Attribute) : Option (String × String) := do
  let name ← encoding.decode? written.name
  let value ← encoding.decode? written.value
  return (name, ← (unescape value).toOption)

/-- The attributes of a tag in order. -/
def Tag.readAttributes? (encoding : Encoding) (tag : Tag) : Option (List (String × String)) :=
  tag.attributes.mapM (·.read? encoding)

/-- Attributes as they stand in a tag, each with a blank in front of it. -/
def attributesMarkup : List (String × String) → String
  | [] => ""
  | (name, value) :: rest => " " ++ name ++ "=\"" ++ escape value ++ "\"" ++ attributesMarkup rest

/-- The bytes of an attribute and of what follows it. -/
theorem ofText_attributesMarkup_cons (name value : String) (rest : List (String × String))
    (after : Bytes) :
    Bytes.ofText (attributesMarkup ((name, value) :: rest)) ++ after =
      0x20 :: (Bytes.ofText name ++ 0x3D :: 0x22 :: (Bytes.ofText (escape value) ++
        0x22 :: (Bytes.ofText (attributesMarkup rest) ++ after))) := by
  simp only [attributesMarkup, Utf8.ofText_append, List.append_assoc,
    show Bytes.ofText " " = [0x20] from rfl, show Bytes.ofText "=\"" = [0x3D, 0x22] from rfl,
    show Bytes.ofText "\"" = [0x22] from rfl, List.cons_append, List.nil_append]

theorem quote_not_mem_ofText_escape (value : String) : 0x22 ∉ Bytes.ofText (escape value) :=
  fun hmem => not_mem_escape (c := '"') (by decide) (by decide) value
    (Utf8.mem_of_ofAscii_mem (by decide) hmem)

/-! ### Where the tag ends -/

/-- No tag ends between quotation marks. -/
theorem isPassed_quoted {value : Bytes} (h : 0x22 ∉ value) :
    IsPassed (0x22 :: (value ++ [0x22])) := by
  intro rest
  have hinside : cutTag? (some 0x22) (value ++ 0x22 :: rest) =
      (cutTag? none rest).map fun parts => (value ++ 0x22 :: parts.1, parts.2) := by
    induction value with
    | nil => simp [cutTag?]
    | cons b value ih =>
        rw [List.mem_cons, not_or] at h
        simp only [List.cons_append, cutTag?, Ne.symm h.1, if_false, ih h.2, Option.map_map]
        rfl
  have hopen : cutTag? none (0x22 :: (value ++ 0x22 :: rest)) =
      (cutTag? (some 0x22) (value ++ 0x22 :: rest)).map fun parts => (0x22 :: parts.1, parts.2) :=
    rfl
  rw [List.cons_append, List.append_assoc, List.singleton_append, hopen, hinside, Option.map_map]
  simp only [Function.comp_def, List.cons_append, List.append_assoc, List.nil_append]

/-- A tag goes on behind its attributes. -/
theorem followsName_attributes {attributes : List (String × String)} {after : Bytes}
    (h : ∀ pair ∈ attributes, IsPlainName (Bytes.ofText pair.1))
    (hafter : ∀ b ∈ after, Bytes.isTagBlank b = true) :
    FollowsName (Bytes.ofText (attributesMarkup attributes) ++ after) := by
  induction attributes with
  | nil => exact .of_blank hafter
  | cons pair rest ih =>
      obtain ⟨name, value⟩ := pair
      rw [List.forall_mem_cons] at h
      rw [ofText_attributesMarkup_cons]
      refine ⟨?_, fun b hb => ?_⟩
      · have hname : IsPassed (0x20 :: (Bytes.ofText name ++ [0x3D])) :=
          (show IsPassed [0x20] from .of_forall (by simp)).append
            (h.1.isPassed.append (.of_forall (by simp)))
        have hall := hname.append
          ((isPassed_quoted (quote_not_mem_ofText_escape value)).append (ih h.2).passed)
        simpa using hall
      · rw [List.head?_cons, Option.mem_some_iff] at hb
        rw [← hb]
        rfl

/-- Nor do they end in the slash of an element without content. -/
theorem getLast?_attributes {attributes : List (String × String)} {before : Bytes}
    (h : before.getLast? ≠ some 0x2F) :
    (before ++ Bytes.ofText (attributesMarkup attributes)).getLast? ≠ some 0x2F := by
  induction attributes generalizing before with
  | nil => rwa [attributesMarkup, Utf8.ofText_empty, List.append_nil]
  | cons pair rest ih =>
      obtain ⟨name, value⟩ := pair
      have hquote : (before ++ (0x20 :: (Bytes.ofText name ++
          0x3D :: 0x22 :: Bytes.ofText (escape value))) ++ [0x22]).getLast? ≠ some 0x2F := by
        rw [List.getLast?_concat]
        decide
      have hbytes := ofText_attributesMarkup_cons name value rest []
      rw [List.append_nil, List.append_nil] at hbytes
      rw [hbytes]
      simpa using ih hquote

/-! ### Reading them back -/

theorem all_of_next? {bytes rest : Bytes} {first : Attribute}
    (h : Attribute.next? bytes = some (first, rest)) :
    Attribute.all bytes = first :: Attribute.all rest := by
  rw [Attribute.all]
  split
  · next hnone => cases h.symm.trans hnone
  · next hsome =>
    cases h.symm.trans hsome
    rfl

theorem next?_attribute {name value : Bytes} (rest : Bytes) (hname : IsPlainName name)
    (hvalue : 0x22 ∉ value) :
    Attribute.next? (0x20 :: (name ++ 0x3D :: 0x22 :: (value ++ 0x22 :: rest))) =
      some (⟨name, value⟩, rest) := by
  obtain ⟨b, more, rfl⟩ := List.exists_cons_of_ne_nil hname.1
  have hblank : ∀ c ∈ b :: more, Bytes.isTagBlank c = false := fun c hc => hname.not_isTagBlank hc
  have hall : ∀ c ∈ more, Attribute.isNameByte c = true := by
    intro c hc
    have hne : c ≠ 0x3D := hname.ne (List.mem_cons_of_mem b hc) (by decide) (by decide)
    simp [Attribute.isNameByte, hne, hblank c (List.mem_cons_of_mem b hc)]
  have hstop : Attribute.isNameByte 0x3D = false := rfl
  have hcut : Bytes.cutAt? [0x22] (value ++ 0x22 :: rest) = some (value, rest) :=
    cutAt?_of_not_mem rest hvalue
  simp only [Attribute.next?, List.cons_append, List.dropWhile_cons,
    show Bytes.isTagBlank 0x20 = true from rfl, hblank b List.mem_cons_self, if_true,
    Bool.false_eq_true, if_false, List.dropWhile_append_of_pos hall,
    List.takeWhile_append_of_pos hall, List.takeWhile_cons, hstop,
    show Bytes.isTagBlank 0x3D = false from rfl, show Bytes.isTagBlank 0x22 = false from rfl,
    hcut, true_or, Option.map_some, List.append_nil]

/-- What is written of attributes, with blanks behind them, is read as their names and escaped
values. -/
theorem all_attributes {attributes : List (String × String)} {after : Bytes}
    (h : ∀ pair ∈ attributes, IsPlainName (Bytes.ofText pair.1))
    (hafter : ∀ b ∈ after, Bytes.isTagBlank b = true) :
    Attribute.all (Bytes.ofText (attributesMarkup attributes) ++ after) =
      attributes.map fun pair => ⟨Bytes.ofText pair.1, Bytes.ofText (escape pair.2)⟩ := by
  induction attributes with
  | nil =>
      have hnone : Attribute.next? after = none := by
        rw [Attribute.next?, (dropWhile_eq_nil_iff after).mpr hafter]
      rw [List.map_nil, Attribute.all]
      split
      · rfl
      · next hnext => cases hnone.symm.trans hnext
  | cons pair rest ih =>
      obtain ⟨name, value⟩ := pair
      rw [List.forall_mem_cons] at h
      rw [ofText_attributesMarkup_cons, List.map_cons, ← ih h.2]
      exact all_of_next? (next?_attribute _ h.1 (quote_not_mem_ofText_escape value))

/-- An escaped value is read as the value. -/
theorem read?_written (pair : String × String) :
    Attribute.read? .utf8 ⟨Bytes.ofText pair.1, Bytes.ofText (escape pair.2)⟩ = some pair := by
  simp [Attribute.read?, Utf8.decode?_ofText, unescape_escape, Except.toOption]

/-- **The attributes of a tag are those that were written**, whatever their values. -/
theorem readAttributes_append {name after : Bytes} {attributes : List (String × String)}
    (hname : IsPlainName name)
    (h : ∀ pair ∈ attributes, IsPlainName (Bytes.ofText pair.1))
    (hafter : ∀ b ∈ after, Bytes.isTagBlank b = true) :
    Tag.readAttributes? .utf8 ⟨name ++ (Bytes.ofText (attributesMarkup attributes) ++ after)⟩ =
      some attributes := by
  rw [Tag.readAttributes?, Tag.attributes,
    hname.dropWhile_append (followsName_attributes h hafter), all_attributes h hafter]
  clear h
  induction attributes with
  | nil => rfl
  | cons pair rest ih => simp [read?_written, ih]

end TierAudit.Markup
