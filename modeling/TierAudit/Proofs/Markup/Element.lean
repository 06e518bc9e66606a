import TierAudit.Proofs.Markup.Attribute

/-!
# Markup — elements, written and read

A document as its readers take it: elements with their attributes, which hold elements or text
(`Element`).  Which elements hold text is a matter of the kind of document.  In all others only
elements count, and what stands between them has to be blank.

Markup that is read as an element is put together from that of its parts: a tag of its own
(`ReadsAs.empty`), elements with blanks between them (`ReadsAs.parent`, `ReadsAsAll.cons`), and an
escaped text (`ReadsAs.text`).
-/

namespace TierAudit.Markup
open Text

/-- What the first tag of an element says. -/
structure Label where
  name : String
  attributes : List (String × String)
  deriving DecidableEq, Repr

/-- An element as a reader takes it. -/
inductive Element where
  /-- An element without content, of one tag. -/
  | empty (label : Label)
  | parent (label : Label) (children : List Element)
  | text (label : Label) (content : String)

namespace Element

def label : Element → Label
  | empty label | parent label _ | text label _ => label

/-- The elements inside, in order. -/
def children : Element → List Element
  | parent _ children => children
  | empty _ | text .. => []

/-- Whether an element of a name stands right inside. -/
def hasChild (element : Element) (name : String) : Bool :=
  element.children.any (·.label.name = name)

end Element

/-! ### Reading -/

/-- The label of a tag. -/
def Tag.label? (encoding : Encoding) (tag : Tag) : Option Label := do
  return ⟨← encoding.decode? tag.name, ← tag.readAttributes? encoding⟩

namespace Item

/-- The text of an item, if it is a run of text. -/
def text? : Item → Option String
  | text run encoding => do (unescape (← encoding.decode? run)).toOption
  | _ => none

/-- The text of items that are all runs of text. -/
def textAll? (items : List Item) : Option String := (items.mapM text?).map String.join

mutual

/-- The element that an item is read as, where elements of the given names hold text. -/
def element? (textNames : List String) : Item → Option Element
  | element tag items opening _ => do
    let label ← tag.label? opening
    if label.name ∈ textNames then return .text label (← textAll? items)
    else return .parent label (← elements? textNames items)
  | empty tag encoding => (tag.label? encoding).map .empty
  | text .. | cdata .. | aside .. => none

/-- The elements among blanks. -/
def elements? (textNames : List String) : List Item → Option (List Element)
  | [] => some []
  | text run _ :: rest =>
    if run.all Bytes.isAsciiBlank then elements? textNames rest else none
  | item :: rest => do return (← element? textNames item) :: (← elements? textNames rest)

end

theorem text?_escape (content : String) :
    text? (.text (Bytes.ofText (escape content)) .utf8) = some content := by
  simp [text?, Utf8.decode?_ofText, unescape_escape, Except.toOption]

/-- An escaped text is read as the text, also if it is empty and no item stands for it. -/
theorem textAll?_escape (content : String) :
    textAll? (textItems (Bytes.ofText (escape content))) = some content := by
  unfold textItems
  split
  · next hrun =>
    have hcontent := text?_escape content
    rw [hrun, ← Utf8.ofText_empty, ← escape_empty, text?_escape ""] at hcontent
    rw [← Option.some.inj hcontent]
    rfl
  · simp [textAll?, text?_escape]

end Item

/-! ### Writing -/

namespace Label

/-- What stands in the first tag of an element. -/
def markup (label : Label) : String := label.name ++ attributesMarkup label.attributes

/-- The name of the element and those of its attributes. -/
def names (label : Label) : List String := label.name :: label.attributes.map (·.1)

/-- The names in the tag can stand there as they are. -/
def IsPlain (label : Label) : Prop := ∀ name ∈ label.names, IsPlainName (Bytes.ofText name)

namespace IsPlain

/-- The values of the attributes have no part in it. -/
theorem of_names {label : Label} (names : List String) (hnames : label.names = names)
    (h : names.all (fun name => IsPlainName (Bytes.ofText name)) = true) : label.IsPlain :=
  fun name hname => of_decide_eq_true (List.all_eq_true.mp h name (hnames ▸ hname))

variable {label : Label} (h : label.IsPlain)
include h

theorem name : IsPlainName (Bytes.ofText label.name) := h _ List.mem_cons_self

theorem attributes : ∀ pair ∈ label.attributes, IsPlainName (Bytes.ofText pair.1) :=
  fun _ hpair => h _ (List.mem_cons_of_mem _ (List.mem_map_of_mem hpair))

theorem followsName (after : Bytes) (hafter : ∀ b ∈ after, Bytes.isTagBlank b = true) :
    FollowsName (Bytes.ofText (attributesMarkup label.attributes) ++ after) :=
  followsName_attributes h.attributes hafter

/-- The label that is read from a tag is the one that was written. -/
theorem label?_markup (after : Bytes) (hafter : ∀ b ∈ after, Bytes.isTagBlank b = true) :
    Tag.label? .utf8 ⟨Bytes.ofText label.name ++
      (Bytes.ofText (attributesMarkup label.attributes) ++ after)⟩ = some label := by
  rw [Tag.label?, h.name.name_append (h.followsName after hafter), Utf8.decode?_ofText,
    readAttributes_append h.name h.attributes hafter]
  rfl

end IsPlain

/-- An element between its two tags. -/
def enclose (label : Label) (content : String) : String :=
  "<" ++ label.markup ++ ">" ++ content ++ "</" ++ label.name ++ ">"

/-- The tag of an element without content. -/
def alone (label : Label) : String := "<" ++ label.markup ++ " />"

theorem scansAs_enclose {label : Label} {content : String} {items : List Item}
    (h : label.IsPlain) (hcontent : ScansAsAll (Bytes.ofText content) items) :
    ScansAs (Bytes.ofText (label.enclose content))
      (.element ⟨Bytes.ofText label.name ++ Bytes.ofText (attributesMarkup label.attributes)⟩ items
        .utf8 .utf8) := by
  have hfollows := h.followsName [] (by simp)
  rw [List.append_nil] at hfollows
  have hbytes : Bytes.ofText (label.enclose content) =
      0x3C :: (Bytes.ofText label.name ++ Bytes.ofText (attributesMarkup label.attributes) ++
        0x3E :: (Bytes.ofText content ++ 0x3C :: 0x2F :: (Bytes.ofText label.name ++ [0x3E]))) := by
    simp only [enclose, markup, Utf8.ofText_append, List.append_assoc]
    rfl
  rw [hbytes]
  exact .element h.name hfollows (getLast?_attributes h.name.getLast?_ne) hcontent

theorem scansAs_alone {label : Label} (h : label.IsPlain) :
    ScansAs (Bytes.ofText label.alone)
      (.empty ⟨Bytes.ofText label.name ++
        (Bytes.ofText (attributesMarkup label.attributes) ++ [0x20])⟩ .utf8) := by
  have hbytes : Bytes.ofText label.alone = 0x3C :: (Bytes.ofText label.name ++
      (Bytes.ofText (attributesMarkup label.attributes) ++ [0x20]) ++ [0x2F, 0x3E]) := by
    simp only [alone, markup, Utf8.ofText_append, List.append_assoc]
    rfl
  rw [hbytes]
  exact .empty h.name (h.followsName _ (by simp [Bytes.isTagBlank]))

end Label

section
variable (textNames : List String)

/-- The markup is scanned as an item that is read as the element. -/
def ReadsAs (markup : String) (element : Element) : Prop :=
  ∃ item, ScansAs (Bytes.ofText markup) item ∧ item.element? textNames = some element

/-- The markup is scanned as items that are read as the elements. -/
def ReadsAsAll (markup : String) (elements : List Element) : Prop :=
  ∃ items, ScansAsAll (Bytes.ofText markup) items ∧ Item.elements? textNames items = some elements

end

section
variable {textNames : List String} {label : Label}

theorem ReadsAs.empty (h : label.IsPlain) : ReadsAs textNames label.alone (.empty label) := by
  refine ⟨_, label.scansAs_alone h, ?_⟩
  rw [Item.element?, h.label?_markup _ (by simp [Bytes.isTagBlank]), Option.map_some]

theorem ReadsAs.parent {content : String} {children : List Element} (h : label.IsPlain)
    (hname : label.name ∉ textNames) (hcontent : ReadsAsAll textNames content children) :
    ReadsAs textNames (label.enclose content) (.parent label children) := by
  obtain ⟨items, hscan, hread⟩ := hcontent
  have hlabel := h.label?_markup [] (by simp)
  rw [List.append_nil] at hlabel
  refine ⟨_, label.scansAs_enclose h hscan, ?_⟩
  simp [Item.element?, hlabel, hname, hread]

/-- An element that holds an escaped text. -/
theorem ReadsAs.text {content : String} (h : label.IsPlain) (hname : label.name ∈ textNames) :
    ReadsAs textNames (label.enclose (escape content)) (.text label content) := by
  have hlabel := h.label?_markup [] (by simp)
  rw [List.append_nil] at hlabel
  have hscan : ScansAsAll (Bytes.ofText (escape content))
      (textItems (Bytes.ofText (escape content))) :=
    .text fun hmem => lt_not_mem_escape content (Utf8.mem_of_ofAscii_mem (by decide) hmem)
  refine ⟨_, label.scansAs_enclose h hscan, ?_⟩
  simp [Item.element?, hlabel, hname, Item.textAll?_escape]

/-! ### Elements among blanks -/

/-- Whether a text may stand between elements. -/
def IsGap (text : String) : Prop := ∀ b ∈ Bytes.ofText text, Bytes.isAsciiBlank b = true

instance (text : String) : Decidable (IsGap text) :=
  decidable_of_iff ((Bytes.ofText text).all Bytes.isAsciiBlank = true) List.all_eq_true

theorem IsGap.lt_not_mem {gap : String} (h : IsGap gap) : 0x3C ∉ Bytes.ofText gap :=
  fun hmem => absurd (h 0x3C hmem) (by decide)

theorem elements?_textItems {gap : String} (h : IsGap gap) (items : List Item) :
    Item.elements? textNames (textItems (Bytes.ofText gap) ++ items) =
      Item.elements? textNames items := by
  unfold textItems
  split
  · rfl
  · rw [List.singleton_append, Item.elements?, if_pos (List.all_eq_true.mpr h)]

theorem IsGap.append {gap gap' : String} (h : IsGap gap) (h' : IsGap gap') :
    IsGap (gap ++ gap') := by
  rw [IsGap, Utf8.ofText_append]
  exact fun b hb => (List.mem_append.mp hb).elim (h b) (h' b)

/-- Blanks alone are read as no element. -/
theorem ReadsAsAll.gap {gap : String} (h : IsGap gap) : ReadsAsAll textNames gap [] := by
  refine ⟨_, .text h.lt_not_mem, ?_⟩
  have hread : Item.elements? textNames _ = _ := elements?_textItems h []
  rwa [List.append_nil, Item.elements?] at hread

theorem ReadsAsAll.cons {gap markup rest : String} {element : Element} {elements : List Element}
    (hgap : IsGap gap) (h : ReadsAs textNames markup element)
    (hrest : ReadsAsAll textNames rest elements) :
    ReadsAsAll textNames (gap ++ (markup ++ rest)) (element :: elements) := by
  obtain ⟨item, hscan, hread⟩ := h
  obtain ⟨items, hscans, hreads⟩ := hrest
  refine ⟨textItems (Bytes.ofText gap) ++ item :: items, ?_, ?_⟩
  · rw [Utf8.ofText_append, Utf8.ofText_append]
    exact .cons hgap.lt_not_mem hscan hscans
  · rw [elements?_textItems hgap]
    cases item with
    | text run encoding => cases hread
    | element _ _ _ _ | empty _ _ | cdata _ _ | aside _ _ => simp [Item.elements?, hread, hreads]

end

/-- The text is read as the elements where blanks may stand in front of it, and behind it what can
be read behind blanks as well. -/
def ReadsAmong (textNames : List String) (text : String) (elements : List Element) : Prop :=
  ∀ (gap rest : String) (others : List Element), IsGap gap →
    (∀ gap, IsGap gap → ReadsAsAll textNames (gap ++ rest) others) →
      ReadsAsAll textNames (gap ++ (text ++ rest)) (elements ++ others)

namespace ReadsAmong
variable {textNames : List String} {text text' : String} {elements elements' : List Element}

theorem empty : ReadsAmong textNames "" [] := by
  intro gap rest others hgap hrest
  rw [String.empty_append]
  exact hrest gap hgap

theorem append (h : ReadsAmong textNames text elements)
    (h' : ReadsAmong textNames text' elements') :
    ReadsAmong textNames (text ++ text') (elements ++ elements') := by
  intro gap rest others hgap hrest
  rw [String.append_assoc, List.append_assoc]
  exact h gap _ _ hgap fun gap hgap => h' gap rest others hgap hrest

/-- An element on a line of its own. -/
theorem element {before markup after : String} {element : Element} (hbefore : IsGap before)
    (h : ReadsAs textNames markup element) (hafter : IsGap after) :
    ReadsAmong textNames (before ++ (markup ++ after)) [element] := by
  intro gap rest others hgap hrest
  have hbytes : gap ++ (before ++ (markup ++ after) ++ rest) =
      (gap ++ before) ++ (markup ++ (after ++ rest)) := by
    simp only [String.append_assoc]
  rw [hbytes]
  exact .cons (hgap.append hbefore) h (hrest after hafter)

theorem join {α : Type} {texts : α → String} {parts : α → List Element}
    (h : ∀ x, ReadsAmong textNames (texts x) (parts x)) (xs : List α) :
    ReadsAmong textNames (String.join (xs.map texts)) (xs.flatMap parts) := by
  induction xs with
  | nil => exact empty
  | cons x xs ih =>
      rw [List.map_cons, String.join_cons, List.flatMap_cons]
      exact (h x).append ih

/-- Between blanks it is all there is. -/
theorem readsAsAll {before after : String} (hbefore : IsGap before) (hafter : IsGap after)
    (h : ReadsAmong textNames text elements) :
    ReadsAsAll textNames (before ++ (text ++ after)) elements := by
  have hall := h before after [] hbefore fun gap hgap => .gap (hgap.append hafter)
  rwa [List.append_nil] at hall

end ReadsAmong

end TierAudit.Markup
