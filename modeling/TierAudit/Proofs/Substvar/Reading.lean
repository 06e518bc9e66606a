import TierAudit.Proofs.Markup.Escape
import TierAudit.Proofs.Markup.Item
import TierAudit.Proofs.Text.Utf8
import TierAudit.Substvar

/-!
# Substitution variable files — the recursive reading

What an element tree declares, read off the tree.  Its declarations are the outermost
`globalVariable` elements in document order (`Item.declarations`).  The parts of a declaration are
the first `name` and the first `value` element below it that are not inside the other part
(`Item.parts`), and the text of a part is all text below its element.  Everything else, a repeated
part and a nested declaration included, is transparent.

Whether a text can be read is a matter of its own: `Item.captured` lists the texts that belong to a
part, `Item.pairs` what the tree declares if all of them can be read.
-/

namespace TierAudit.Substvar
open Markup Text

/-! ### Text -/

/-- The text of a run of text or a CDATA section. -/
def textOf (event : Event) : Except Cause String :=
  match event.lexeme with
  | .text run => do
    let text ← Progress.decode event.encoding run
    (unescape text).mapError .escape
  | .cdata body => Progress.decode event.encoding body
  | _ => .ok ""

/-- Whether the text of an event can be decoded and unescaped. -/
def IsReadable (event : Event) : Prop := ∃ text, textOf event = .ok text

/-- The texts of events, joined.  What cannot be read counts as nothing. -/
def joinedText : List Event → String
  | [] => ""
  | event :: rest => (textOf event).toOption.getD "" ++ joinedText rest

/-! ### The parts of a declaration -/

/-- The parts that a declaration has so far, each as the texts that it is made of. -/
structure Parts where
  name : Option (List Event)
  value : Option (List Event)

namespace Parts

/-- A declaration without its parts. -/
def empty : Parts := ⟨none, none⟩

def get (parts : Parts) : Field → Option (List Event)
  | .name => parts.name
  | .value => parts.value

def store (parts : Parts) (texts : List Event) : Field → Parts
  | .name => { parts with name := some texts }
  | .value => { parts with value := some texts }

/-- The part that an element would give: the first of its kind. -/
def wanted? (parts : Parts) (localName : Bytes) : Option Field :=
  (Field.ofLocalName? localName).filter fun field => (parts.get field).isNone

/-- The texts of all parts. -/
def texts (parts : Parts) : List Event := parts.name.getD [] ++ parts.value.getD []

/-- What is declared: nothing without a name, and an empty value if there is none. -/
def pair? (parts : Parts) : Option (String × String) :=
  parts.name.map fun name => (joinedText name, joinedText (parts.value.getD []))

end Parts

end TierAudit.Substvar

namespace TierAudit.Markup.Item
open Substvar

mutual

/-- The texts below an item. -/
def texts : Item → List Event
  | element _ items _ _ => textsAll items
  | text run encoding => [⟨.text run, encoding⟩]
  | cdata body encoding => [⟨.cdata body, encoding⟩]
  | empty .. | aside .. => []

def textsAll : List Item → List Event
  | [] => []
  | item :: rest => item.texts ++ textsAll rest

end

mutual

/-- The parts of a declaration after an item inside it.  An element that is a part is not searched
for the other one; any other element is. -/
def parts (found : Parts) : Item → Parts
  | element tag items _ _ =>
    match found.wanted? tag.localName with
    | some field => found.store (textsAll items) field
    | none => partsAll found items
  | empty tag _ =>
    match found.wanted? tag.localName with
    | some field => found.store [] field
    | none => found
  | text .. | cdata .. | aside .. => found

def partsAll (found : Parts) : List Item → Parts
  | [] => found
  | item :: rest => partsAll (item.parts found) rest

end

mutual

/-- The declarations of an item: its outermost `globalVariable` elements.  One without content has
no name and is left out. -/
def declarations : Item → List Parts
  | element tag items _ _ =>
    if tag.localName = globalVariable then [partsAll .empty items] else declarationsAll items
  | empty .. | text .. | cdata .. | aside .. => []

def declarationsAll : List Item → List Parts
  | [] => []
  | item :: rest => item.declarations ++ declarationsAll rest

end

/-- The texts that belong to a part of a declaration. -/
def captured (item : Item) : List Event := item.declarations.flatMap Parts.texts

/-- The names and values that an item declares. -/
def pairs (item : Item) : List (String × String) := item.declarations.filterMap Parts.pair?

end TierAudit.Markup.Item

namespace TierAudit.Substvar
open Markup Text

/-! ### Laws of the reading -/

/-- A text that was written as a CDATA section. -/
theorem textOf_cdata (s : String) : textOf ⟨.cdata (Bytes.ofText s), .utf8⟩ = .ok s := by
  simp only [textOf, Progress.decode, Utf8.decode?_ofText]

/-- A text that was written with escapes. -/
theorem textOf_escaped (s : String) :
    textOf ⟨.text (Bytes.ofText (escape s)), .utf8⟩ = .ok s := by
  simp only [textOf, Progress.decode, Utf8.decode?_ofText]
  change (unescape (escape s)).mapError Cause.escape = .ok s
  rw [unescape_escape]
  rfl

theorem joinedText_append (events rest : List Event) :
    joinedText (events ++ rest) = joinedText events ++ joinedText rest := by
  induction events with
  | nil => simp [joinedText]
  | cons event events ih => simp only [List.cons_append, joinedText, ih, String.append_assoc]

namespace Parts

/-- Every text of the parts can be read. -/
def IsReadable (parts : Parts) : Prop := ∀ e ∈ parts.texts, Substvar.IsReadable e

theorem get_eq_none_of_wanted? {parts : Parts} {localName : Bytes} {field : Field}
    (h : parts.wanted? localName = some field) : parts.get field = none := by
  simpa using (Option.filter_eq_some_iff.mp h).2

/-- A part that was missing adds its texts. -/
theorem mem_texts_store {parts : Parts} {texts : List Event} {field : Field} {e : Event}
    (h : parts.get field = none) :
    e ∈ (parts.store texts field).texts ↔ e ∈ parts.texts ∨ e ∈ texts := by
  cases field with
  | name =>
      have hn : parts.name = none := h
      simp [store, Parts.texts, hn, or_comm]
  | value =>
      have hv : parts.value = none := h
      simp [store, Parts.texts, hv]

theorem isReadable_store {parts : Parts} {texts : List Event} {field : Field}
    (h : parts.get field = none) (hp : parts.IsReadable) :
    (∀ e ∈ texts, Substvar.IsReadable e) ↔ (parts.store texts field).IsReadable := by
  constructor
  · intro ht e he
    rcases (mem_texts_store h).mp he with he | he
    · exact hp e he
    · exact ht e he
  · exact fun hs e he => hs e ((mem_texts_store h).mpr (.inr he))

end Parts

mutual

/-- The texts that a declaration has stay in it. -/
theorem texts_subset_parts : ∀ (item : Item) (parts : Parts),
    parts.texts ⊆ (item.parts parts).texts
  | .element tag items _ _, parts => by
      intro e he
      rw [Item.parts]
      split
      · next h => exact (Parts.mem_texts_store (Parts.get_eq_none_of_wanted? h)).mpr (.inl he)
      · exact texts_subset_partsAll items parts he
  | .empty tag _, parts => by
      intro e he
      rw [Item.parts]
      split
      · next h => exact (Parts.mem_texts_store (Parts.get_eq_none_of_wanted? h)).mpr (.inl he)
      · exact he
  | .text .., _ | .cdata .., _ | .aside .., _ => fun _ he => he

theorem texts_subset_partsAll : ∀ (items : List Item) (parts : Parts),
    parts.texts ⊆ (Item.partsAll parts items).texts
  | [], _ => fun _ he => he
  | item :: rest, parts =>
      fun _ he => texts_subset_partsAll rest _ (texts_subset_parts item parts he)

end

/-- The variables after a declaration. -/
def Parts.declare (vars : Variables) (parts : Parts) : Variables :=
  match parts.pair? with
  | some (name, value) => vars.insert name value
  | none => vars

theorem forall_mem_captured {item : Item} :
    (∀ e ∈ item.captured, IsReadable e) ↔ ∀ parts ∈ item.declarations, parts.IsReadable := by
  simp only [Item.captured, List.mem_flatMap, forall_exists_index, and_imp]
  exact ⟨fun h parts hp e he => h e parts hp he, fun h e parts hp he => h parts hp e he⟩

theorem ofList_filterMap_pair? (declarations : List Parts) :
    Variables.ofList (declarations.filterMap Parts.pair?) =
      declarations.foldl Parts.declare .empty := by
  rw [Variables.ofList, List.foldl_filterMap]
  refine congrArg (List.foldl · Variables.empty declarations) ?_
  funext vars parts
  unfold Parts.declare
  cases parts.pair? <;> rfl

theorem ofList_pairs (item : Item) :
    Variables.ofList item.pairs = item.declarations.foldl Parts.declare .empty :=
  ofList_filterMap_pair? item.declarations

end TierAudit.Substvar
