import TierAudit.Proofs.Substvar.Acceptance
import TierAudit.Proofs.Substvar.Writing

/-!
# Substitution variable files — reading what was written

A file that was written for names and values declares them, whatever pieces they were cut into
(`ofText_markup`): the texts below an element read as the string that was written there
(`Reads.pieces`), so the declarations of the file are its entries (`declarationsAll_sheet`).
-/

namespace TierAudit.Markup.Item

/-! ### One item after another -/

theorem textsAll_append (items rest : List Item) :
    textsAll (items ++ rest) = textsAll items ++ textsAll rest := by
  induction items with
  | nil => rfl
  | cons item items ih => rw [List.cons_append, textsAll, ih, textsAll, List.append_assoc]

theorem partsAll_append (found : Substvar.Parts) (items rest : List Item) :
    partsAll found (items ++ rest) = partsAll (partsAll found items) rest := by
  induction items generalizing found with
  | nil => rfl
  | cons item items ih => rw [List.cons_append, partsAll, ih, partsAll]

theorem declarationsAll_append (items rest : List Item) :
    declarationsAll (items ++ rest) = declarationsAll items ++ declarationsAll rest := by
  induction items with
  | nil => rfl
  | cons item items ih =>
      rw [List.cons_append, declarationsAll, ih, declarationsAll, List.append_assoc]

end TierAudit.Markup.Item

namespace TierAudit.Substvar
open Markup Text

/-! ### Texts -/

/-- The texts below items can be read, and are the string when they are joined. -/
def Reads (items : List Item) (s : String) : Prop :=
  (∀ event ∈ Item.textsAll items, IsReadable event) ∧ joinedText (Item.textsAll items) = s

namespace Reads

theorem append {items items' : List Item} {s s' : String} (h : Reads items s)
    (h' : Reads items' s') : Reads (items ++ items') (s ++ s') := by
  unfold Reads
  rw [Item.textsAll_append, joinedText_append, h.2, h'.2]
  exact ⟨List.forall_mem_append.mpr ⟨h.1, h'.1⟩, rfl⟩

theorem of_textOf {item : Item} {event : Event} {s : String} (hitem : item.texts = [event])
    (h : textOf event = .ok s) : Reads [item] s := by
  have htexts : Item.textsAll [item] = [event] := by
    rw [Item.textsAll, hitem]
    rfl
  unfold Reads
  rw [htexts]
  refine ⟨fun e he => ⟨s, ?_⟩, ?_⟩
  · rw [List.mem_singleton.mp he, h]
  · rw [joinedText, h]
    exact String.append_empty

theorem cdata (body : String) : Reads [.cdata (Bytes.ofText body) .utf8] body :=
  of_textOf rfl (textOf_cdata body)

theorem aside (kind : Aside) (encoding : Encoding) : Reads [.aside kind encoding] "" := by
  refine ⟨fun event he => ?_, rfl⟩
  cases he

theorem escaped (s : String) : Reads (textItems (Bytes.ofText (escape s))) s := by
  by_cases hrun : Bytes.ofText (escape s) = []
  · -- No text stands there, and the empty string is the one of which nothing is written.
    have hs := textOf_escaped s
    rw [hrun, ← Utf8.ofText_empty, ← escape_empty, textOf_escaped ""] at hs
    cases hs
    refine ⟨fun event he => ?_, rfl⟩
    cases he
  · rw [textItems, if_neg hrun]
    exact of_textOf rfl (textOf_escaped s)

/-- What was written in pieces is read as the string. -/
theorem pieces (pieces : List Piece) :
    ∀ text, Reads (Piece.items text pieces) (text ++ Piece.textAll pieces) := by
  induction pieces with
  | nil =>
      intro text
      rw [Piece.textAll, String.append_empty]
      exact escaped text
  | cons piece rest ih =>
      intro text
      cases piece with
      | escaped more =>
          -- No event ends between two escaped pieces.
          rw [Piece.textAll, ← String.append_assoc]
          exact ih (text ++ more)
      | cdata body unclosed => exact (escaped text).append ((cdata body).append (ih ""))
      | comment body dashes => exact (escaped text).append ((aside _ _).append (ih ""))

end Reads

/-! ### Declarations -/

theorem partsAll_textItems (found : Parts) (run : Bytes) :
    Item.partsAll found (textItems run) = found := by
  unfold textItems
  split <;> rfl

theorem declarationsAll_textItems (run : Bytes) : Item.declarationsAll (textItems run) = [] := by
  unfold textItems
  split <;> rfl

/-- A gap adds no part. -/
theorem partsAll_gap (found : Parts) (gap : Gap) (item : Item) (rest : List Item) :
    Item.partsAll found (gap.items ++ item :: rest) = Item.partsAll (item.parts found) rest := by
  rw [Item.partsAll_append, Gap.items, partsAll_textItems, Item.partsAll]

/-- A gap declares nothing. -/
theorem declarationsAll_gap (gap : Gap) (item : Item) (rest : List Item) :
    Item.declarationsAll (gap.items ++ item :: rest) =
      item.declarations ++ Item.declarationsAll rest := by
  rw [Item.declarationsAll_append, Gap.items, declarationsAll_textItems, List.nil_append,
    Item.declarationsAll]

theorem parts_wrapItem {found : Parts} {name : String} {field : Field} (items : List Item)
    (hname : IsPlainName (Bytes.ofText name))
    (hfield : Field.ofLocalName? (Bytes.ofText name) = some field) (h : found.get field = none) :
    (wrapItem name items).parts found = found.store (Item.textsAll items) field := by
  have hwanted : found.wanted? (Tag.localName ⟨Bytes.ofText name⟩) = some field := by
    rw [hname.localName_eq, Parts.wanted?, hfield, Option.filter_some, h]
    rfl
  simp only [wrapItem, Item.parts, hwanted]

/-- An element that is no declaration has those inside it. -/
theorem declarations_wrapItem {name : String} (items : List Item)
    (hname : IsPlainName (Bytes.ofText name)) (hne : Bytes.ofText name ≠ globalVariable) :
    (wrapItem name items).declarations = Item.declarationsAll items := by
  rw [wrapItem, Item.declarations, hname.localName_eq, if_neg hne]

/-- The parts that an entry declares. -/
def Entry.parts (entry : Entry) : Parts :=
  ⟨some (Item.textsAll (Piece.items "" entry.name)),
    some (Item.textsAll (Piece.items "" entry.value))⟩

theorem declarations_entry (entry : Entry) : entry.item.declarations = [entry.parts] := by
  have hdeclared : Tag.localName ⟨Bytes.ofText "globalVariable"⟩ = globalVariable :=
    IsPlainName.localName_eq (by decide)
  have hname : ∀ items, (wrapItem "name" items).parts .empty =
      ⟨some (Item.textsAll items), none⟩ :=
    fun items => @parts_wrapItem .empty "name" .name items (by decide) (by decide) rfl
  have hvalue : ∀ items texts, (wrapItem "value" items).parts ⟨some texts, none⟩ =
      ⟨some texts, some (Item.textsAll items)⟩ :=
    fun items texts =>
      @parts_wrapItem ⟨some texts, none⟩ "value" .value items (by decide) (by decide) rfl
  rw [Entry.item, wrapItem, Item.declarations, if_pos hdeclared, partsAll_gap, hname, partsAll_gap,
    hvalue, Gap.items, partsAll_textItems]
  rfl

theorem declarationsAll_entries (after : Gap) (entries : List Entry) :
    Item.declarationsAll (Entry.items after entries) = entries.map Entry.parts := by
  induction entries with
  | nil => exact declarationsAll_textItems _
  | cons entry rest ih =>
      rw [Entry.items, declarationsAll_gap, declarations_entry, ih]
      rfl

/-- The declarations of a file are its entries. -/
theorem declarationsAll_sheet (sheet : Sheet) :
    Item.declarationsAll sheet.items = sheet.entries.map Entry.parts := by
  have hlist : ∀ items, (wrapItem "globalVariables" items).declarations =
      Item.declarationsAll items :=
    fun items => declarations_wrapItem items (by decide) (by decide)
  have hroot : ∀ items, (wrapItem "repository" items).declarations = Item.declarationsAll items :=
    fun items => declarations_wrapItem items (by decide) (by decide)
  rw [Sheet.items, declarationsAll_gap, Sheet.root, hroot, declarationsAll_gap, hlist,
    declarationsAll_entries]
  simp only [Gap.items, declarationsAll_textItems, List.append_nil]

/-! ### Files -/

theorem isReadable_parts (entry : Entry) : entry.parts.IsReadable := by
  intro event he
  rcases List.mem_append.mp he with he | he
  · exact (Reads.pieces entry.name "").1 event he
  · exact (Reads.pieces entry.value "").1 event he

theorem pair?_parts (entry : Entry) : entry.parts.pair? = some entry.pair := by
  have hname := (Reads.pieces entry.name "").2
  have hvalue := (Reads.pieces entry.value "").2
  rw [String.empty_append] at hname hvalue
  simp only [Entry.parts, Parts.pair?, Option.map_some, Option.getD_some, hname, hvalue, Entry.pair]

theorem declare_entries (entries : List Entry) (vars : Variables) :
    (entries.map Entry.parts).foldl Parts.declare vars =
      (entries.map Entry.pair).foldl (fun vars (name, value) => vars.insert name value) vars := by
  induction entries generalizing vars with
  | nil => rfl
  | cons entry rest ih =>
      simp only [List.map_cons, List.foldl_cons]
      rw [ih, Parts.declare, pair?_parts]

/-- Beside the root element there are blanks. -/
theorem margin_sheet (sheet : Sheet) :
    sheet.items.countP Item.isElement = 1 ∧ ∀ item ∈ sheet.items, item.isMargin = true := by
  have hgap : ∀ gap : Gap, (∀ b ∈ Bytes.ofText gap.text, Bytes.isAsciiBlank b = true) →
      ∀ item ∈ gap.items, item.isElement = false ∧ item.isMargin = true := by
    intro gap hblank item hitem
    rw [Gap.items, textItems] at hitem
    split at hitem
    · cases hitem
    · rw [List.mem_singleton.mp hitem]
      exact ⟨rfl, List.all_eq_true.mpr hblank⟩
  have hmargin := sheet.margin
  rw [Utf8.ofText_append, List.forall_mem_append] at hmargin
  have hbefore := hgap sheet.before hmargin.1
  have hafter := hgap sheet.after hmargin.2
  constructor
  · have hnone : ∀ items : List Item,
        (∀ item ∈ items, item.isElement = false ∧ item.isMargin = true) →
          items.countP Item.isElement = 0 := by
      intro items h
      refine List.countP_eq_zero.mpr fun item hi => ?_
      simp [(h item hi).1]
    rw [Sheet.items, List.countP_append, List.countP_cons, hnone _ hbefore, hnone _ hafter]
    rfl
  · intro item hitem
    rcases List.mem_append.mp hitem with hi | hi
    · exact (hbefore item hi).2
    · rcases List.mem_cons.mp hi with rfl | hi
      · rfl
      · exact (hafter item hi).2

/-- A file that was written begins with no byte-order mark. -/
theorem ofMark?_sheet (sheet : Sheet) : Encoding.ofMark? (Bytes.ofText sheet.markup) = none := by
  have hbytes : ∃ rest, Bytes.ofText sheet.markup =
      Bytes.ofText sheet.before.text ++ 0x3C :: 0x72 :: rest := by
    simp only [Sheet.markup, Sheet.rootMarkup, wrap, Utf8.ofText_append, List.append_assoc]
    exact ⟨_, rfl⟩
  obtain ⟨rest, hrest⟩ := hbytes
  have hmargin := sheet.margin
  rw [Utf8.ofText_append, List.forall_mem_append] at hmargin
  rw [hrest]
  -- The first byte is an ASCII blank, or else the first two are `<r`.
  cases hbefore : Bytes.ofText sheet.before.text with
  | nil => rfl
  | cons b more =>
      have hb : Bytes.isAsciiBlank b = true := hmargin.1 b (by simp [hbefore])
      simp only [Bytes.isAsciiBlank, Bytes.isTagBlank, Bool.or_eq_true, beq_iff_eq] at hb
      rcases hb with (((rfl | rfl) | rfl) | rfl) | rfl <;> rfl

theorem ofText_sheet (sheet : Sheet) :
    Document.ofText sheet.markup = ⟨Item.eventsAll sheet.items, none⟩ := by
  have hscan := sheet.scansAsAll.fromContext ⟨.utf8, true, []⟩ rfl
  simp only [Document.ofText, ofMark?_sheet, Document.scan, hscan]
  rfl

/-- What was written for the names and values of a file can be read. -/
theorem isReadable_sheet (sheet : Sheet) :
    ∀ event ∈ capturedAll sheet.items, IsReadable event := by
  intro event he
  rw [capturedAll, declarationsAll_sheet] at he
  obtain ⟨parts, hp, he⟩ := List.mem_flatMap.mp he
  obtain ⟨entry, -, rfl⟩ := List.mem_map.mp hp
  exact isReadable_parts entry event he

/-- Any names and values can be written, here escaped and without blanks. -/
theorem exists_sheet (pairs : List (String × String)) : ∃ sheet : Sheet, sheet.pairs = pairs := by
  let gap : Gap := ⟨"", by simp⟩
  let entry : String × String → Entry := fun pair =>
    ⟨gap, gap, [.escaped pair.1], gap, [.escaped pair.2], gap⟩
  refine ⟨⟨gap, gap, pairs.map entry, gap, gap, gap, by simp [gap]⟩, ?_⟩
  have hpair : ∀ pair, (entry pair).pair = pair := fun pair => by
    simp [Entry.pair, entry, Piece.textAll, Piece.text]
  simp [Sheet.pairs, Function.comp_def, hpair]

/-- **Writing and reading.**  Any names and values can be written, and a file that was written for
them declares them, whatever pieces and gaps it is made of. -/
theorem ofText_markup :
    (∀ pairs, ∃ sheet : Sheet, sheet.pairs = pairs) ∧
      ∀ sheet : Sheet, ofText sheet.markup = .ok (.ofList sheet.pairs) := by
  refine ⟨exists_sheet, fun sheet => ?_⟩
  obtain ⟨hcount, hmargin⟩ := margin_sheet sheet
  have hrun := (run_document sheet.items).1 ⟨hcount, hmargin, isReadable_sheet sheet⟩
  rw [declarationsAll_sheet, declare_entries] at hrun
  rw [ofText, ofText_sheet, ofDocument_of_read rfl]
  exact hrun

end TierAudit.Substvar
