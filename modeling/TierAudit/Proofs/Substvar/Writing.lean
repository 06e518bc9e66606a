import TierAudit.Proofs.Markup.Escape
import TierAudit.Proofs.Markup.Scanning

/-!
# Substitution variable files — writing

Files that declare given names and values.  A string is written in pieces of any number, each
escaped or as a CDATA section, with comments among them (`Piece`); a declaration has a name and a
value (`Entry`), and a file its declarations (`Sheet`), with blanks between elements.  The markup of
a file is scanned as the items that it was written from (`Sheet.scansAsAll`).
-/

namespace TierAudit.Substvar
open Markup Text

/-- A piece of what is written for a string. -/
inductive Piece where
  | escaped (text : String)
  | cdata (text : String) (unclosed : ¬ [']', ']', '>'] <:+: text.toList)
  | comment (body : String) (dashes : ¬ ['-', '-'] <:+: body.toList)

/-- Blank text between elements. -/
structure Gap where
  text : String
  blank : ∀ c ∈ text.toList, isBlank c = true

/-- A declaration, and the gaps before and inside it. -/
structure Entry where
  before : Gap
  beforeName : Gap
  name : List Piece
  beforeValue : Gap
  value : List Piece
  afterValue : Gap

/-- A file: its declarations in a `globalVariables` element inside the root. -/
structure Sheet where
  before : Gap
  beforeList : Gap
  entries : List Entry
  afterEntries : Gap
  afterList : Gap
  after : Gap
  /-- Outside the root element only ASCII blanks may stand. -/
  margin : ∀ b ∈ Bytes.ofText (before.text ++ after.text), Bytes.isAsciiBlank b = true

/-! ### Markup -/

/-- An element without attributes. -/
def wrap (name content : String) : String :=
  "<" ++ name ++ ">" ++ content ++ "</" ++ name ++ ">"

namespace Piece

/-- What the piece contributes to the string. -/
def text : Piece → String
  | escaped text => text
  | cdata text _ => text
  | comment _ _ => ""

def markup : Piece → String
  | escaped text => escape text
  | cdata text _ => "<![CDATA[" ++ text ++ "]]>"
  | comment body _ => "<!--" ++ body ++ "-->"

/-- The string that pieces are written for. -/
def textAll : List Piece → String
  | [] => ""
  | piece :: rest => piece.text ++ textAll rest

def markupAll : List Piece → String
  | [] => ""
  | piece :: rest => piece.markup ++ markupAll rest

end Piece

namespace Entry

/-- The name and the value that are declared. -/
def pair (entry : Entry) : String × String :=
  (Piece.textAll entry.name, Piece.textAll entry.value)

def markup (entry : Entry) : String :=
  wrap "globalVariable"
    (entry.beforeName.text ++ (wrap "name" (Piece.markupAll entry.name) ++
      (entry.beforeValue.text ++ (wrap "value" (Piece.markupAll entry.value) ++
        entry.afterValue.text))))

/-- Entries and a gap behind them. -/
def markupAll (after : Gap) : List Entry → String
  | [] => after.text
  | entry :: rest => entry.before.text ++ (entry.markup ++ markupAll after rest)

end Entry

namespace Sheet

/-- What the file declares, in order. -/
def pairs (sheet : Sheet) : List (String × String) := sheet.entries.map Entry.pair

def rootMarkup (sheet : Sheet) : String :=
  wrap "repository"
    (sheet.beforeList.text ++
      (wrap "globalVariables" (Entry.markupAll sheet.afterEntries sheet.entries) ++
        sheet.afterList.text))

def markup (sheet : Sheet) : String :=
  sheet.before.text ++ (sheet.rootMarkup ++ sheet.after.text)

end Sheet

/-! ### Items -/

/-- The item of an element without attributes. -/
def wrapItem (name : String) (items : List Item) : Item :=
  .element ⟨Bytes.ofText name⟩ items .utf8 .utf8

/-- The items of pieces behind an escaped text: pieces that are escaped make one run of text. -/
def Piece.items (text : String) : List Piece → List Item
  | [] => textItems (Bytes.ofText (escape text))
  | .escaped more :: rest => items (text ++ more) rest
  | .cdata body _ :: rest =>
    textItems (Bytes.ofText (escape text)) ++ .cdata (Bytes.ofText body) .utf8 :: items "" rest
  | .comment body _ :: rest =>
    textItems (Bytes.ofText (escape text)) ++
      .aside (.comment (Bytes.ofText body)) .utf8 :: items "" rest

def Gap.items (gap : Gap) : List Item := textItems (Bytes.ofText gap.text)

def Entry.item (entry : Entry) : Item :=
  wrapItem "globalVariable"
    (entry.beforeName.items ++ wrapItem "name" (Piece.items "" entry.name) ::
      (entry.beforeValue.items ++ wrapItem "value" (Piece.items "" entry.value) ::
        entry.afterValue.items))

def Entry.items (after : Gap) : List Entry → List Item
  | [] => after.items
  | entry :: rest => entry.before.items ++ entry.item :: items after rest

/-- The root element. -/
def Sheet.root (sheet : Sheet) : Item :=
  wrapItem "repository"
    (sheet.beforeList.items ++
      wrapItem "globalVariables" (Entry.items sheet.afterEntries sheet.entries) ::
        sheet.afterList.items)

def Sheet.items (sheet : Sheet) : List Item :=
  sheet.before.items ++ sheet.root :: sheet.after.items

/-! ### Scanning the markup -/

theorem scansAs_wrap {name content : String} {items : List Item}
    (hname : IsPlainName (Bytes.ofText name)) (h : ScansAsAll (Bytes.ofText content) items) :
    ScansAs (Bytes.ofText (wrap name content)) (wrapItem name items) := by
  have hbytes : Bytes.ofText (wrap name content) = 0x3C :: (Bytes.ofText name ++
      0x3E :: (Bytes.ofText content ++ 0x3C :: 0x2F :: (Bytes.ofText name ++ [0x3E]))) := by
    simp only [wrap, Utf8.ofText_append, List.append_assoc]
    rfl
  have hlast : (Bytes.ofText name ++ []).getLast? ≠ some 0x2F := by
    rw [List.append_nil]
    exact hname.getLast?_ne
  have hscans := ScansAs.element hname .nil hlast h
  rw [List.append_nil] at hscans
  rw [hbytes]
  exact hscans

theorem scansAs_cdata {text : String} (h : ¬ [']', ']', '>'] <:+: text.toList) :
    ScansAs (Bytes.ofText ("<![CDATA[" ++ text ++ "]]>")) (.cdata (Bytes.ofText text) .utf8) := by
  have hbody : ¬ [0x5D, 0x5D, 0x3E] <:+: Bytes.ofText text :=
    fun hi => h (Utf8.infix_of_ofText (by simp) hi)
  rw [Utf8.ofText_append, Utf8.ofText_append]
  exact .cdata hbody

theorem scansAs_comment {body : String} (h : ¬ ['-', '-'] <:+: body.toList) :
    ScansAs (Bytes.ofText ("<!--" ++ body ++ "-->"))
      (.aside (.comment (Bytes.ofText body)) .utf8) := by
  have hbody : ¬ [0x2D, 0x2D, 0x3E] <:+: Bytes.ofText body := by
    intro hi
    have hmarker : ['-', '-', '>'] <:+: body.toList := Utf8.infix_of_ofText (by simp) hi
    exact h ((List.prefix_append ['-', '-'] ['>']).isInfix.trans hmarker)
  rw [Utf8.ofText_append, Utf8.ofText_append, List.append_assoc]
  exact .comment hbody

theorem scansAsAll_pieces (pieces : List Piece) : ∀ text : String,
    ScansAsAll (Bytes.ofText (escape text ++ Piece.markupAll pieces))
      (Piece.items text pieces) := by
  induction pieces with
  | nil =>
      intro text
      rw [Piece.markupAll, String.append_empty]
      exact .text fun hmem => lt_not_mem_escape text (Utf8.mem_of_ofAscii_mem (by decide) hmem)
  | cons piece rest ih =>
      intro text
      cases piece with
      | escaped more =>
          rw [Piece.markupAll, Piece.markup, ← String.append_assoc, ← escape_append]
          exact ih (text ++ more)
      | cdata body unclosed =>
          have hrest := ih ""
          rw [escape_empty, String.empty_append] at hrest
          exact scansAsAll_cons (lt_not_mem_escape text) (scansAs_cdata unclosed) hrest
      | comment body dashes =>
          have hrest := ih ""
          rw [escape_empty, String.empty_append] at hrest
          exact scansAsAll_cons (lt_not_mem_escape text) (scansAs_comment dashes) hrest

theorem Gap.lt_not_mem (gap : Gap) : '<' ∉ gap.text.toList :=
  fun hmem => absurd (gap.blank '<' hmem) (by decide)

theorem Gap.scansAsAll (gap : Gap) : ScansAsAll (Bytes.ofText gap.text) gap.items :=
  .text fun hmem => gap.lt_not_mem (Utf8.mem_of_ofAscii_mem (by decide) hmem)

/-- An element that holds what is written for a string. -/
theorem scansAs_wrap_pieces {name : String} (pieces : List Piece)
    (hname : IsPlainName (Bytes.ofText name)) :
    ScansAs (Bytes.ofText (wrap name (Piece.markupAll pieces)))
      (wrapItem name (Piece.items "" pieces)) := by
  refine scansAs_wrap hname ?_
  have h := scansAsAll_pieces pieces ""
  rwa [escape_empty, String.empty_append] at h

theorem Entry.scansAs (entry : Entry) : ScansAs (Bytes.ofText entry.markup) entry.item := by
  refine scansAs_wrap (by decide) ?_
  refine scansAsAll_cons entry.beforeName.lt_not_mem (scansAs_wrap_pieces entry.name (by decide)) ?_
  exact scansAsAll_cons entry.beforeValue.lt_not_mem
    (scansAs_wrap_pieces entry.value (by decide)) entry.afterValue.scansAsAll

theorem Entry.scansAsAll (after : Gap) (entries : List Entry) :
    ScansAsAll (Bytes.ofText (Entry.markupAll after entries)) (Entry.items after entries) := by
  induction entries with
  | nil => exact after.scansAsAll
  | cons entry rest ih => exact scansAsAll_cons entry.before.lt_not_mem entry.scansAs ih

/-- **The markup of a file is scanned as its items.** -/
theorem Sheet.scansAsAll (sheet : Sheet) : ScansAsAll (Bytes.ofText sheet.markup) sheet.items := by
  have hlist := @scansAs_wrap "globalVariables" _ _ (by decide)
    (Entry.scansAsAll sheet.afterEntries sheet.entries)
  have hroot : ScansAs (Bytes.ofText sheet.rootMarkup) sheet.root :=
    scansAs_wrap (by decide)
      (scansAsAll_cons sheet.beforeList.lt_not_mem hlist sheet.afterList.scansAsAll)
  exact scansAsAll_cons sheet.before.lt_not_mem hroot sheet.after.scansAsAll

end TierAudit.Substvar
