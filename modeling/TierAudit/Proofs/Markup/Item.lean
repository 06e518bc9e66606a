import TierAudit.Markup.Event

/-!
# Markup — element trees

A document as a tree: elements, what stands inside them, and the events that reading them gives
(`Item.events`).  Every event keeps the encoding in force where it stands, which a declaration
anywhere in the document may change.
-/

namespace TierAudit.Markup
open Text

/-- Markup that is neither an element nor text. -/
inductive Aside where
  | comment (body : Bytes)
  | instruction (body : Bytes)
  | declaration (body : Bytes)
  | doctype (body : Bytes)
  deriving DecidableEq, Repr

def Aside.lexeme : Aside → Lexeme
  | comment body => .comment body
  | instruction body => .instruction body
  | declaration body => .declaration body
  | doctype body => .doctype body

/-- What stands inside an element or a document. -/
inductive Item where
  | element (tag : Tag) (items : List Item) (opening closing : Encoding)
  /-- An element without content, of one tag. -/
  | empty (tag : Tag) (encoding : Encoding)
  | text (run : Bytes) (encoding : Encoding)
  | cdata (body : Bytes) (encoding : Encoding)
  | aside (kind : Aside) (encoding : Encoding)

namespace Item

mutual

/-- The events of an item.  The end tag of an element repeats the name of its start tag. -/
def events : Item → List Event
  | element tag items opening closing =>
    ⟨.start tag, opening⟩ :: (eventsAll items ++ [⟨.finish tag.name, closing⟩])
  | empty tag encoding => [⟨.empty tag, encoding⟩]
  | text run encoding => [⟨.text run, encoding⟩]
  | cdata body encoding => [⟨.cdata body, encoding⟩]
  | aside kind encoding => [⟨kind.lexeme, encoding⟩]

/-- The events of items, one item after another. -/
def eventsAll : List Item → List Event
  | [] => []
  | item :: rest => item.events ++ eventsAll rest

end

@[simp] theorem eventsAll_cons (item : Item) (rest : List Item) :
    eventsAll (item :: rest) = item.events ++ eventsAll rest := rfl

@[simp] theorem eventsAll_append (items rest : List Item) :
    eventsAll (items ++ rest) = eventsAll items ++ eventsAll rest := by
  induction items with
  | nil => rfl
  | cons item items ih => rw [List.cons_append, eventsAll_cons, ih, eventsAll_cons,
      List.append_assoc]

/-- Whether an item is an element, with content or without. -/
def isElement : Item → Bool
  | element .. | empty .. => true
  | text .. | cdata .. | aside .. => false

end Item

end TierAudit.Markup
