import TierAudit.Proofs.Except
import TierAudit.Proofs.Markup.Nesting
import TierAudit.Proofs.Substvar.Step
import TierAudit.Proofs.Substvar.Streaming

/-!
# Substitution variable files — the documents that are accepted

A document declares variables exactly if it is a `Declarative` one: it can be read to its end, every
element is closed, there is one root element and nothing but blank text and asides beside it, and
every text of a part can be read (`accepts_iff`).
-/

namespace TierAudit.Markup
open Text

/-- Whether an event is the tag with which an element begins. -/
def Event.isOpening (event : Event) : Bool :=
  match event.lexeme with
  | .start _ | .empty _ => true
  | _ => false

/-- The events outside all elements, when so many elements are open.  Of an element that is not
inside another there is the tag with which it begins. -/
def outerEvents : Nat → List Event → List Event
  | _, [] => []
  | depth, event :: rest =>
    let here := if depth = 0 then [event] else []
    match event.lexeme with
    | .start _ => here ++ outerEvents (depth + 1) rest
    | .finish _ => outerEvents (depth - 1) rest
    | _ => here ++ outerEvents depth rest

namespace Item

/-- The event with which an item begins. -/
def opening : Item → Event
  | element tag _ opening _ => ⟨.start tag, opening⟩
  | empty tag encoding => ⟨.empty tag, encoding⟩
  | text run encoding => ⟨.text run, encoding⟩
  | cdata body encoding => ⟨.cdata body, encoding⟩
  | aside kind encoding => ⟨kind.lexeme, encoding⟩

/-- Whether an item that is no element may stand outside the root element. -/
def isMargin : Item → Bool
  | text run _ => run.all Bytes.isAsciiBlank
  | cdata .. => false
  | element .. | empty .. | aside .. => true

mutual

/-- An item inside an element has no event outside. -/
theorem outerEvents_inside : ∀ (item : Item) (depth : Nat) (rest : List Event),
    outerEvents (depth + 1) (item.events ++ rest) = outerEvents (depth + 1) rest
  | element tag items opening closing, depth, rest => by
      simp [events, outerEvents, outerEvents_insideAll items]
  | empty .., _, _ | text .., _, _ | cdata .., _, _ => rfl
  | aside kind _, _, _ => by cases kind <;> rfl

theorem outerEvents_insideAll : ∀ (items : List Item) (depth : Nat) (rest : List Event),
    outerEvents (depth + 1) (eventsAll items ++ rest) = outerEvents (depth + 1) rest
  | [], _, _ => rfl
  | item :: items, depth, rest => by
      rw [eventsAll, List.append_assoc, outerEvents_inside item, outerEvents_insideAll items]

end

/-- Outside there is what the items begin with. -/
theorem outerEvents_eventsAll (items : List Item) :
    outerEvents 0 (eventsAll items) = items.map opening := by
  induction items with
  | nil => rfl
  | cons item rest ih =>
      rw [eventsAll, List.map_cons, ← ih]
      cases item with
      | element tag items opening closing =>
          simp [events, outerEvents, outerEvents_insideAll items, Item.opening]
      | empty _ _ | text _ _ | cdata _ _ => rfl
      | aside kind _ => cases kind <;> rfl

end Item

end TierAudit.Markup

namespace TierAudit.Substvar
open Markup Text

/-- The texts of items that belong to a part of a declaration. -/
def capturedAll (items : List Item) : List Event :=
  (Item.declarationsAll items).flatMap Parts.texts

/-- What a document has to be like for it to declare variables. -/
structure Declarative (document : Document) : Prop where
  /-- The scan gets to the end. -/
  read : document.fault = none
  /-- Every end tag closes the innermost element, and in the end none is open. -/
  closed : openAfter [] document.events = some []
  one_root : (outerEvents 0 document.events).countP Event.isOpening = 1
  no_cdata_outside : ∀ event ∈ outerEvents 0 document.events, ∀ body, event.lexeme ≠ .cdata body
  blank_outside : ∀ event ∈ outerEvents 0 document.events, ∀ run, event.lexeme = .text run →
    ∀ b ∈ run, Bytes.isAsciiBlank b = true
  /-- The texts that are collected for a name or a value can be decoded and unescaped. -/
  readable : ∀ items, document.events = Item.eventsAll items →
    ∀ event ∈ capturedAll items, IsReadable event

/-! ### Whole documents -/

/-- Outside all elements, blank text and asides change nothing, and other text is refused. -/
theorem run_margin {vars : Variables} {seen : Bool} {item : Item} (h : item.isElement = false) :
    Settles (item.events.foldlM Progress.step (outside vars 0 seen)) (item.isMargin = true)
      (outside vars 0 seen) := by
  cases item with
  | element tag items opening closing => cases h
  | empty tag encoding => cases h
  | text run encoding =>
      by_cases hb : run.all Bytes.isAsciiBlank = true
      · simp [Item.events, Item.isMargin, Progress.step, hb, Settles.ok]
      · simp [Item.events, Item.isMargin, Progress.step, hb, Settles.error]
  | cdata body encoding => exact .error _ _ (by simp [Item.isMargin])
  | aside kind encoding => simp [Item.events, Item.isMargin, step_aside, Settles.ok]

/-- A second root element is refused. -/
theorem run_second_root {vars : Variables} {item : Item} (h : item.isElement = true) :
    ∃ cause, item.events.foldlM Progress.step (outside vars 0 true) = .error cause := by
  cases item with
  | element tag items opening closing => exact ⟨_, rfl⟩
  | empty tag encoding => exact ⟨_, rfl⟩
  | text run encoding => cases h
  | cdata body encoding => cases h
  | aside kind encoding => cases h

/-- What follows the root element. -/
theorem run_after_root {vars : Variables} (items : List Item) :
    Settles ((Item.eventsAll items).foldlM Progress.step (outside vars 0 true) >>= Progress.finish)
      (items.countP Item.isElement = 0 ∧ ∀ item ∈ items, item.isMargin = true) vars := by
  induction items with
  | nil => exact .ok vars ⟨rfl, by simp⟩
  | cons item rest ih =>
      rw [Item.eventsAll, List.foldlM_append, bind_assoc]
      by_cases he : item.isElement = true
      · obtain ⟨cause, hc⟩ := @run_second_root vars _ he
        rw [hc]
        exact .error cause vars (by simp [he])
      · refine ((run_margin (Bool.not_eq_true _ ▸ he)).bind fun _ => ih).congr ?_
        simp [he, and_left_comm]

/-- Without an element there is no declaration. -/
theorem declarationsAll_eq_nil {items : List Item} (h : items.countP Item.isElement = 0) :
    Item.declarationsAll items = [] := by
  induction items with
  | nil => rfl
  | cons item rest ih =>
      simp only [List.countP_eq_zero, List.forall_mem_cons] at h
      rw [Item.declarationsAll, ih (List.countP_eq_zero.mpr h.2), List.append_nil]
      cases item with
      | element tag items opening closing => exact absurd rfl h.1
      | empty _ _ | text _ _ | cdata _ _ | aside _ _ => rfl

theorem declarations_eq_nil {item : Item} (h : ¬ item.isElement = true) :
    item.declarations = [] := by
  simpa [Item.declarationsAll, h] using @declarationsAll_eq_nil [item]

/-- A list of items declares variables exactly if one of them is an element, the others may stand
beside it, and every text of a part can be read. -/
theorem run_document (items : List Item) :
    Settles (ofEvents (Item.eventsAll items))
      (items.countP Item.isElement = 1 ∧ (∀ item ∈ items, item.isMargin = true) ∧
        ∀ event ∈ capturedAll items, IsReadable event)
      ((Item.declarationsAll items).foldl Parts.declare .empty) := by
  induction items with
  | nil => exact .error _ _ (by simp)
  | cons item rest ih =>
      rw [ofEvents, Item.eventsAll, List.foldlM_append, bind_assoc]
      by_cases he : item.isElement = true
      -- The root element: no other may follow, so all declarations are inside this one.
      · have hm : item.isMargin = true := by cases item <;> first | rfl | cases he
        have hall : rest.countP Item.isElement = 0 → capturedAll (item :: rest) = item.captured :=
          fun h => by simp [capturedAll, Item.captured, Item.declarationsAll,
            declarationsAll_eq_nil h]
        refine (((run_root he).bind fun _ => run_after_root rest).congr ?_).congr_value ?_
        · simp only [List.countP_cons, he, if_true, Nat.add_eq_right, List.forall_mem_cons, hm,
            true_and]
          constructor
          · rintro ⟨hr, hc, hrest⟩
            exact ⟨hc, hrest, hall hc ▸ hr⟩
          · rintro ⟨hc, hrest, hr⟩
            exact ⟨hall hc ▸ hr, hc, hrest⟩
        · rintro ⟨hc, -⟩
          rw [List.countP_cons, if_pos he] at hc
          rw [ofList_pairs, Item.declarationsAll, declarationsAll_eq_nil (by omega),
            List.append_nil]
      · have hn := declarations_eq_nil he
        refine (((run_margin (Bool.not_eq_true _ ▸ he)).bind fun _ => ih).congr ?_).congr_value ?_
        · simp [he, and_assoc, and_left_comm, capturedAll, Item.declarationsAll, hn]
        · exact fun _ => by rw [Item.declarationsAll, hn, List.nil_append]

/-! ### The condition on events -/

theorem isOpening_opening (item : Item) : item.opening.isOpening = item.isElement := by
  cases item with
  | aside kind _ => cases kind <;> rfl
  | element _ _ _ _ | empty _ _ | text _ _ | cdata _ _ => rfl

theorem isMargin_iff (item : Item) : item.isMargin = true ↔
    (∀ body, item.opening.lexeme ≠ .cdata body) ∧
      ∀ run, item.opening.lexeme = .text run → ∀ b ∈ run, Bytes.isAsciiBlank b = true := by
  cases item with
  | aside kind _ => cases kind <;> simp [Item.isMargin, Item.opening, Aside.lexeme]
  | element _ _ _ _ | empty _ _ | text _ _ | cdata _ _ => simp [Item.isMargin, Item.opening]

/-- The condition on the items of a document says the same of its events. -/
theorem outside_iff (items : List Item) :
    (items.countP Item.isElement = 1 ∧ ∀ item ∈ items, item.isMargin = true) ↔
      (outerEvents 0 (Item.eventsAll items)).countP Event.isOpening = 1 ∧
        (∀ event ∈ outerEvents 0 (Item.eventsAll items), ∀ body, event.lexeme ≠ .cdata body) ∧
        ∀ event ∈ outerEvents 0 (Item.eventsAll items), ∀ run, event.lexeme = .text run →
          ∀ b ∈ run, Bytes.isAsciiBlank b = true := by
  have hcount : (items.map Item.opening).countP Event.isOpening = items.countP Item.isElement := by
    rw [List.countP_map]
    exact List.countP_congr fun item _ => by rw [Function.comp, isOpening_opening]
  simp only [Item.outerEvents_eventsAll, hcount, List.forall_mem_map, isMargin_iff]
  refine and_congr_right fun _ => ?_
  exact ⟨fun h => ⟨fun i hi => (h i hi).1, fun i hi => (h i hi).2⟩,
    fun h i hi => ⟨h.1 i hi, h.2 i hi⟩⟩

theorem ofDocument_of_read {document : Document} (h : document.fault = none) :
    ofDocument document = ofEvents document.events := by
  simp only [ofDocument, h]
  rfl

/-- A document that is accepted has been read to its end, with no element left open. -/
theorem closed_of_ofDocument {document : Document} {names : List Bytes} {vars : Variables}
    (hn : openAfter [] document.events = some names) (h : ofDocument document = .ok vars) :
    document.fault = none ∧ names = [] := by
  unfold ofDocument at h
  obtain ⟨p, hrun, h⟩ := bind_eq_ok_iff.mp h
  cases hf : document.fault with
  | some fault =>
      rw [hf] at h
      cases h
  | none =>
      rw [hf] at h
      change p.finish = .ok vars at h
      refine ⟨rfl, List.length_eq_zero_iff.mp ?_⟩
      rw [← depth_run hrun hn rfl]
      by_cases hd : p.depth = 0
      · exact hd
      · simp [Progress.finish, hd] at h

/-- A document whose end tags match is accepted exactly if it is declarative. -/
theorem ofDocument_iff {document : Document} {names : List Bytes}
    (hn : openAfter [] document.events = some names) :
    (∃ vars, ofDocument document = .ok vars) ↔ Declarative document := by
  constructor
  · rintro ⟨vars, h⟩
    -- Read to its end with nothing open, so the events are those of items.
    obtain ⟨hread, rfl⟩ := closed_of_ofDocument hn h
    rw [ofDocument_of_read hread] at h
    have accepted : ∀ items, document.events = Item.eventsAll items → _ :=
      fun items hi => (run_document items).exists_iff.mp ⟨vars, hi ▸ h⟩
    obtain ⟨items, hi⟩ := exists_items hn
    obtain ⟨hcount, hmargin, -⟩ := accepted items hi
    obtain ⟨hroot, hcdata, hblank⟩ := (outside_iff items).mp ⟨hcount, hmargin⟩
    rw [← hi] at hroot hcdata hblank
    exact ⟨hread, hn, hroot, hcdata, hblank, fun items' hi' => (accepted items' hi').2.2⟩
  · intro hd
    obtain ⟨items, hi⟩ := exists_items hd.closed
    have hout := (outside_iff items).mpr (hi ▸ ⟨hd.one_root, hd.no_cdata_outside, hd.blank_outside⟩)
    rw [ofDocument_of_read hd.read, hi]
    exact (run_document items).exists_iff.mpr ⟨hout.1, hout.2, hd.readable items hi⟩

/-- **What is accepted.**  The bytes of a file, and a text, declare variables exactly if the
document that they make is declarative. -/
theorem accepts_iff :
    (∀ bytes, (∃ vars, ofBytes bytes = .ok vars) ↔ Declarative (.ofBytes bytes)) ∧
      ∀ text, (∃ vars, ofText text = .ok vars) ↔ Declarative (.ofText text) := by
  have closes : ∀ encoding settled bytes,
      ∃ names, openAfter [] (Document.scan encoding settled bytes).events = some names :=
    fun encoding settled bytes => openAfter_scan ⟨encoding, settled, []⟩ bytes
  constructor
  · intro bytes
    have ⟨names, hn⟩ : ∃ names, openAfter [] (Document.ofBytes bytes).events = some names := by
      unfold Document.ofBytes
      split <;> exact closes ..
    exact ofDocument_iff hn
  · intro text
    have ⟨names, hn⟩ : ∃ names, openAfter [] (Document.ofText text).events = some names := by
      simp only [Document.ofText]
      split <;> exact closes ..
    exact ofDocument_iff hn

end TierAudit.Substvar
