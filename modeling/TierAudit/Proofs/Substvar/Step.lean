import TierAudit.Proofs.Except
import TierAudit.Proofs.Markup.Nesting
import TierAudit.Substvar

/-!
# Substitution variable files — one event

All that an event can do to the machine, once for everything that is kept along a run
(`does_of_step`): which elements may begin and end, and what becomes of a declaration in the making.
The first thing that is kept is the depth, which is the number of elements that are open
(`depth_run`).
-/

namespace TierAudit.Markup

/-- Whether a lexeme begins or ends an element. -/
def Lexeme.isTag : Lexeme → Bool
  | start _ | empty _ | finish _ => true
  | text _ | cdata _ | comment _ | instruction _ | declaration _ | doctype _ => false

end TierAudit.Markup

namespace TierAudit.Substvar
open Markup Text

namespace Progress

/-- An element may begin unless the root element has ended. -/
def AdmitsElement (p : Progress) : Prop := p.seenRoot = true → p.depth ≠ 0

/-- What the machine does with a lexeme that it accepts. -/
inductive Does (p : Progress) : Lexeme → Progress → Prop
  /-- An element begins inside a declaration. -/
  | opensInside (tag : Tag) (pending : Pending) (hroot : p.AdmitsElement)
      (hpending : p.pending = some pending) :
      p.Does (.start tag)
        ⟨p.vars, p.depth + 1, true, some (pending.openElement tag.localName (p.depth + 1))⟩
  /-- A declaration begins. -/
  | opensDeclaration (tag : Tag) (hroot : p.AdmitsElement) (hpending : p.pending = none)
      (hname : tag.localName = globalVariable) :
      p.Does (.start tag) ⟨p.vars, p.depth + 1, true, some (.new (p.depth + 1))⟩
  /-- Any other element begins. -/
  | opensOutside (tag : Tag) (hroot : p.AdmitsElement) (hpending : p.pending = none)
      (hname : tag.localName ≠ globalVariable) :
      p.Does (.start tag) ⟨p.vars, p.depth + 1, true, none⟩
  | isEmpty (tag : Tag) (hroot : p.AdmitsElement) :
      p.Does (.empty tag)
        ⟨p.vars, p.depth, true, p.pending.map (·.emptyElement tag.localName)⟩
  /-- An element inside a declaration ends. -/
  | closesInside (name : Bytes) (pending : Pending) (hpending : p.pending = some pending)
      (hdepth : pending.depth ≠ p.depth) :
      p.Does (.finish name)
        ⟨p.vars, p.depth - 1, p.seenRoot, some (pending.closeElement p.depth)⟩
  /-- A declaration ends. -/
  | closesDeclaration (name : Bytes) (pending : Pending) (hpending : p.pending = some pending)
      (hdepth : pending.depth = p.depth) :
      p.Does (.finish name)
        ⟨(pending.closeElement p.depth).declare p.vars, p.depth - 1, p.seenRoot, none⟩
  /-- Any other element ends. -/
  | closesOutside (name : Bytes) (hpending : p.pending = none) :
      p.Does (.finish name) ⟨p.vars, p.depth - 1, p.seenRoot, none⟩
  /-- Text is collected, if anything is. -/
  | collects (lexeme : Lexeme) (text : String) (htag : lexeme.isTag = false)
      (hdepth : p.depth ≠ 0) :
      p.Does lexeme ⟨p.vars, p.depth, p.seenRoot, p.pending.map (·.addText text)⟩
  | passes (lexeme : Lexeme) (htag : lexeme.isTag = false) : p.Does lexeme p

end Progress

/-! ### The depth of a declaration -/

namespace Pending

theorem depth_openElement (pending : Pending) (localName : Bytes) (depth : Nat) :
    (pending.openElement localName depth).depth = pending.depth := by
  unfold openElement
  split <;> rfl

theorem depth_store (pending : Pending) (text : String) (field : Field) :
    (pending.store text field).depth = pending.depth := by
  cases field <;> rfl

theorem depth_emptyElement (pending : Pending) (localName : Bytes) :
    (pending.emptyElement localName).depth = pending.depth := by
  unfold emptyElement
  split
  · exact depth_store ..
  · rfl

theorem depth_closeElement (pending : Pending) (depth : Nat) :
    (pending.closeElement depth).depth = pending.depth := by
  unfold closeElement
  split
  · split
    · exact depth_store ..
    · rfl
  · rfl

end Pending

/-! ### What a step can do -/

namespace Progress
variable {p p' : Progress} {lexeme : Lexeme} {encoding : Encoding}

theorem admitsElement_of {p : Progress} (h : ¬(p.seenRoot && decide (p.depth = 0)) = true) :
    p.AdmitsElement := by
  intro hseen hdepth
  simp [hseen, hdepth] at h

theorem does_of_openElement {tag : Tag} (h : p.openElement tag.localName = .ok p') :
    p.Does (.start tag) p' := by
  unfold openElement at h
  split at h
  · cases h
  · next hroot =>
    cases h
    cases hpending : p.pending with
    | some pending =>
        exact .opensInside tag pending (admitsElement_of hroot) hpending
    | none =>
        by_cases hname : tag.localName = globalVariable
        · simp only [if_pos hname]
          exact .opensDeclaration tag (admitsElement_of hroot) hpending hname
        · simp only [if_neg hname]
          exact .opensOutside tag (admitsElement_of hroot) hpending hname

theorem does_of_emptyElement {tag : Tag} (h : p.emptyElement tag.localName = .ok p') :
    p.Does (.empty tag) p' := by
  unfold emptyElement at h
  split at h
  · cases h
  · next hroot =>
    cases h
    exact .isEmpty tag (admitsElement_of hroot)

theorem does_closeElement (name : Bytes) : p.Does (.finish name) p.closeElement := by
  unfold closeElement
  cases hpending : p.pending with
  | some pending =>
      by_cases hdepth : pending.depth = p.depth
      · simp only [Pending.depth_closeElement, if_pos hdepth]
        exact .closesDeclaration name pending hpending hdepth
      · simp only [Pending.depth_closeElement, if_neg hdepth]
        exact .closesInside name pending hpending hdepth
  | none => exact .closesOutside name hpending

theorem does_of_addText {text : Except Cause String} (htag : lexeme.isTag = false)
    (hdepth : p.depth ≠ 0) (h : p.addText text = .ok p') : p.Does lexeme p' := by
  unfold addText at h
  split at h
  · obtain ⟨text, -, h⟩ := bind_eq_ok_iff.mp h
    cases h
    exact .collects lexeme text htag hdepth
  · cases h
    exact .passes lexeme htag

/-- **One event.**  What is accepted is one of these. -/
theorem does_of_step (h : p.step ⟨lexeme, encoding⟩ = .ok p') : p.Does lexeme p' := by
  cases lexeme with
  | start tag => exact does_of_openElement h
  | empty tag => exact does_of_emptyElement h
  | finish name =>
      cases h
      exact does_closeElement name
  | text run =>
      simp only [step] at h
      split at h
      · split at h
        · cases h
          exact .passes _ rfl
        · cases h
      · next hdepth => exact does_of_addText rfl hdepth h
  | cdata body =>
      simp only [step] at h
      split at h
      · cases h
      · next hdepth => exact does_of_addText rfl hdepth h
  | comment _ | instruction _ | declaration _ | doctype _ =>
      cases h
      exact .passes _ rfl

end Progress

/-! ### The depth of the machine -/

/-- An event changes the depth by the element that it begins or ends. -/
theorem depth_step {p p' : Progress} {event : Event} (h : p.step event = .ok p') :
    p'.depth = match event.lexeme with
      | .start _ => p.depth + 1
      | .finish _ => p.depth - 1
      | _ => p.depth := by
  obtain ⟨lexeme, encoding⟩ := event
  cases Progress.does_of_step h with
  | opensInside | opensDeclaration | opensOutside => rfl
  | isEmpty => rfl
  | closesInside | closesDeclaration | closesOutside => rfl
  | collects _ text htag | passes _ htag => cases lexeme <;> first | rfl | cases htag

/-- An event counts the elements that are open. -/
theorem depth_openAfter {p p' : Progress} {names names' : List Bytes} {event : Event}
    (h : p.step event = .ok p') (hn : event.openAfter names = some names')
    (hd : p.depth = names.length) : p'.depth = names'.length := by
  rw [depth_step h]
  obtain ⟨lexeme, encoding⟩ := event
  cases lexeme with
  | start tag =>
      cases hn
      exact congrArg (· + 1) hd
  | finish name =>
      cases names with
      | nil => cases hn
      | cons expected outer =>
          simp only [Event.openAfter] at hn
          split at hn
          · cases hn
            exact congrArg (· - 1) hd
          · cases hn
  | text _ | empty _ | cdata _ | comment _ | instruction _ | declaration _ | doctype _ =>
      cases hn
      exact hd

/-- The depth is the number of open elements. -/
theorem depth_run {p p' : Progress} {names names' : List Bytes} {events : List Event}
    (h : events.foldlM Progress.step p = .ok p') (hn : openAfter names events = some names')
    (hd : p.depth = names.length) : p'.depth = names'.length := by
  induction events generalizing p names with
  | nil =>
      cases h
      cases hn
      exact hd
  | cons event rest ih =>
      obtain ⟨between, hfirst, hrest⟩ := Option.bind_eq_some_iff.mp hn
      rw [List.foldlM_cons] at h
      obtain ⟨q, hq, h⟩ := bind_eq_ok_iff.mp h
      exact ih h hrest (depth_openAfter hq hfirst hd)

end TierAudit.Substvar
