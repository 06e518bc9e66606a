import TierAudit.Proofs.Markup.Recoding
import TierAudit.Proofs.Markup.RootEnd
import TierAudit.Proofs.Text.CodePage

/-!
# Markup — transcoding

The same document in two encodings.  Once the encoding is known, a scan of recoded bytes has the
recoded events and the fault of the other (`fromContext_recode`).  Before that, a scan that learns
nothing else from a declaration is one that knew (`fromContext_unsettled`).
-/

namespace TierAudit.Markup
open Text
open Bytes (Recoding)

/-- A scan takes one lexeme off the bytes. -/
theorem fromContext_eq {bytes : Bytes} (hne : bytes ≠ []) (context : Context) :
    Scan.fromContext context bytes =
      match lex bytes with
      | .error fault => ⟨[], some (bytes.length, fault)⟩
      | .ok (lexeme, rest) =>
        match context.after lexeme with
        | .error fault => ⟨[], some (bytes.length, fault)⟩
        | .ok context' =>
          (Scan.fromContext context' rest).prepend [⟨lexeme, context.encoding⟩] := by
  rw [Scan.fromContext, dif_neg hne]
  split
  · next h => rw [h]
  · next h =>
    rw [h]
    rfl

/-! ### The same document in another encoding -/

/-- The event of recoded bytes. -/
def Event.recode (f : Recoding) (target : Encoding) (event : Event) : Event :=
  ⟨event.lexeme.recode f, target⟩

namespace Context

/-- What is known between two lexemes of recoded bytes. -/
def recode (f : Recoding) (target : Encoding) (context : Context) : Context :=
  ⟨target, context.settled, context.openNames.map f.apply⟩

/-- The encoding is this one up to the end. -/
structure Keeps (context : Context) (encoding : Encoding) : Prop where
  settled_eq : context.settled = true
  encoding_eq : context.encoding = encoding

variable {context context' : Context} {f : Recoding} {source target : Encoding} {lexeme : Lexeme}

theorem Keeps.after (h : context.Keeps source) (hafter : context.after lexeme = .ok context') :
    context'.Keeps source := by
  cases lexeme with
  | start tag =>
      cases hafter
      exact ⟨h.settled_eq, h.encoding_eq⟩
  | finish name =>
      simp only [Context.after] at hafter
      split at hafter
      · cases hafter
      · split at hafter
        · cases hafter
          exact ⟨h.settled_eq, h.encoding_eq⟩
        · cases hafter
  | declaration body =>
      simp only [Context.after, h.settled_eq, if_true] at hafter
      cases hafter
      exact h
  | text _ | empty _ | cdata _ | comment _ | instruction _ | doctype _ =>
      cases hafter
      exact h

theorem nameText_recode (hf : f.Transcodes source target) (h : context.Keeps source)
    (name : Bytes) : (context.recode f target).nameText (f.apply name) = context.nameText name := by
  rw [nameText, nameText, h.encoding_eq, ← hf.decode? name]
  rfl

/-- **After a recoded lexeme** the same is known. -/
theorem after_recode (hf : f.Transcodes source target) (h : context.Keeps source)
    (lexeme : Lexeme) : (context.recode f target).after (lexeme.recode f) =
      (context.after lexeme).map (recode f target) := by
  have hname := nameText_recode hf h
  obtain ⟨encoding, settled, names⟩ := context
  obtain ⟨rfl, rfl⟩ := h
  cases lexeme with
  | start tag =>
      simp only [Lexeme.recode, Context.after, Tag.name_recode]
      rfl
  | finish name =>
      simp only [Lexeme.recode, Context.after, hname]
      cases names with
      | nil => rfl
      | cons expected outer =>
          simp only [recode, List.map_cons]
          by_cases heq : name = expected
          · rw [if_pos heq, if_pos (congrArg f.apply heq)]
            rfl
          · rw [if_neg heq, if_neg (mt hf.injective heq)]
            have hexpected := hname expected
            simp only [recode, List.map_cons] at hexpected
            rw [hexpected]
            rfl
  | text _ | empty _ | cdata _ | comment _ | instruction _ | declaration _ | doctype _ => rfl

end Context

section
variable {context : Context} {f : Recoding} {source target : Encoding}

/-- The events are in the encoding that is known. -/
theorem encoding_of_mem_events (h : context.Keeps source) (bytes : Bytes) :
    ∀ event ∈ (Scan.fromContext context bytes).events, event.encoding = source := by
  fun_induction Scan.fromContext context bytes with
  | case1 | case2 | case3 => exact List.forall_mem_nil _
  | case4 context bytes hne lexeme rest hlex context' hafter scan ih =>
      exact List.forall_mem_cons.mpr ⟨h.encoding_eq, ih (h.after hafter)⟩

/-- **The same document in another encoding** is scanned as the same events, up to the same
fault. -/
theorem fromContext_recode (hf : f.Transcodes source target) (h : context.Keeps source)
    (bytes : Bytes) :
    (Scan.fromContext (context.recode f target) (f.apply bytes)).events =
        (Scan.fromContext context bytes).events.map (Event.recode f target) ∧
      (Scan.fromContext (context.recode f target) (f.apply bytes)).fault.map (·.2) =
        (Scan.fromContext context bytes).fault.map (·.2) := by
  fun_induction Scan.fromContext context bytes with
  | case1 =>
      rw [Recoding.apply_nil, Scan.fromContext, dif_pos rfl]
      exact ⟨rfl, rfl⟩
  | case2 context bytes hne fault hlex =>
      rw [fromContext_eq (mt f.apply_eq_nil_iff.mp hne), lex_apply, hlex]
      exact ⟨rfl, rfl⟩
  | case3 context bytes hne lexeme rest hlex fault hafter =>
      rw [fromContext_eq (mt f.apply_eq_nil_iff.mp hne), lex_apply, hlex]
      simp only [recodeCut, Except.map, Prod.map, Context.after_recode hf h, hafter]
      exact ⟨rfl, rfl⟩
  | case4 context bytes hne lexeme rest hlex context' hafter scan ih =>
      obtain ⟨hevents, hfault⟩ := ih (h.after hafter)
      rw [fromContext_eq (mt f.apply_eq_nil_iff.mp hne), lex_apply, hlex]
      simp only [recodeCut, Except.map, Prod.map, Context.after_recode hf h, hafter]
      exact ⟨congrArg (_ :: ·) hevents, hfault⟩

end

/-! ### Declarations that change nothing -/

/-- What a declaration says. -/
def Lexeme.declaration? : Lexeme → Option Bytes
  | .declaration body => some body
  | _ => none

/-- What the declarations of a document say. -/
def declarations (events : List Event) : List Bytes :=
  events.filterMap (·.lexeme.declaration?)

/-- The encoding may still change. -/
def Context.unsettled (context : Context) : Context := { context with settled := false }

namespace Context
variable {context : Context} {source : Encoding} {lexeme : Lexeme}

/-- After a lexeme that declares nothing else the encoding may still change, or it is known. -/
theorem Keeps.after_unsettled (h : context.Keeps source)
    (hdeclared : ∀ body ∈ lexeme.declaration?, ∀ encoding ∈ declared? body, encoding = source) :
    context.unsettled.after lexeme = context.after lexeme ∨
      context.unsettled.after lexeme = (context.after lexeme).map unsettled := by
  obtain ⟨encoding, settled, names⟩ := context
  obtain ⟨rfl, rfl⟩ := h
  cases lexeme with
  | finish name =>
      refine .inr ?_
      cases names with
      | nil => rfl
      | cons expected outer =>
          simp only [Context.after, unsettled]
          split <;> rfl
  | declaration body =>
      simp only [Context.after, unsettled]
      cases hbody : declared? body with
      | none => exact .inr rfl
      | some encoding =>
          obtain rfl := hdeclared body rfl encoding hbody
          exact .inl rfl
  | start _ | text _ | empty _ | cdata _ | comment _ | instruction _ | doctype _ => exact .inr rfl

/-- A declaration is never at fault. -/
theorem declaration?_eq_none {fault : Fault} (hafter : context.after lexeme = .error fault) :
    lexeme.declaration? = none := by
  cases lexeme with
  | declaration body =>
      simp only [Context.after] at hafter
      split at hafter
      · cases hafter
      · split at hafter <;> cases hafter
  | start _ | finish _ | text _ | empty _ | cdata _ | comment _ | instruction _ | doctype _ => rfl

end Context

/-- **A scan that learns nothing else** about the encoding is one that knew it. -/
theorem fromContext_unsettled {context : Context} {source : Encoding} (h : context.Keeps source)
    (bytes : Bytes)
    (hdeclared : ∀ body ∈ declarations (Scan.fromContext context bytes).events,
      ∀ encoding ∈ Context.declared? body, encoding = source) :
    Scan.fromContext context.unsettled bytes = Scan.fromContext context bytes := by
  fun_induction Scan.fromContext context bytes with
  | case1 => rw [Scan.fromContext, dif_pos rfl]
  | case2 context bytes hne fault hlex => rw [fromContext_eq hne, hlex]
  | case3 context bytes hne lexeme rest hlex fault hafter =>
      have hnone : ∀ body ∈ lexeme.declaration?,
          ∀ encoding ∈ Context.declared? body, encoding = source := by
        rw [Context.declaration?_eq_none hafter]
        exact fun body hbody => by cases hbody
      have hafter' : context.unsettled.after lexeme = .error fault := by
        rcases h.after_unsettled hnone with heq | heq
        · rw [heq, hafter]
        · rw [heq, hafter]
          rfl
      rw [fromContext_eq hne, hlex]
      simp only [hafter']
  | case4 context bytes hne lexeme rest hlex context' hafter scan ih =>
      simp only [declarations, List.mem_filterMap, List.mem_cons] at hdeclared
      have hhere : ∀ body ∈ lexeme.declaration?,
          ∀ encoding ∈ Context.declared? body, encoding = source :=
        fun body hbody => hdeclared body ⟨_, .inl rfl, hbody⟩
      have hrest : Scan.fromContext context'.unsettled rest = Scan.fromContext context' rest := by
        refine ih (h.after hafter) fun body hbody => ?_
        obtain ⟨event, hevent, hbody⟩ := List.mem_filterMap.mp hbody
        exact hdeclared body ⟨event, .inr hevent, hbody⟩
      rw [fromContext_eq hne, hlex]
      rcases h.after_unsettled hhere with heq | heq
      · simp only [heq, hafter]
        rfl
      · simp only [heq, hafter, Except.map, hrest]
        rfl

/-! ### The start of a document -/

/-- The mark of UTF-8. -/
def byteOrderMark : Bytes := [0xEF, 0xBB, 0xBF]

namespace Document

theorem ofBytes_of_ofMark? {bytes : Bytes} (h : Encoding.ofMark? bytes = none) :
    ofBytes bytes = scan .utf8 false bytes := by
  rw [ofBytes, h]

theorem ofText_of_ofMark? {text : String} (h : Encoding.ofMark? (Bytes.ofText text) = none) :
    ofText text = scan .utf8 true (Bytes.ofText text) := by
  rw [ofText]
  simp only [h]

end Document

/-- The first bytes of a text give no encoding away, unless it begins with a mark or has a NUL. -/
theorem ofMark?_ofText {text : String} (hnul : '\x00' ∉ text.toList)
    (hmark : text.toList.head? ≠ some '\ufeff') : Encoding.ofMark? (Bytes.ofText text) = none := by
  have hread : Utf8.decodeFrom none (Bytes.ofText text) = some text.toList :=
    Utf8.decode?_flatMap text.toList
  have hzero : (0x00 : UInt8) ∉ Bytes.ofText text :=
    fun hmem => hnul (Utf8.mem_of_ofAscii_mem (c := '\x00') (by decide) hmem)
  cases hfound : Encoding.ofMark? (Bytes.ofText text) with
  | none => rfl
  | some found =>
      obtain ⟨entry, hentry, ⟨rest, hrest⟩, -⟩ := Encoding.ofMark?_eq_some_iff.mp hfound
      rw [← hrest] at hread hzero
      simp only [Encoding.signatures, List.mem_cons, List.not_mem_nil, or_false] at hentry
      rcases hentry with rfl | rfl | rfl | rfl | rfl
      · cases hread
      · cases hread
      · have hfirst := Utf8.decodeFrom_encode '\ufeff' rest
        have hbytes : String.utf8EncodeChar '\ufeff' = [0xEF, 0xBB, 0xBF] := by decide
        rw [hbytes, hread] at hfirst
        obtain ⟨chars, -, hchars⟩ := Option.map_eq_some_iff.mp hfirst.symm
        exact absurd (by rw [← hchars]; rfl) hmark
      · exact absurd (by simp) hzero
      · exact absurd (by simp) hzero

/-- A document that begins with a declaration has no mark. -/
theorem ofMark?_of_declaration {bytes body rest : Bytes}
    (h : lex bytes = .ok (.declaration body, rest)) : Encoding.ofMark? bytes = none := by
  cases hfound : Encoding.ofMark? bytes with
  | none => rfl
  | some found =>
      obtain ⟨entry, hentry, ⟨more, rfl⟩, -⟩ := Encoding.ofMark?_eq_some_iff.mp hfound
      simp only [Encoding.signatures, List.mem_cons, List.not_mem_nil, or_false] at hentry
      -- Behind all but the last of the marks stands text, and behind that one a tag.
      rcases hentry with rfl | rfl | rfl | rfl | rfl
      · cases h
      · cases h
      · cases h
      · cases h
      · change lexTag _ = _ at h
        unfold lexTag at h
        split at h
        · split at h <;> cases h
        · cases h

end TierAudit.Markup
