import TierAudit.Proofs.Markup.Nesting
import TierAudit.Proofs.Markup.RootEnd
import TierAudit.Proofs.Substvar.Step

/-!
# Substitution variable files — what the machine keeps

Between two events the machine counts the elements that the reader holds open, and what it has in
the making stands among them: a declaration in an open element, and a part that is being collected
in an open element inside that one (`Progress.Fits`).  One event keeps this (`Progress.Fits.next`),
and changes a declaration only as it should (`Progress.Fits.advances`): a part is stored where there
is none, and a declaration ends with its own element, while nothing is being collected.  So whatever
the document, nothing is left over when its last element has ended (`consistent_run`).
-/

namespace TierAudit.Markup
open Text

/-! ### What the reader holds open -/

namespace Context

/-- What is known after events. -/
def afterAll (context : Context) (events : List Event) : Except Fault Context :=
  events.foldlM (fun context event => context.after event.lexeme) context

/-- What is known before the first lexeme of a file. -/
def ofBytes (bytes : Bytes) : Context :=
  ⟨(Encoding.ofMark? bytes).map (·.1) |>.getD .utf8, false, []⟩

/-- What is known before the first lexeme of a text. -/
def ofText : Context := ⟨.utf8, true, []⟩

variable {context context' : Context}

/-- An end tag ends the innermost element. -/
theorem openNames_of_finish {name : Bytes} (h : context.after (.finish name) = .ok context') :
    context.openNames = name :: context'.openNames := by
  simp only [after] at h
  split at h
  · cases h
  · next expected outer hnames =>
    split at h
    · next hname =>
      cases h
      rw [hnames, hname]
    · cases h

/-- The events of a scan are those that the reader gets past. -/
theorem afterAll_scan (context : Context) (bytes : Bytes) :
    ∃ context', context.afterAll (Scan.fromContext context bytes).events = .ok context' := by
  fun_induction Scan.fromContext context bytes with
  | case1 | case2 | case3 => exact ⟨_, rfl⟩
  | case4 context bytes hne lexeme rest hlex context' hafter scan ih =>
      obtain ⟨last, hlast⟩ := ih
      exact ⟨last, bind_eq_ok_iff.mpr ⟨context', hafter, hlast⟩⟩

theorem afterAll_ofBytes (bytes : Bytes) :
    ∃ context, (ofBytes bytes).afterAll (Document.ofBytes bytes).events = .ok context := by
  rw [Document.ofBytes_eq]
  exact afterAll_scan (ofBytes bytes) _

theorem afterAll_ofText (text : String) :
    ∃ context, ofText.afterAll (Document.ofText text).events = .ok context := by
  rw [Document.ofText_eq]
  exact afterAll_scan ofText _

theorem afterAll_append_iff {events events' : List Event} :
    context.afterAll (events ++ events') = .ok context' ↔
      ∃ between, context.afterAll events = .ok between ∧
        between.afterAll events' = .ok context' := by
  unfold afterAll
  rw [List.foldlM_append, bind_eq_ok_iff]

end Context
end TierAudit.Markup

namespace TierAudit.Substvar
open Markup Text

/-! ### Declarations in the making -/

namespace Pending

/-- The element of a declaration is one of so many that are open, and so is, inside it, the element
of the part that is being collected.  That part is not there yet. -/
structure Fits (pending : Pending) (depth : Nat) : Prop where
  pos : 1 ≤ pending.depth
  le : pending.depth ≤ depth
  lt_capture : ∀ c ∈ pending.capture, pending.depth < c.depth
  capture_le : ∀ c ∈ pending.capture, c.depth ≤ depth
  capture_unset : ∀ c ∈ pending.capture, pending.get c.field = none

/-- The same declaration, with one part more at the most.  What was there is as it was. -/
structure Grows (pending pending' : Pending) : Prop where
  depth_eq : pending'.depth = pending.depth
  parts : (∀ field, pending'.get field = pending.get field) ∨
    ∃ stored text, pending.get stored = none ∧
      ∀ field, pending'.get field = (pending.store text stored).get field

/-- The same declaration, with all the parts that there were. -/
structure Keeps (pending pending' : Pending) : Prop where
  depth_eq : pending'.depth = pending.depth
  get_eq : ∀ field text, pending.get field = some text → pending'.get field = some text

variable {pending : Pending} {localName : Bytes} {depth : Nat}

theorem get_store (pending : Pending) (text : String) (stored field : Field) :
    (pending.store text stored).get field = if stored = field then some text
      else pending.get field := by
  cases stored <;> cases field <;> rfl

theorem Grows.keeps {pending' : Pending} (h : pending.Grows pending') : pending.Keeps pending' := by
  refine ⟨h.depth_eq, fun field text hfield => ?_⟩
  rcases h.parts with hsame | ⟨stored, other, hunset, hparts⟩
  · rw [hsame, hfield]
  · have hne : stored ≠ field := by
      rintro rfl
      rw [hunset] at hfield
      cases hfield
    rw [hparts, get_store, if_neg hne, hfield]

theorem Keeps.trans {pending' pending'' : Pending} (h : pending.Keeps pending')
    (h' : pending'.Keeps pending'') : pending.Keeps pending'' :=
  ⟨h'.depth_eq.trans h.depth_eq, fun field text ht => h'.get_eq field text (h.get_eq field text ht)⟩

theorem wanted?_eq_some {field : Field} (h : pending.wanted? localName = some field) :
    pending.capture = none ∧ pending.get field = none := by
  unfold wanted? at h
  split at h
  · cases h
  · next hcapture =>
    obtain ⟨-, hunset⟩ := Option.filter_eq_some_iff.mp h
    exact ⟨Option.not_isSome_iff_eq_none.mp hcapture, Option.isNone_iff_eq_none.mp hunset⟩

theorem fits_new (depth : Nat) : (new (depth + 1)).Fits (depth + 1) where
  pos := Nat.le_add_left 1 depth
  le := Nat.le_refl _
  lt_capture _ h := by cases h
  capture_le _ h := by cases h
  capture_unset _ h := by cases h

namespace Fits

/-- Without a part that is being collected there is nothing more to it. -/
theorem of_capture_eq_none (hpos : 1 ≤ pending.depth) (hle : pending.depth ≤ depth)
    (h : pending.capture = none) : pending.Fits depth where
  pos := hpos
  le := hle
  lt_capture c hc := by simp [h] at hc
  capture_le c hc := by simp [h] at hc
  capture_unset c hc := by simp [h] at hc

theorem openElement (h : pending.Fits depth) (localName : Bytes) :
    (pending.openElement localName (depth + 1)).Fits (depth + 1) := by
  unfold Pending.openElement
  split
  · next field hwanted =>
    have hlt := Nat.lt_succ_of_le h.le
    refine ⟨h.pos, Nat.le_of_lt hlt, ?_, ?_, ?_⟩
    all_goals
      intro c hc
      obtain rfl := Option.some.inj hc
    · exact hlt
    · exact Nat.le_refl _
    · exact (wanted?_eq_some hwanted).2
  · exact ⟨h.pos, Nat.le_succ_of_le h.le, h.lt_capture,
      fun c hc => Nat.le_succ_of_le (h.capture_le c hc), h.capture_unset⟩

theorem emptyElement (h : pending.Fits depth) (localName : Bytes) :
    (pending.emptyElement localName).Fits depth := by
  unfold Pending.emptyElement
  split
  · next field hwanted =>
    have hcapture := (wanted?_eq_some hwanted).1
    cases field <;> exact .of_capture_eq_none h.pos h.le hcapture
  · exact h

theorem addText (h : pending.Fits depth) (text : String) : (pending.addText text).Fits depth := by
  refine ⟨h.pos, h.le, ?_, ?_, ?_⟩
  all_goals
    intro c hc
    obtain ⟨old, hold, rfl⟩ := Option.map_eq_some_iff.mp hc
  · exact h.lt_capture old hold
  · exact h.capture_le old hold
  · exact h.capture_unset old hold

/-- The end of an element inside the declaration. -/
theorem closeElement (h : pending.Fits depth) (hdepth : pending.depth ≠ depth) :
    (pending.closeElement depth).Fits (depth - 1) := by
  have hle : pending.depth ≤ depth - 1 := by
    have := h.le
    omega
  unfold Pending.closeElement
  split
  · next c hc =>
    split
    · cases c.field <;> exact .of_capture_eq_none h.pos hle rfl
    · next hopen =>
      -- The element that is being collected is another one, so it is still open.
      refine ⟨h.pos, hle, h.lt_capture, fun c' hc' => ?_, h.capture_unset⟩
      obtain rfl : c = c' := Option.some.inj (hc ▸ hc')
      have := h.capture_le c hc
      omega
  · next hnone => exact .of_capture_eq_none h.pos hle hnone

/-- At the end of the declaration's own element nothing is being collected. -/
theorem capture_eq_none (h : pending.Fits depth) (hdepth : pending.depth = depth) :
    pending.capture = none := by
  refine Option.eq_none_iff_forall_ne_some.mpr fun c hc => ?_
  have hlt := h.lt_capture c hc
  have hle := h.capture_le c hc
  omega

end Fits

theorem closeElement_of_capture_eq_none (h : pending.capture = none) :
    pending.closeElement depth = pending := by
  simp only [closeElement, h]

namespace Grows

/-- With the same parts as before. -/
theorem of_get_eq {pending' : Pending} (hdepth : pending'.depth = pending.depth)
    (h : ∀ field, pending'.get field = pending.get field) : pending.Grows pending' :=
  ⟨hdepth, .inl h⟩

theorem openElement (pending : Pending) (localName : Bytes) (depth : Nat) :
    pending.Grows (pending.openElement localName depth) := by
  refine .of_get_eq (depth_openElement ..) fun field => ?_
  unfold Pending.openElement
  split <;> cases field <;> rfl

theorem emptyElement (pending : Pending) (localName : Bytes) :
    pending.Grows (pending.emptyElement localName) := by
  refine ⟨depth_emptyElement .., ?_⟩
  unfold Pending.emptyElement
  split
  · next field hwanted => exact .inr ⟨field, "", (wanted?_eq_some hwanted).2, fun _ => rfl⟩
  · exact .inl fun _ => rfl

theorem addText (pending : Pending) (text : String) : pending.Grows (pending.addText text) :=
  .of_get_eq rfl fun field => by cases field <;> rfl

theorem closeElement (h : pending.Fits depth) : pending.Grows (pending.closeElement depth) := by
  refine ⟨depth_closeElement .., ?_⟩
  unfold Pending.closeElement
  split
  · next c hc =>
    split
    · refine .inr ⟨c.field, c.text, h.capture_unset c hc, fun field => ?_⟩
      cases field <;> rfl
    · exact .inl fun _ => rfl
  · exact .inl fun _ => rfl

end Grows
end Pending

/-! ### One event -/

namespace Progress

/-- The machine knows how many elements the reader holds open, and that the root element is one of
them.  A declaration in the making stands among them. -/
structure Fits (p : Progress) (openNames : List Bytes) : Prop where
  depth_eq : p.depth = openNames.length
  seenRoot_of_pos : 0 < p.depth → p.seenRoot = true
  pending : ∀ pending ∈ p.pending, pending.Fits p.depth

/-- What an event may change. -/
structure Advances (p : Progress) (lexeme : Lexeme) (p' : Progress) : Prop where
  /-- An end tag takes one from a depth that is not 0. -/
  depth_finish : ∀ name, lexeme = .finish name → p'.depth + 1 = p.depth
  /-- A declaration begins without parts, with the element that has just begun. -/
  begins : p.pending = none → ∀ pending' ∈ p'.pending, pending' = .new p'.depth
  /-- While a declaration is in the making, its parts are stored where there are none. -/
  grows : ∀ pending ∈ p.pending, ∀ pending' ∈ p'.pending, pending.Grows pending'
  /-- A declaration ends with the end tag of its own element, and not before. -/
  ends_iff : ∀ pending ∈ p.pending,
    p'.pending = none ↔ (∃ name, lexeme = .finish name) ∧ pending.depth = p.depth
  /-- There nothing is being collected, and what is in the making is declared as it is. -/
  declares : ∀ pending ∈ p.pending, p'.pending = none →
    pending.capture = none ∧ p'.vars = pending.declare p.vars
  /-- Nothing is declared elsewhere. -/
  vars_eq : p.pending = none ∨ p'.pending ≠ none → p'.vars = p.vars

variable {p p' : Progress} {lexeme : Lexeme} {encoding : Encoding} {context context' : Context}

theorem fits_start : start.Fits [] where
  depth_eq := rfl
  seenRoot_of_pos h := absurd h (Nat.lt_irrefl 0)
  pending _ h := by cases h

/-- When no element is open, nothing is in the making. -/
theorem Fits.pending_eq_none {openNames : List Bytes} (h : p.Fits openNames) (hdepth : p.depth = 0) :
    p.pending = none := by
  refine Option.eq_none_iff_forall_ne_some.mpr fun pending hpending => ?_
  have hfits := h.pending pending hpending
  have hpos := hfits.pos
  have hle := hfits.le
  omega

/-- **One event keeps the count.** -/
theorem Fits.next (h : p.Fits context.openNames) (hafter : context.after lexeme = .ok context')
    (hs : p.step ⟨lexeme, encoding⟩ = .ok p') : p'.Fits context'.openNames := by
  have hdepth := depth_openAfter hs (openAfter_after encoding hafter) h.depth_eq
  cases does_of_step hs with
  | opensInside tag pending hroot hpending =>
      refine ⟨hdepth, fun _ => rfl, fun _ hpending' => ?_⟩
      obtain rfl := Option.some.inj hpending'
      exact (h.pending pending hpending).openElement tag.localName
  | opensDeclaration tag hroot hpending hname =>
      refine ⟨hdepth, fun _ => rfl, fun _ hpending' => ?_⟩
      obtain rfl := Option.some.inj hpending'
      exact Pending.fits_new p.depth
  | opensOutside tag hroot hpending hname => exact ⟨hdepth, fun _ => rfl, nofun⟩
  | isEmpty tag hroot =>
      refine ⟨hdepth, fun _ => rfl, fun _ hpending' => ?_⟩
      obtain ⟨pending, hpending, rfl⟩ := Option.map_eq_some_iff.mp hpending'
      exact (h.pending pending hpending).emptyElement tag.localName
  | closesInside name pending hpending hother =>
      refine ⟨hdepth, fun hpos => h.seenRoot_of_pos (Nat.lt_of_lt_of_le hpos (Nat.sub_le ..)),
        fun _ hpending' => ?_⟩
      obtain rfl := Option.some.inj hpending'
      exact (h.pending pending hpending).closeElement hother
  | closesDeclaration name | closesOutside name =>
      exact ⟨hdepth, fun hpos => h.seenRoot_of_pos (Nat.lt_of_lt_of_le hpos (Nat.sub_le ..)),
        nofun⟩
  | collects _ text htag hinside =>
      refine ⟨hdepth, h.seenRoot_of_pos, fun _ hpending' => ?_⟩
      obtain ⟨pending, hpending, rfl⟩ := Option.map_eq_some_iff.mp hpending'
      exact (h.pending pending hpending).addText text
  | passes => exact ⟨hdepth, h.seenRoot_of_pos, h.pending⟩

namespace Advances

/-- Where nothing is in the making. -/
theorem of_none (hpending : p.pending = none) (hvars : p'.vars = p.vars)
    (hbegins : ∀ pending' ∈ p'.pending, pending' = .new p'.depth)
    (hfinish : ∀ name, lexeme = .finish name → p'.depth + 1 = p.depth) :
    p.Advances lexeme p' where
  depth_finish := hfinish
  begins _ := hbegins
  grows pending h := by simp [hpending] at h
  ends_iff pending h := by simp [hpending] at h
  declares pending h := by simp [hpending] at h
  vars_eq _ := hvars

/-- Where a declaration is in the making, and goes on to be. -/
theorem of_some {pending pending' : Pending} (hpending : p.pending = some pending)
    (hpending' : p'.pending = some pending') (hvars : p'.vars = p.vars)
    (hgrows : pending.Grows pending')
    (hfinish : ∀ name, lexeme = .finish name → p'.depth + 1 = p.depth ∧ pending.depth ≠ p.depth) :
    p.Advances lexeme p' where
  depth_finish name hname := (hfinish name hname).1
  begins h := by simp [hpending] at h
  grows a ha b hb := by
    obtain rfl : pending = a := Option.some.inj (hpending ▸ ha)
    obtain rfl : pending' = b := Option.some.inj (hpending' ▸ hb)
    exact hgrows
  ends_iff a ha := by
    obtain rfl : pending = a := Option.some.inj (hpending ▸ ha)
    simp only [hpending', reduceCtorEq, false_iff, not_and, forall_exists_index]
    exact fun name hname => (hfinish name hname).2
  declares _ _ h := by simp [hpending'] at h
  vars_eq _ := hvars

/-- Where a lexeme that is no end tag changes at most the declaration in the making. -/
theorem of_map {f : Pending → Pending} (hpending' : p'.pending = p.pending.map f)
    (hvars : p'.vars = p.vars) (hgrows : ∀ pending : Pending, pending.Grows (f pending))
    (hlexeme : ∀ name, lexeme ≠ .finish name) : p.Advances lexeme p' := by
  cases hpending : p.pending with
  | none =>
      refine .of_none hpending hvars (fun pending h => ?_) fun name h => absurd h (hlexeme name)
      simp [hpending', hpending] at h
  | some pending =>
      rw [hpending, Option.map_some] at hpending'
      exact .of_some hpending hpending' hvars (hgrows pending) fun name h => absurd h (hlexeme name)

end Advances

/-- **One event changes a declaration only as it should.** -/
theorem Fits.advances (h : p.Fits context.openNames) (hafter : context.after lexeme = .ok context')
    (hs : p.step ⟨lexeme, encoding⟩ = .ok p') : p.Advances lexeme p' := by
  have hdepth := h.depth_eq
  -- An end tag ends an element that is open, so there is one to be counted down.
  have hpos : ∀ name, lexeme = .finish name → p.depth - 1 + 1 = p.depth := by
    rintro name rfl
    rw [Context.openNames_of_finish hafter, List.length_cons] at hdepth
    omega
  cases does_of_step hs with
  | opensInside tag pending hroot hpending =>
      exact .of_some hpending rfl rfl (.openElement ..) nofun
  | opensDeclaration tag hroot hpending hname =>
      exact .of_none hpending rfl (fun _ h => (Option.some.inj h).symm) nofun
  | opensOutside tag hroot hpending hname => exact .of_none hpending rfl nofun nofun
  | isEmpty tag hroot =>
      exact .of_map rfl rfl (fun pending => .emptyElement pending tag.localName) nofun
  | closesInside name pending hpending hother =>
      exact .of_some hpending rfl rfl (.closeElement (h.pending pending hpending))
        fun name hname => ⟨hpos name hname, hother⟩
  | closesDeclaration name pending hpending hown =>
      have hcapture := (h.pending pending hpending).capture_eq_none hown
      rw [Pending.closeElement_of_capture_eq_none hcapture]
      exact {
        depth_finish := hpos
        begins := fun hnone => by simp [hpending] at hnone
        grows := fun _ _ _ hnone => by cases hnone
        ends_iff := fun a ha => by
          obtain rfl : pending = a := Option.some.inj (hpending ▸ ha)
          exact iff_of_true rfl ⟨⟨name, rfl⟩, hown⟩
        declares := fun a ha _ => by
          obtain rfl : pending = a := Option.some.inj (hpending ▸ ha)
          exact ⟨hcapture, rfl⟩
        vars_eq := fun hno => by simp [hpending] at hno }
  | closesOutside name hpending => exact .of_none hpending rfl nofun hpos
  | collects _ text htag hinside =>
      refine .of_map rfl rfl (fun pending => .addText pending text) ?_
      rintro name rfl
      cases htag
  | passes _ htag =>
      refine .of_map (f := id) (by simp) rfl (fun _ => .of_get_eq rfl fun _ => rfl) ?_
      rintro name rfl
      cases htag

end Progress

/-! ### Whole documents -/

section
variable {p p' : Progress} {context context' start : Context} {events done rest : List Event}

/-- **A run keeps the count.** -/
theorem Progress.Fits.run (h : p.Fits context.openNames)
    (hafter : context.afterAll events = .ok context')
    (hs : events.foldlM Progress.step p = .ok p') : p'.Fits context'.openNames := by
  induction events generalizing p context with
  | nil =>
      cases hafter
      cases hs
      exact h
  | cons event rest ih =>
      obtain ⟨between, hafter, hrest⟩ := bind_eq_ok_iff.mp hafter
      rw [List.foldlM_cons] at hs
      obtain ⟨q, hone, hs⟩ := bind_eq_ok_iff.mp hs
      exact ih (h.next hafter hone) hrest hs

/-- Throughout the events a declaration is in the making. -/
def Progress.IsMaking (p : Progress) (events : List Event) : Prop :=
  ∀ seen unseen q, events = seen ++ unseen → seen.foldlM Progress.step p = .ok q →
    q.pending ≠ none

/-- **A part is stored once.**  As long as a declaration is in the making, the parts that it has stay
as they are. -/
theorem Progress.Fits.keeps_run (h : p.Fits context.openNames)
    (hafter : context.afterAll events = .ok context')
    (hs : events.foldlM Progress.step p = .ok p') (hmaking : p.IsMaking events) :
    ∀ pending ∈ p.pending, ∀ pending' ∈ p'.pending, pending.Keeps pending' := by
  intro pending hpending pending' hpending'
  induction events generalizing p context pending with
  | nil =>
      cases hs
      obtain rfl : pending = pending' := Option.some.inj (hpending.symm.trans hpending')
      exact ⟨rfl, fun _ _ => id⟩
  | cons event rest ih =>
      obtain ⟨between, hafter, hrest⟩ := bind_eq_ok_iff.mp hafter
      rw [List.foldlM_cons] at hs
      obtain ⟨q, hone, hs⟩ := bind_eq_ok_iff.mp hs
      have hq : [event].foldlM Progress.step p = .ok q := by simp [hone]
      obtain ⟨next, hnext⟩ := Option.ne_none_iff_exists'.mp (hmaking [event] rest q rfl hq)
      have hkeeps := ((h.advances hafter hone).grows pending hpending next hnext).keeps
      refine hkeeps.trans (ih (h.next hafter hone) hrest hs (fun seen unseen r hsplit hr => ?_)
        next hnext)
      exact hmaking (event :: seen) unseen r (by rw [hsplit, List.cons_append])
        (by rw [List.foldlM_cons, hone]; exact hr)

/-- What holds of the machine when some of a document's events have been read, and the rest is still
to come. -/
structure Progress.IsConsistent (p : Progress) (start : Context) (done rest : List Event) : Prop where
  /-- The reader has come as far, and the machine fits the elements that it holds open. -/
  fits : ∃ context, start.afterAll done = .ok context ∧ p.Fits context.openNames
  /-- If no element is open, nothing is left over. -/
  pending_eq_none : p.depth = 0 → p.pending = none
  advances : ∀ event later p', rest = event :: later → p.step event = .ok p' →
    p.Advances event.lexeme p'
  /-- A part that has been stored is stored for as long as its declaration is in the making. -/
  keeps : ∀ more later p', rest = more ++ later → more.foldlM Progress.step p = .ok p' →
    p.IsMaking more → ∀ pending ∈ p.pending, ∀ pending' ∈ p'.pending, pending.Keeps pending'

theorem isConsistent_of_run (hnames : start.openNames = [])
    (hread : ∃ context, start.afterAll (done ++ rest) = .ok context)
    (hrun : done.foldlM Progress.step .start = .ok p) : p.IsConsistent start done rest := by
  obtain ⟨last, hread⟩ := hread
  obtain ⟨context, hdone, hrest⟩ := Context.afterAll_append_iff.mp hread
  have hfits : p.Fits context.openNames := by
    refine Progress.Fits.run ?_ hdone hrun
    rw [hnames]
    exact Progress.fits_start
  refine ⟨⟨context, hdone, hfits⟩, hfits.pending_eq_none, ?_, ?_⟩
  · rintro event later p' rfl hs
    obtain ⟨next, hafter, -⟩ := bind_eq_ok_iff.mp hrest
    exact hfits.advances hafter hs
  · rintro more later p' rfl hs
    obtain ⟨next, hafter, -⟩ := Context.afterAll_append_iff.mp hrest
    exact hfits.keeps_run hafter hs

end

/-- **The machine is consistent in every state that it comes to**, whatever the bytes of the file, or
the text.  Its depth is the number of elements that the reader holds open, and an end tag never
finds it at 0.  Inside an element the root element has been seen.  A declaration in the making has an
open element, a part that is being collected has an open element inside that one and is not there
yet, and what is there stays.  A declaration ends with its own element, when nothing is being
collected, and the next begins without parts; when no element is open, none is left over. -/
theorem consistent_run :
    (∀ bytes done rest p, (Document.ofBytes bytes).events = done ++ rest →
      done.foldlM Progress.step .start = .ok p →
        p.IsConsistent (.ofBytes bytes) done rest) ∧
    ∀ text done rest p, (Document.ofText text).events = done ++ rest →
      done.foldlM Progress.step .start = .ok p → p.IsConsistent .ofText done rest := by
  constructor
  · intro bytes done rest p hevents hrun
    exact isConsistent_of_run rfl (hevents ▸ Context.afterAll_ofBytes bytes) hrun
  · intro text done rest p hevents hrun
    exact isConsistent_of_run rfl (hevents ▸ Context.afterAll_ofText text) hrun

/-- A document with one declaration. -/
def oneName : String := "<r><globalVariable><name>A</name></globalVariable></r>"

/-- Its events up to the text of the name. -/
def insideName : List Event :=
  [⟨.start ⟨Bytes.ofText "r"⟩, .utf8⟩, ⟨.start ⟨globalVariable⟩, .utf8⟩,
    ⟨.start ⟨Bytes.ofText "name"⟩, .utf8⟩, ⟨.text (Bytes.ofText "A"), .utf8⟩]

/-- Its end tags. -/
def afterName : List Event :=
  [⟨.finish (Bytes.ofText "name"), .utf8⟩, ⟨.finish globalVariable, .utf8⟩,
    ⟨.finish (Bytes.ofText "r"), .utf8⟩]

/-- The machine between the two. -/
def collectingName : Progress :=
  ⟨.empty, 3, true, some ⟨2, none, none, some ⟨.name, 3, "A"⟩⟩⟩

theorem consistent_run_insideName :
    insideName.foldlM Progress.step .start = .ok collectingName ∧
      collectingName.IsConsistent (.ofBytes (Bytes.ofText oneName)) insideName afterName ∧
      collectingName.IsConsistent .ofText insideName afterName := by
  have hrun : insideName.foldlM Progress.step .start = .ok collectingName :=
    eq_ok_of_toOption (by decide +kernel)
  have hbytes : (Document.ofBytes (Bytes.ofText oneName)).events = insideName ++ afterName := by
    decide +kernel
  have htext : (Document.ofText oneName).events = insideName ++ afterName := by decide +kernel
  exact ⟨hrun, consistent_run.1 _ _ _ _ hbytes hrun, consistent_run.2 _ _ _ _ htext hrun⟩

end TierAudit.Substvar
