import TierAudit.Proofs.Substvar.Reading

/-!
# Substitution variable files — reading event by event

Reading the events of an element tree one by one gives what the tree declares (`ofEvents_events`).

The machine's state has three shapes: it collects the text of a part (`collecting`), it is inside a
declaration and collects nothing (`declaring`), or it is outside declarations (`outside`).  A whole
item leads from a state back to one of the same shape and depth, and what it adds there is what the
recursive reading says: its texts (`run_collecting`), its parts (`run_declaring`) or its
declarations (`run_outside`).
-/

namespace TierAudit.Substvar
open Markup Text

/-! ### Results that depend on a condition -/

/-- A result that is a value if a condition holds, and an error otherwise. -/
def Settles {ε α : Type} (result : Except ε α) (good : Prop) (value : α) : Prop :=
  (good → result = .ok value) ∧ (¬ good → ∃ error, result = .error error)

namespace Settles

variable {ε α β : Type} {good good' : Prop}

theorem ok (value : α) (h : good) : Settles (.ok value : Except ε α) good value :=
  ⟨fun _ => rfl, fun hn => absurd h hn⟩

theorem error (e : ε) (value : α) (h : ¬ good) : Settles (.error e) good value :=
  ⟨fun hg => absurd hg h, fun _ => ⟨e, rfl⟩⟩

/-- One computation after another: both conditions have to hold. -/
theorem bind {result : Except ε α} {value : α} {next : α → Except ε β} {value' : β}
    (h : Settles result good value) (h' : good → Settles (next value) good' value') :
    Settles (result >>= next) (good ∧ good') value' := by
  by_cases hg : good
  · rw [h.1 hg]
    exact ⟨fun hg' => (h' hg).1 hg'.2, fun hn => (h' hg).2 fun hg' => hn ⟨hg, hg'⟩⟩
  · obtain ⟨e, he⟩ := h.2 hg
    rw [he]
    exact .error e value' fun hg' => hg hg'.1

/-- A computation that cannot fail after one that can. -/
theorem bind_ok {result : Except ε α} {value : α} {next : α → Except ε β} {value' : β}
    (h : Settles result good value) (h' : next value = .ok value') :
    Settles (result >>= next) good value' := by
  by_cases hg : good
  · rw [h.1 hg, show (Except.ok value >>= next) = .ok value' from h']
    exact .ok value' hg
  · obtain ⟨e, he⟩ := h.2 hg
    rw [he]
    exact .error e value' hg

theorem congr {result : Except ε α} {value : α} (h : Settles result good value)
    (hiff : good ↔ good') : Settles result good' value :=
  ⟨fun hg => h.1 (hiff.mpr hg), fun hg => h.2 fun h => hg (hiff.mp h)⟩

theorem congr_value {result : Except ε α} {value value' : α} (h : Settles result good value)
    (heq : good → value = value') : Settles result good value' :=
  ⟨fun hg => heq hg ▸ h.1 hg, h.2⟩

/-- There is a result exactly if the condition holds. -/
theorem exists_iff {result : Except ε α} {value : α} (h : Settles result good value) :
    (∃ a, result = .ok a) ↔ good := by
  refine ⟨fun ⟨a, ha⟩ => ?_, fun hg => ⟨value, h.1 hg⟩⟩
  by_cases hg : good
  · exact hg
  · obtain ⟨e, he⟩ := h.2 hg
    rw [ha] at he
    cases he

theorem eq_of_ok {result : Except ε α} {value a : α} (h : Settles result good value)
    (hok : result = .ok a) : a = value := by
  rw [h.1 (h.exists_iff.mp ⟨a, hok⟩)] at hok
  exact (Except.ok.inj hok).symm

end Settles

/-! ### Text -/

/-- Text that is being collected is joined to what has been collected. -/
theorem addText_collecting {vars : Variables} {d pd cd : Nat} {n v : Option String} {f : Field}
    {t : String} (event : Event) :
    Settles (Progress.addText ⟨vars, d, true, some ⟨pd, n, v, some ⟨f, cd, t⟩⟩⟩ (textOf event))
      (IsReadable event)
      ⟨vars, d, true, some ⟨pd, n, v, some ⟨f, cd, t ++ joinedText [event]⟩⟩⟩ := by
  cases h : textOf event with
  | ok text =>
      refine ⟨fun _ => ?_, fun hn => absurd ⟨text, h⟩ hn⟩
      simp [Progress.addText, Progress.capturing, Pending.addText, joinedText, h, Except.toOption,
        bind, Except.bind, pure, Except.pure]
  | error cause =>
      refine .error cause _ ?_
      rintro ⟨text, ht⟩
      rw [h] at ht
      cases ht

/-- Comments, instructions, declarations and document types change nothing. -/
theorem step_aside (p : Progress) (kind : Aside) (encoding : Encoding) :
    p.step ⟨kind.lexeme, encoding⟩ = .ok p := by
  cases kind <;> rfl

/-! ### Events inside a part -/

section
variable {vars : Variables} {pd cd : Nat} {n v : Option String} {f : Field}

/-- What the machine holds while it collects text. -/
abbrev collecting (vars : Variables) (pd cd : Nat) (n v : Option String) (f : Field) (d : Nat)
    (t : String) : Progress :=
  ⟨vars, d, true, some ⟨pd, n, v, some ⟨f, cd, t⟩⟩⟩

theorem step_start_collecting {d : Nat} {t : String} (tag : Tag) (encoding : Encoding)
    (hd : 0 < d) :
    (collecting vars pd cd n v f d t).step ⟨.start tag, encoding⟩ =
      .ok (collecting vars pd cd n v f (d + 1) t) := by
  simp [Progress.step, Progress.openElement, Pending.openElement, Pending.wanted?,
    Nat.pos_iff_ne_zero.mp hd]

theorem step_finish_collecting {d : Nat} {t : String} (name : Bytes) (encoding : Encoding)
    (hpc : pd < cd) (hcd : cd ≤ d) :
    (collecting vars pd cd n v f (d + 1) t).step ⟨.finish name, encoding⟩ =
      .ok (collecting vars pd cd n v f d t) := by
  have hc : cd ≠ d + 1 := by omega
  have hp : pd ≠ d + 1 := by omega
  simp [Progress.step, Progress.closeElement, Pending.closeElement, hc, hp]

mutual

/-- The texts below an item are collected, and its markup is passed over. -/
theorem run_collecting (hpc : pd < cd) : ∀ (item : Item) {d : Nat} {t : String}, cd ≤ d →
    Settles (item.events.foldlM Progress.step (collecting vars pd cd n v f d t))
      (∀ e ∈ item.texts, IsReadable e)
      (collecting vars pd cd n v f d (t ++ joinedText item.texts))
  | .element tag items opening closing, d, t, hcd => by
      -- The element is deeper than the one that is collected, so its end tag ends nothing else.
      simp only [Item.events, Item.texts, List.foldlM_cons, List.foldlM_append]
      rw [step_start_collecting tag opening (by omega)]
      refine (run_collectingAll hpc items (Nat.le_succ_of_le hcd)).bind_ok ?_
      simp only [List.foldlM_nil, step_finish_collecting tag.name closing hpc hcd]
      rfl
  | .empty tag encoding, d, t, hcd => by
      have hd : d ≠ 0 := by omega
      simp [Item.events, Item.texts, Progress.step, Progress.emptyElement, Pending.emptyElement,
        Pending.wanted?, joinedText, hd, Settles.ok]
  | .text run encoding, d, t, hcd => by
      have hd : d ≠ 0 := by omega
      simpa [Item.events, Item.texts, Progress.step, textOf, hd] using
        addText_collecting ⟨.text run, encoding⟩
  | .cdata body encoding, d, t, hcd => by
      have hd : d ≠ 0 := by omega
      simpa [Item.events, Item.texts, Progress.step, textOf, hd] using
        addText_collecting ⟨.cdata body, encoding⟩
  | .aside kind encoding, d, t, hcd => by
      simp [Item.events, Item.texts, step_aside, joinedText, Settles.ok]

theorem run_collectingAll (hpc : pd < cd) : ∀ (items : List Item) {d : Nat} {t : String}, cd ≤ d →
    Settles ((Item.eventsAll items).foldlM Progress.step (collecting vars pd cd n v f d t))
      (∀ e ∈ Item.textsAll items, IsReadable e)
      (collecting vars pd cd n v f d (t ++ joinedText (Item.textsAll items)))
  | [], d, t, hcd => by
      simp [Item.eventsAll, Item.textsAll, joinedText, pure, Except.pure, Settles.ok]
  | item :: rest, d, t, hcd => by
      simp only [Item.eventsAll, Item.textsAll, List.foldlM_append, joinedText_append,
        ← String.append_assoc]
      exact ((run_collecting hpc item hcd).bind fun _ => run_collectingAll hpc rest hcd).congr
        List.forall_mem_append.symm

end

end

/-! ### Events inside a declaration -/

namespace Parts

/-- The parts as the machine holds them. -/
def toPending (parts : Parts) (depth : Nat) : Pending :=
  ⟨depth, parts.name.map joinedText, parts.value.map joinedText, none⟩

theorem wanted?_toPending (parts : Parts) (depth : Nat) (localName : Bytes) :
    (parts.toPending depth).wanted? localName = parts.wanted? localName := by
  refine congrArg (Option.filter · _) (funext fun field => ?_)
  cases field <;> simp [toPending, Pending.get, get]

theorem store_toPending (parts : Parts) (depth : Nat) (texts : List Event) (field : Field) :
    (parts.toPending depth).store (joinedText texts) field =
      (parts.store texts field).toPending depth := by
  cases field <;> rfl

end Parts

section
variable {vars : Variables} {pd : Nat}

/-- What the machine holds inside a declaration while it collects nothing. -/
abbrev declaring (vars : Variables) (pd : Nat) (parts : Parts) (d : Nat) : Progress :=
  ⟨vars, d, true, some (parts.toPending pd)⟩

theorem step_start_declaring {parts : Parts} {d : Nat} (tag : Tag) (encoding : Encoding)
    (hd : 0 < d) :
    (declaring vars pd parts d).step ⟨.start tag, encoding⟩ =
      .ok (match parts.wanted? tag.localName with
        | some field => collecting vars pd (d + 1) (parts.name.map joinedText)
            (parts.value.map joinedText) field (d + 1) ""
        | none => declaring vars pd parts (d + 1)) := by
  simp only [Progress.step, Progress.openElement, Pending.openElement, Parts.wanted?_toPending]
  rw [if_neg (by simp [Nat.pos_iff_ne_zero.mp hd])]
  cases parts.wanted? tag.localName <;> rfl

/-- The end of a part's element stores what has been collected. -/
theorem step_finish_part {parts : Parts} {d : Nat} (texts : List Event) (field : Field)
    (name : Bytes) (encoding : Encoding) (hpd : pd ≤ d) :
    (collecting vars pd (d + 1) (parts.name.map joinedText) (parts.value.map joinedText) field
      (d + 1) (joinedText texts)).step ⟨.finish name, encoding⟩ =
      .ok (declaring vars pd (parts.store texts field) d) := by
  have hp : pd ≠ d + 1 := by omega
  cases field <;>
    simp [Progress.step, Progress.closeElement, Pending.closeElement, Pending.store, Parts.store,
      Parts.toPending, hp]

/-- The end of any other element inside a declaration changes nothing. -/
theorem step_finish_declaring {parts : Parts} {d : Nat} (name : Bytes) (encoding : Encoding)
    (hpd : pd ≤ d) :
    (declaring vars pd parts (d + 1)).step ⟨.finish name, encoding⟩ =
      .ok (declaring vars pd parts d) := by
  have hp : pd ≠ d + 1 := by omega
  simp [Progress.step, Progress.closeElement, Pending.closeElement, Parts.toPending, hp]

theorem step_empty_declaring {parts : Parts} {d : Nat} (tag : Tag) (encoding : Encoding)
    (hd : 0 < d) :
    (declaring vars pd parts d).step ⟨.empty tag, encoding⟩ =
      .ok (declaring vars pd ((Item.empty tag encoding).parts parts) d) := by
  simp only [Progress.step, Progress.emptyElement, Option.map_some, Pending.emptyElement,
    Parts.wanted?_toPending, Item.parts]
  rw [if_neg (by simp [Nat.pos_iff_ne_zero.mp hd])]
  cases parts.wanted? tag.localName with
  | none => rfl
  | some field =>
      have hs := parts.store_toPending pd [] field
      simp only [joinedText] at hs
      simp only [hs]

mutual

/-- Inside a declaration the parts are found that are not there yet. -/
theorem run_declaring (hpd : 0 < pd) : ∀ (item : Item) {parts : Parts} {d : Nat}, pd ≤ d →
    parts.IsReadable →
    Settles (item.events.foldlM Progress.step (declaring vars pd parts d))
      (item.parts parts).IsReadable (declaring vars pd (item.parts parts) d)
  | .element tag items opening closing, parts, d, hd, hp => by
      simp only [Item.events, Item.parts, List.foldlM_cons, List.foldlM_append]
      rw [step_start_declaring tag opening (by omega)]
      cases h : parts.wanted? tag.localName with
      | some field =>
          -- The element of a part: all text up to its own end tag is collected.
          have hf := Parts.get_eq_none_of_wanted? h
          refine ((run_collectingAll (by omega) items (Nat.le_refl _)).bind_ok ?_).congr
            (Parts.isReadable_store hf hp)
          simp only [String.empty_append, step_finish_part _ field tag.name closing hd]
          rfl
      | none =>
          -- Any other element is transparent, a second name and a nested declaration included.
          refine (run_declaringAll hpd items (by omega) hp).bind_ok ?_
          simp only [step_finish_declaring tag.name closing hd]
          rfl
  | .empty tag encoding, parts, d, hd, hp => by
      simp only [Item.events, List.foldlM_cons, List.foldlM_nil]
      rw [step_empty_declaring tag encoding (by omega)]
      refine .ok _ ?_
      rw [Item.parts]
      split
      · next h =>
        exact (Parts.isReadable_store (Parts.get_eq_none_of_wanted? h) hp).mp (by simp)
      · exact hp
  | .text run encoding, parts, d, hd, hp => by
      have hd0 : d ≠ 0 := by omega
      simpa [Item.events, Item.parts, Progress.step, Progress.addText, Progress.capturing,
        Parts.toPending, hd0] using Settles.ok _ hp
  | .cdata body encoding, parts, d, hd, hp => by
      have hd0 : d ≠ 0 := by omega
      simpa [Item.events, Item.parts, Progress.step, Progress.addText, Progress.capturing,
        Parts.toPending, hd0] using Settles.ok _ hp
  | .aside kind encoding, parts, d, hd, hp => by
      simpa [Item.events, Item.parts, step_aside] using Settles.ok _ hp

theorem run_declaringAll (hpd : 0 < pd) : ∀ (items : List Item) {parts : Parts} {d : Nat}, pd ≤ d →
    parts.IsReadable →
    Settles ((Item.eventsAll items).foldlM Progress.step (declaring vars pd parts d))
      (Item.partsAll parts items).IsReadable (declaring vars pd (Item.partsAll parts items) d)
  | [], _, _, _, hp => .ok _ hp
  | item :: rest, parts, d, hd, hp => by
      -- What can be read in the end includes what could be read after the first item.
      simp only [Item.eventsAll, Item.partsAll, List.foldlM_append]
      refine ((run_declaring hpd item hd hp).bind fun hi => run_declaringAll hpd rest hd hi).congr
        ⟨And.right, fun h => ⟨fun e he => ?_, h⟩⟩
      exact h e (texts_subset_partsAll rest _ he)

end

end

/-! ### Events outside declarations -/

theorem Parts.declare_toPending (vars : Variables) (parts : Parts) (depth : Nat) :
    (parts.toPending depth).declare vars = parts.declare vars := by
  obtain ⟨name, value⟩ := parts
  cases name <;> cases value <;> rfl

/-- What the machine holds outside declarations. -/
abbrev outside (vars : Variables) (d : Nat) (seen : Bool) : Progress := ⟨vars, d, seen, none⟩

/-- An element that may begin is read like what is inside it, or as a declaration. -/
theorem run_element {vars : Variables} {d : Nat} {seen : Bool} (tag : Tag) (items : List Item)
    (opening closing : Encoding) (hd : (seen && decide (d = 0)) = false)
    (ih : Settles ((Item.eventsAll items).foldlM Progress.step (outside vars (d + 1) true))
      (∀ parts ∈ Item.declarationsAll items, parts.IsReadable)
      (outside ((Item.declarationsAll items).foldl Parts.declare vars) (d + 1) true)) :
    Settles
      ((Item.element tag items opening closing).events.foldlM Progress.step (outside vars d seen))
      (∀ parts ∈ (Item.element tag items opening closing).declarations, parts.IsReadable)
      (outside ((Item.element tag items opening closing).declarations.foldl Parts.declare vars) d
        true) := by
  simp only [Item.events, Item.declarations, List.foldlM_cons, List.foldlM_append,
    Progress.step, Progress.openElement, hd]
  by_cases hg : tag.localName = globalVariable
  -- A declaration begins without parts, and ends with the end tag at its own depth.
  · simp only [hg, if_true, List.mem_singleton, forall_eq, List.foldl_cons, List.foldl_nil]
    have hempty : Parts.empty.IsReadable := by simp [Parts.IsReadable, Parts.texts, Parts.empty]
    refine (run_declaringAll (Nat.succ_pos d) items (Nat.le_refl _) hempty).bind_ok ?_
    simp [Progress.closeElement, Pending.closeElement, Parts.toPending,
      ← Parts.declare_toPending vars _ (d + 1)]
  · simp only [hg, if_false]
    refine ih.bind_ok ?_
    simp [Progress.closeElement]

mutual

/-- Outside declarations the outermost ones are found. -/
theorem run_outside : ∀ (item : Item) {vars : Variables} {d : Nat}, 0 < d →
    Settles (item.events.foldlM Progress.step (outside vars d true))
      (∀ parts ∈ item.declarations, parts.IsReadable)
      (outside (item.declarations.foldl Parts.declare vars) d true)
  | .element tag items opening closing, vars, d, hd =>
      run_element tag items opening closing (by simp [Nat.pos_iff_ne_zero.mp hd])
        (run_outsideAll items (Nat.succ_pos d))
  | .empty tag encoding, vars, d, hd => by
      have hd0 : d ≠ 0 := by omega
      simp [Item.events, Item.declarations, Progress.step, Progress.emptyElement, hd0, Settles.ok]
  | .text run encoding, vars, d, hd => by
      have hd0 : d ≠ 0 := by omega
      simp [Item.events, Item.declarations, Progress.step, Progress.addText, Progress.capturing,
        hd0, Settles.ok]
  | .cdata body encoding, vars, d, hd => by
      have hd0 : d ≠ 0 := by omega
      simp [Item.events, Item.declarations, Progress.step, Progress.addText, Progress.capturing,
        hd0, Settles.ok]
  | .aside kind encoding, vars, d, hd => by
      simp [Item.events, Item.declarations, step_aside, Settles.ok]

theorem run_outsideAll : ∀ (items : List Item) {vars : Variables} {d : Nat}, 0 < d →
    Settles ((Item.eventsAll items).foldlM Progress.step (outside vars d true))
      (∀ parts ∈ Item.declarationsAll items, parts.IsReadable)
      (outside ((Item.declarationsAll items).foldl Parts.declare vars) d true)
  | [], _, _, _ => .ok _ (by simp [Item.declarationsAll])
  | item :: rest, vars, d, hd => by
      simp only [Item.eventsAll, Item.declarationsAll, List.foldlM_append, List.foldl_append]
      exact ((run_outside item hd).bind fun _ => run_outsideAll rest hd).congr
        List.forall_mem_append.symm

end

/-! ### Whole trees -/

/-- A root element, read from the start. -/
theorem run_root {root : Item} (h : root.isElement = true) :
    Settles (root.events.foldlM Progress.step .start) (∀ e ∈ root.captured, IsReadable e)
      (outside (.ofList root.pairs) 0 true) := by
  rw [ofList_pairs]
  refine Settles.congr ?_ forall_mem_captured.symm
  cases root with
  | element tag items opening closing =>
      exact run_element tag items opening closing rfl (run_outsideAll items (Nat.succ_pos 0))
  | empty tag encoding => exact .ok _ (by simp [Item.declarations])
  | text run encoding => cases h
  | cdata body encoding => cases h
  | aside kind encoding => cases h

/-- **The two readings agree.**  Reading the events of an element tree gives what the tree declares
if every text of a part can be read, and an error otherwise.  Nothing else about a tree matters:
trees with the same texts in the same parts give the same variables. -/
theorem ofEvents_events {root : Item} (h : root.isElement = true) :
    ((∀ e ∈ root.captured, IsReadable e) → ofEvents root.events = .ok (.ofList root.pairs)) ∧
      ((∃ e ∈ root.captured, ¬ IsReadable e) → ∃ cause, ofEvents root.events = .error cause) ∧
      ∀ other : Item, other.isElement = true → other.declarations = root.declarations →
        (ofEvents other.events).toOption = (ofEvents root.events).toOption := by
  have reads : ∀ {item : Item}, item.isElement = true →
      Settles (ofEvents item.events) (∀ e ∈ item.captured, IsReadable e) (.ofList item.pairs) :=
    fun hi => (run_root hi).bind_ok rfl
  refine ⟨(reads h).1, fun ⟨e, he, hn⟩ => (reads h).2 fun hg => hn (hg e he), fun other ho hd => ?_⟩
  have hcaptured : other.captured = root.captured := congrArg (·.flatMap Parts.texts) hd
  have hpairs : other.pairs = root.pairs := congrArg (·.filterMap Parts.pair?) hd
  have hother := reads ho
  rw [hcaptured, hpairs] at hother
  by_cases hg : ∀ e ∈ root.captured, IsReadable e
  · rw [hother.1 hg, (reads h).1 hg]
  · obtain ⟨cause, hc⟩ := hother.2 hg
    obtain ⟨cause', hc'⟩ := (reads h).2 hg
    rw [hc, hc']
    rfl

/-- A declaration with a prefix and an attribute.  Its name is in two pieces with a comment between
them, and its value stands inside a second name. -/
def nestedDeclaration : Item :=
  .element ⟨Bytes.ofText "r"⟩
    [.element ⟨Bytes.ofText "p:globalVariable id='1'"⟩
      [.element ⟨Bytes.ofText "name"⟩
        [.cdata (Bytes.ofText "A") .utf8, .aside (.comment []) .utf8,
          .text (Bytes.ofText "&amp;B") .utf8] .utf8 .utf8,
        .element ⟨Bytes.ofText "name"⟩
          [.text (Bytes.ofText "C") .utf8,
            .element ⟨Bytes.ofText "value"⟩ [.text (Bytes.ofText "1") .utf8] .utf8 .utf8]
          .utf8 .utf8] .utf8 .utf8] .utf8 .utf8

theorem declarations_nestedDeclaration : nestedDeclaration.declarations =
    [⟨some [⟨.cdata (Bytes.ofText "A"), .utf8⟩, ⟨.text (Bytes.ofText "&amp;B"), .utf8⟩],
      some [⟨.text (Bytes.ofText "1"), .utf8⟩]⟩] := by
  have hr : (Tag.mk (Bytes.ofText "r")).localName ≠ globalVariable := by decide
  have hg : (Tag.mk (Bytes.ofText "p:globalVariable id='1'")).localName = globalVariable := by
    decide
  have hn : Field.ofLocalName? (Tag.mk (Bytes.ofText "name")).localName = some .name := by decide
  have hv : Field.ofLocalName? (Tag.mk (Bytes.ofText "value")).localName = some .value := by
    decide
  simp [nestedDeclaration, Item.declarations, Item.declarationsAll, Item.partsAll, Item.parts,
    Item.textsAll, Item.texts, Parts.wanted?, Parts.get, Parts.store, Parts.empty,
    Option.filter_some, hr, hg, hn, hv]

theorem ofEvents_nestedDeclaration : nestedDeclaration.isElement = true ∧
    (∀ e ∈ nestedDeclaration.captured, IsReadable e) ∧
    ofEvents nestedDeclaration.events = .ok (.ofList [("A&B", "1")]) := by
  have hA : textOf ⟨.cdata (Bytes.ofText "A"), .utf8⟩ = .ok "A" := textOf_cdata "A"
  have hB : textOf ⟨.text (Bytes.ofText "&amp;B"), .utf8⟩ = .ok "&B" := textOf_escaped "&B"
  have h1 : textOf ⟨.text (Bytes.ofText "1"), .utf8⟩ = .ok "1" := textOf_escaped "1"
  have hc : ∀ e ∈ nestedDeclaration.captured, IsReadable e := by
    simp [Item.captured, declarations_nestedDeclaration, Parts.texts, IsReadable, hA, hB, h1]
  have hp : nestedDeclaration.pairs = [("A&B", "1")] := by
    simp [Item.pairs, declarations_nestedDeclaration, Parts.pair?, joinedText, hA, hB, h1,
      Except.toOption]
  exact ⟨rfl, hc, hp ▸ (ofEvents_events rfl).1 hc⟩

end TierAudit.Substvar
