import TierAudit.Proofs.Markup.Item

/-!
# Markup — nesting

The end tags of a scan close the innermost open element (`openAfter_scan`), so the events of a
document in which no element stays open are those of a list of items (`exists_items`).
-/

namespace TierAudit.Markup
open Text

/-- The names of the open elements after an event, the innermost first.  There are none if an end
tag does not close the innermost element. -/
def Event.openAfter (names : List Bytes) (event : Event) : Option (List Bytes) :=
  match event.lexeme with
  | .start tag => some (tag.name :: names)
  | .finish name =>
    match names with
    | [] => none
    | expected :: outer => if name = expected then some outer else none
  | _ => some names

/-- The names of the open elements after events. -/
def openAfter (names : List Bytes) (events : List Event) : Option (List Bytes) :=
  events.foldlM Event.openAfter names

@[simp] theorem openAfter_cons (names : List Bytes) (event : Event) (rest : List Event) :
    openAfter names (event :: rest) = (event.openAfter names).bind (openAfter · rest) := rfl

/-! ### Scans -/

/-- A scan goes on only after an end tag that closes the innermost element. -/
theorem openAfter_after {context context' : Context} {lexeme : Lexeme} (encoding : Encoding)
    (h : context.after lexeme = .ok context') :
    Event.openAfter context.openNames ⟨lexeme, encoding⟩ = some context'.openNames := by
  cases lexeme with
  | start tag =>
      cases h
      rfl
  | finish name =>
      simp only [Context.after] at h
      simp only [Event.openAfter]
      cases hnames : context.openNames with
      | nil => simp [hnames] at h
      | cons expected outer =>
          simp only [hnames] at h
          split at h
          · next hname =>
            cases h
            exact if_pos hname
          · cases h
  | declaration body =>
      simp only [Context.after] at h
      split at h
      · cases h
        rfl
      · split at h <;> cases h <;> rfl
  | text _ | empty _ | cdata _ | comment _ | instruction _ | doctype _ =>
      cases h
      rfl

/-- End tags close the innermost element, as far as a scan gets. -/
theorem openAfter_scan (context : Context) (bytes : Bytes) :
    ∃ names, openAfter context.openNames (Scan.fromContext context bytes).events = some names := by
  fun_induction Scan.fromContext context bytes with
  | case1 | case2 | case3 => exact ⟨_, rfl⟩
  | case4 context bytes hne lexeme rest hlex context' hafter scan ih =>
      obtain ⟨names, hn⟩ := ih
      refine ⟨names, ?_⟩
      rw [openAfter_cons, openAfter_after context.encoding hafter]
      exact hn

theorem openAfter_ofBytes (bytes : Bytes) :
    ∃ names, openAfter [] (Document.ofBytes bytes).events = some names := by
  unfold Document.ofBytes
  split <;> exact openAfter_scan ⟨_, _, []⟩ _

theorem openAfter_ofText (text : String) :
    ∃ names, openAfter [] (Document.ofText text).events = some names := by
  simp only [Document.ofText]
  split <;> exact openAfter_scan ⟨_, _, []⟩ _

/-! ### From events to items -/

/-- Events that close the elements of the given names, one by one and with items between the end
tags, and leave nothing open. -/
def Closes : List Bytes → List Event → Prop
  | [], events => ∃ items, events = Item.eventsAll items
  | name :: outer, events => ∃ items closing rest,
      events = Item.eventsAll items ++ ⟨.finish name, closing⟩ :: rest ∧ Closes outer rest

/-- An item in front is an item of the innermost element. -/
theorem Closes.cons : ∀ {names : List Bytes} {events : List Event} (item : Item),
    Closes names events → Closes names (item.events ++ events)
  | [], _, item, ⟨items, h⟩ => ⟨item :: items, by rw [h, Item.eventsAll_cons]⟩
  | _ :: _, _, item, ⟨items, closing, rest, h, hrest⟩ =>
      ⟨item :: items, closing, rest, by rw [h, Item.eventsAll_cons, List.append_assoc], hrest⟩

theorem closes_of_openAfter {names : List Bytes} {events : List Event}
    (h : openAfter names events = some []) : Closes names events := by
  induction events generalizing names with
  | nil =>
      cases h
      exact ⟨[], rfl⟩
  | cons event rest ih =>
      obtain ⟨names', hstep, hrest⟩ := Option.bind_eq_some_iff.mp h
      have hc := ih hrest
      obtain ⟨lexeme, encoding⟩ := event
      cases lexeme with
      | start tag =>
          -- The rest closes one element more: the items up to its end tag are what is inside.
          cases hstep
          obtain ⟨items, closing, rest', rfl, hc'⟩ := hc
          have hitem := hc'.cons (.element tag items encoding closing)
          simpa [Item.events] using hitem
      | finish name =>
          cases names with
          | nil => cases hstep
          | cons expected outer =>
              simp only [Event.openAfter] at hstep
              split at hstep
              · next hname =>
                cases hstep
                exact ⟨[], encoding, rest, by rw [hname]; rfl, hc⟩
              · cases hstep
      | empty tag =>
          cases hstep
          exact hc.cons (.empty tag encoding)
      | text run =>
          cases hstep
          exact hc.cons (.text run encoding)
      | cdata body =>
          cases hstep
          exact hc.cons (.cdata body encoding)
      | comment body =>
          cases hstep
          exact hc.cons (.aside (.comment body) encoding)
      | instruction body =>
          cases hstep
          exact hc.cons (.aside (.instruction body) encoding)
      | declaration body =>
          cases hstep
          exact hc.cons (.aside (.declaration body) encoding)
      | doctype body =>
          cases hstep
          exact hc.cons (.aside (.doctype body) encoding)

/-- **Events in which every element is closed are the events of items.** -/
theorem exists_items {events : List Event} (h : openAfter [] events = some []) :
    ∃ items, events = Item.eventsAll items :=
  closes_of_openAfter h

end TierAudit.Markup
