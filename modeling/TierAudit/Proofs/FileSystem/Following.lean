import TierAudit.FileSystem.Lookup
import TierAudit.Proofs.Except

/-!
# File system — where paths lead

The steps of a path have a destination, whether there is anything or not: `.` and what stands
between two slashes stay, `..` goes up (`destination`).  Both ways of following a path end there if
they end at all (`eq_destination_of_locate`, `destination_of_resolve`), and what has been found can
be got to from the root (`Standing`).
-/

namespace TierAudit

/-! ### Trees -/

namespace Node

section
variable {node child found : Node} {name : String} {start rest location : Location}

/-- A location is followed one part after the other. -/
theorem at?_append (node : Node) (start rest : Location) :
    node.at? (start ++ rest) = (node.at? start).bind (·.at? rest) := by
  induction start generalizing node with
  | nil => rfl
  | cons name names ih =>
      simp only [List.cons_append, at?]
      cases node.child? name with
      | none => rfl
      | some child => exact ih child

theorem at?_concat (node : Node) (location : Location) (name : String) :
    node.at? (location ++ [name]) = (node.at? location).bind (·.child? name) := by
  rw [at?_append]
  refine congrArg _ (funext fun parent => ?_)
  simp [at?]

/-- Only directories have entries. -/
theorem isDirectory_of_child? (h : (node.child? name).isSome = true) : node.isDirectory = true := by
  cases node with
  | directory access entries => rfl
  | file access content => cases h
  | device access => cases h

/-- What leads to a directory starts in one. -/
theorem isDirectory_of_at? (h : node.at? location = some found) (hfound : found.isDirectory = true) :
    node.isDirectory = true := by
  cases location with
  | nil =>
      cases h
      exact hfound
  | cons name rest =>
      obtain ⟨child, hchild, -⟩ := Option.bind_eq_some_iff.mp h
      exact isDirectory_of_child? (Option.isSome_iff_exists.mpr ⟨child, hchild⟩)

/-! ### Names in a tree -/

theorem areWellNamed_iff {entries : List (String × Node)} :
    areWellNamed entries = true ↔ (entries.map Prod.fst).Nodup ∧
      ∀ entry ∈ entries, IsName entry.1 ∧ entry.2.isWellNamed = true := by
  induction entries with
  | nil => simp [areWellNamed]
  | cons entry rest ih =>
      obtain ⟨name, node⟩ := entry
      simp only [areWellNamed, Bool.and_eq_true, decide_eq_true_eq, List.all_eq_true, ih,
        List.map_cons, List.nodup_cons, List.mem_map, List.forall_mem_cons, not_exists, not_and]
      constructor
      · rintro ⟨⟨⟨hname, hnew⟩, hnode⟩, hnodup, hrest⟩
        exact ⟨⟨hnew, hnodup⟩, ⟨hname, hnode⟩, hrest⟩
      · rintro ⟨⟨hnew, hnodup⟩, ⟨hname, hnode⟩, hrest⟩
        exact ⟨⟨⟨hname, hnew⟩, hnode⟩, hnodup, hrest⟩

theorem isWellNamed_iff :
    node.isWellNamed = true ↔ (node.entries.map Prod.fst).Nodup ∧
      ∀ entry ∈ node.entries, IsName entry.1 ∧ entry.2.isWellNamed = true := by
  cases node with
  | directory access entries => exact areWellNamed_iff
  | file access content => simp [isWellNamed, entries]
  | device access => simp [isWellNamed, entries]

theorem mem_entries_of_child? (h : node.child? name = some child) :
    (name, child) ∈ node.entries := by
  obtain ⟨entry, hentry, rfl⟩ := Option.map_eq_some_iff.mp h
  have hname := List.find?_some hentry
  rw [decide_eq_true_eq] at hname
  subst hname
  exact List.mem_of_find?_eq_some hentry

/-- In a tree with proper names every node is reached by proper names, and has such a tree below. -/
theorem isName_of_at? (hwell : node.isWellNamed = true) (h : node.at? location = some found) :
    (∀ name ∈ location, IsName name) ∧ found.isWellNamed = true := by
  induction location generalizing node with
  | nil =>
      cases h
      exact ⟨fun _ hname => absurd hname List.not_mem_nil, hwell⟩
  | cons name rest ih =>
      obtain ⟨child, hchild, hrest⟩ := Option.bind_eq_some_iff.mp h
      obtain ⟨hname, hbelow⟩ := (isWellNamed_iff.mp hwell).2 _ (mem_entries_of_child? hchild)
      obtain ⟨hnames, hfound⟩ := ih hbelow hrest
      exact ⟨List.forall_mem_cons.mpr ⟨hname, hnames⟩, hfound⟩

/-! ### Open ways -/

/-- A location can be got to if a part of it can, and the rest from there. -/
theorem leadsTo_append : node.leadsTo (start ++ rest) = true ↔
    node.leadsTo start = true ∧ ∃ found, node.at? start = some found ∧ found.leadsTo rest = true := by
  induction start generalizing node with
  | nil => simp [leadsTo, at?]
  | cons name names ih =>
      simp only [List.cons_append, leadsTo, at?, Bool.and_eq_true]
      cases node.child? name with
      | none => simp
      | some child => simp [ih, and_assoc]

theorem leadsTo_of_append (h : node.leadsTo (start ++ rest) = true) : node.leadsTo start = true :=
  (leadsTo_append.mp h).1

/-- From where one is, a name leads on if it may be looked up and there is an entry. -/
theorem leadsTo_concat : node.leadsTo (location ++ [name]) = true ↔
    node.leadsTo location = true ∧ ∃ found, node.at? location = some found ∧
      found.access.search = true ∧ (found.child? name).isSome = true := by
  rw [leadsTo_append]
  simp [leadsTo]

/-- There is something at a location that can be got to. -/
theorem exists_at?_of_leadsTo (h : node.leadsTo location = true) :
    ∃ found, node.at? location = some found := by
  rw [← List.append_nil location] at h
  obtain ⟨-, found, hfound, -⟩ := leadsTo_append.mp h
  exact ⟨found, hfound⟩

end

end Node

/-! ### Places -/

namespace Place

theorem advance_of_stays {step : String} (h : Path.stays step = true) (here : Place) :
    here.advance step = here :=
  if_pos h

theorem advance_of_namesEntry {step : String} (h : Path.namesEntry step = true) (here : Place) :
    here.advance step = here.child step := by
  simp only [Path.namesEntry, Bool.and_eq_true, Bool.not_eq_true', decide_eq_true_eq] at h
  rw [advance, if_neg (Bool.eq_false_iff.mp h.1), if_neg h.2]

/-- A step stays, goes up or names an entry. -/
theorem cases_step (step : String) :
    Path.stays step = true ∨ step = ".." ∨ Path.namesEntry step = true := by
  unfold Path.namesEntry
  cases Path.stays step <;> by_cases hup : step = ".." <;> simp [hup]

/-- No step leads from the files that are there to one that has been removed. -/
theorem isRemoved_advance {here : Place} (h : here.isRemoved = false) (step : String) :
    (here.advance step).isRemoved = false := by
  obtain ⟨location, removed⟩ := here
  obtain rfl : removed = 0 := by simpa [isRemoved] using h
  unfold advance
  split
  · rfl
  · split <;> rfl

theorem eq_ofLocation {place : Place} (h : place.isRemoved = false) :
    place = .ofLocation place.location := by
  obtain ⟨location, removed⟩ := place
  obtain rfl : removed = 0 := by simpa [isRemoved] using h
  rfl

end Place

namespace FileSystem

/-- A place is not removed and can be got to from the root. -/
structure Standing (fs : FileSystem) (place : Place) : Prop where
  kept : place.isRemoved = false
  led : fs.root.leadsTo place.location = true

/-- Where the steps of a path lead, whether there is anything or not. -/
def destination (fs : FileSystem) (path : Path) : Place :=
  path.steps.foldl Place.advance (fs.origin path)

section
variable {fs : FileSystem} {here there : Place} {step : String} {steps : List String}

/-! ### One step -/

/-- A step is taken in a directory; if it names an entry, this may be looked up and is there. -/
theorem next_eq_ok (h : fs.next here step = .ok there) :
    there = here.advance step ∧ ∃ node, fs.nodeAt? here = some node ∧
      node.isDirectory = true ∧ (Path.namesEntry step = true →
        node.access.search = true ∧ (node.child? step).isSome = true) := by
  unfold next at h
  split at h
  · cases h
  · next node hnode =>
    split at h
    · cases h
    · next hdirectory =>
      replace hdirectory : node.isDirectory = true := by simpa using hdirectory
      split at h
      · next hnames =>
        cases h
        exact ⟨rfl, node, hnode, hdirectory, fun hentry => by simp [hentry] at hnames⟩
      · split at h
        · cases h
        · next hsearch =>
          split at h
          · cases h
          · split at h
            · next hchild =>
              cases h
              exact ⟨rfl, node, hnode, hdirectory, fun _ => ⟨by simpa using hsearch, hchild⟩⟩
            · cases h

/-- Only steps that stand for a directory are refused without being tried. -/
theorem follow_eq_next (h : looksUp step = false) : fs.follow here step = fs.next here step := by
  simp [follow, h]

theorem next_of_follow (h : fs.follow here step = .ok there) : fs.next here step = .ok there := by
  simp only [follow] at h
  split at h
  · cases h
  · exact h

/-- From a place that can be got to a step leads to another one. -/
theorem Standing.next (h : fs.Standing here) (hnext : fs.next here step = .ok there) :
    fs.Standing there := by
  obtain ⟨hkept, hled⟩ := h
  obtain ⟨location, removed⟩ := here
  obtain rfl : removed = 0 := by simpa [Place.isRemoved] using hkept
  obtain ⟨rfl, node, hnode, -, hentry⟩ := next_eq_ok hnext
  rcases Place.cases_step step with hstays | rfl | hnames
  · rw [Place.advance_of_stays hstays]
    exact ⟨hkept, hled⟩
  · -- What is above a place leads to it.
    obtain ⟨last, hlast⟩ := location.dropLast_prefix
    rw [← hlast] at hled
    exact ⟨rfl, Node.leadsTo_of_append hled⟩
  · rw [Place.advance_of_namesEntry hnames]
    exact ⟨rfl, Node.leadsTo_concat.mpr ⟨hled, node, hnode, hentry hnames⟩⟩

/-! ### Many steps -/

/-- What is asked for to find out where a step leads: with a slash behind the name of what has to be
a directory. -/
def asked (here : Place) (step : String) (rest : List String) : Location :=
  let location := (here.advance step).location
  if Path.namesEntry step && asksForDirectory rest then location ++ [""] else location

theorem trace_cons_eq_ok_iff :
    fs.trace here (step :: steps) = .ok there ↔
      isInReach (asked here step steps) = true ∧ ∃ between, fs.next here step = .ok between ∧
        fs.root.leadsTo between.location = true ∧ fs.trace between steps = .ok there := by
  have hstep : fs.trace here (step :: steps) =
      if isInReach (asked here step steps) then
        fs.next here step >>= fun between =>
          if fs.root.leadsTo between.location then fs.trace between steps
          else .error .permissionDenied
      else .error .nameTooLong := rfl
  rw [hstep]
  by_cases hreach : isInReach (asked here step steps) = true
  · rw [if_pos hreach, bind_eq_ok_iff, and_iff_right hreach]
    refine exists_congr fun between => and_congr_right fun _ => ?_
    cases fs.root.leadsTo between.location <;> simp
  · rw [if_neg hreach]
    exact iff_of_false nofun fun h => hreach h.1

/-- Asking for each place on the way changes nothing about where the way leads. -/
theorem foldlM_next_of_trace (h : fs.trace here steps = .ok there) :
    steps.foldlM fs.next here = .ok there := by
  induction steps generalizing here with
  | nil => exact h
  | cons step rest ih =>
      obtain ⟨-, between, hnext, -, hrest⟩ := trace_cons_eq_ok_iff.mp h
      rw [List.foldlM_cons]
      exact bind_eq_ok_iff.mpr ⟨between, hnext, ih hrest⟩

/-- Nor does asking for all of it at once. -/
theorem foldlM_next_of_follow (h : steps.foldlM fs.follow here = .ok there) :
    steps.foldlM fs.next here = .ok there := by
  induction steps generalizing here with
  | nil => exact h
  | cons step rest ih =>
      rw [List.foldlM_cons] at h ⊢
      obtain ⟨between, hfollow, hrest⟩ := bind_eq_ok_iff.mp h
      exact bind_eq_ok_iff.mpr ⟨between, next_of_follow hfollow, ih hrest⟩

theorem foldlM_follow_eq_next (h : ∀ step ∈ steps, looksUp step = false) :
    steps.foldlM fs.follow here = steps.foldlM fs.next here := by
  induction steps generalizing here with
  | nil => rfl
  | cons step rest ih =>
      obtain ⟨hstep, hrest⟩ := List.forall_mem_cons.mp h
      simp only [List.foldlM_cons, follow_eq_next hstep, ih hrest]

/-- The steps of a way lead where they lead without anything there. -/
theorem eq_foldl_of_next (h : steps.foldlM fs.next here = .ok there) :
    there = steps.foldl Place.advance here := by
  induction steps generalizing here with
  | nil =>
      cases h
      rfl
  | cons step rest ih =>
      rw [List.foldlM_cons] at h
      obtain ⟨between, hnext, hrest⟩ := bind_eq_ok_iff.mp h
      obtain ⟨rfl, -⟩ := next_eq_ok hnext
      exact ih hrest

theorem isRemoved_foldl (h : here.isRemoved = false) :
    (steps.foldl Place.advance here).isRemoved = false := by
  induction steps generalizing here with
  | nil => exact h
  | cons step rest ih => exact ih (Place.isRemoved_advance h step)

theorem Standing.foldlM (h : fs.Standing here) (hnext : steps.foldlM fs.next here = .ok there) :
    fs.Standing there :=
  foldlM_keeps (fun _ _ _ _ hhere => hhere.next) h hnext

/-- Where a way leads can be got to from the root and asked for, wherever it starts. -/
theorem led_of_trace (hne : steps ≠ []) (h : fs.trace here steps = .ok there) :
    fs.root.leadsTo there.location = true ∧ isInReach there.location = true := by
  induction steps generalizing here with
  | nil => exact absurd rfl hne
  | cons step rest ih =>
      obtain ⟨hreach, between, hnext, hled, hrest⟩ := trace_cons_eq_ok_iff.mp h
      by_cases hend : rest = []
      · subst hend
        cases hrest
        obtain ⟨rfl, -⟩ := next_eq_ok hnext
        exact ⟨hled, by simpa [asked, asksForDirectory] using hreach⟩
      · exact ih hend hrest

end

/-! ### Paths -/

section
variable {fs : FileSystem} {path : Path} {place : Place} {location : Location}

theorem isDirectory_root (fs : FileSystem) : fs.root.isDirectory = true := by
  obtain ⟨node, hnode, hdirectory⟩ := (Option.any_eq_true _ _).mp fs.anchored
  exact Node.isDirectory_of_at? hnode hdirectory

/-- The names that lead to a place that can be got to are proper. -/
theorem Standing.names (h : fs.Standing place) : ∀ name ∈ place.location, IsName name := by
  obtain ⟨node, hnode⟩ := Node.exists_at?_of_leadsTo h.led
  exact (Node.isName_of_at? fs.wellNamed hnode).1

/-- A path that can be asked for is followed step by step. -/
theorem follow_of_locate (h : fs.locate path = .ok place) :
    '\x00' ∉ path.text.toList ∧ path.text.utf8ByteSize ≤ maxPath ∧
      path.steps.foldlM fs.follow (fs.origin path) = .ok place := by
  unfold locate at h
  split at h
  · cases h
  · next hnul =>
    split at h
    · cases h
    · split at h
      · cases h
      · next hsize => exact ⟨by simpa using hnul, Nat.not_lt.mp hsize, h⟩

/-- A path that is followed as a whole leads to its destination. -/
theorem eq_destination_of_locate (h : fs.locate path = .ok place) :
    place = fs.destination path :=
  eq_foldl_of_next (foldlM_next_of_follow (follow_of_locate h).2.2)

/-- The location of a path is found by following its steps one by one, from a place that is there. -/
theorem trace_of_resolve (h : fs.resolve path = .ok location) :
    '\x00' ∉ path.text.toList ∧ (fs.origin path).isRemoved = false ∧
      fs.trace (fs.origin path) path.steps = .ok (.ofLocation location) := by
  unfold resolve at h
  split at h
  · cases h
  · next hnul =>
    split at h
    · cases h
    · next horigin =>
      obtain ⟨found, hfound, rfl⟩ := map_eq_ok_iff.mp h
      simp only [Bool.or_eq_true, decide_eq_true_eq, not_or, Bool.not_eq_true] at horigin
      refine ⟨by simpa using hnul, horigin.2, ?_⟩
      have hkept : found.isRemoved = false := by
        rw [eq_foldl_of_next (foldlM_next_of_trace hfound)]
        exact isRemoved_foldl horigin.2
      rw [← Place.eq_ofLocation hkept]
      exact hfound

end

end FileSystem
end TierAudit
