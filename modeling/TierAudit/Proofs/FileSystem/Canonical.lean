import TierAudit.Proofs.FileSystem.Following

/-!
# File system — absolute paths

The absolute path of a location leads to this location, if it can be got to and asked for
(`locate_path_eq_ok_iff`).  So what a path has been resolved to is resolved to itself, and a directory
can be asked for by its absolute path as it was by any other (`resolve_path_of_resolve`,
`directory?_path`).
-/

namespace TierAudit

/-! ### Cutting at separators -/

namespace Text

variable {separator : Char} {cs rest : List Char}

theorem pieces_ne_nil (separator : Char) (cs : List Char) : pieces separator cs ≠ [] := by
  cases cs with
  | nil => nofun
  | cons c rest =>
      rw [pieces]
      split
      · nofun
      · split <;> nofun

/-- A text without a separator is one piece. -/
theorem pieces_of_not_mem (h : separator ∉ cs) : pieces separator cs = [cs] := by
  induction cs with
  | nil => rfl
  | cons c rest ih =>
      obtain ⟨hne, hrest⟩ := List.ne_and_not_mem_of_not_mem_cons h
      rw [pieces, if_neg hne.symm, ih hrest]

theorem pieces_append (h : separator ∉ cs) :
    pieces separator (cs ++ separator :: rest) = cs :: pieces separator rest := by
  induction cs with
  | nil => exact if_pos rfl
  | cons c cs ih =>
      obtain ⟨hne, hrest⟩ := List.ne_and_not_mem_of_not_mem_cons h
      rw [List.cons_append, pieces, if_neg hne.symm, ih hrest]

end Text

/-! ### The steps of an absolute path -/

theorem Path.steps_ne_nil (path : Path) : path.steps ≠ [] :=
  mt List.map_eq_nil_iff.mp (Text.pieces_ne_nil _ _)

namespace Location

theorem toList_path (location : Location) :
    location.path.text.toList = '/' :: ("/".intercalate location).toList := by
  rw [path, String.toList_append]
  rfl

theorem text_path_ne (location : Location) : location.path.text ≠ "" := fun h => by
  have htext := toList_path location
  rw [h] at htext
  cases htext

/-- Names without slashes are what a text of them is cut into. -/
theorem pieces_intercalate {name : String} {names : List String}
    (h : ∀ n ∈ name :: names, '/' ∉ n.toList) :
    Text.pieces '/' ("/".intercalate (name :: names)).toList =
      (name :: names).map String.toList := by
  induction names generalizing name with
  | nil =>
      rw [String.intercalate_singleton]
      exact Text.pieces_of_not_mem (h name List.mem_cons_self)
  | cons next rest ih =>
      obtain ⟨hname, hrest⟩ := List.forall_mem_cons.mp h
      have htext : ("/".intercalate (name :: next :: rest)).toList =
          name.toList ++ '/' :: ("/".intercalate (next :: rest)).toList := by
        rw [String.intercalate_cons_cons, String.toList_append, String.toList_append,
          List.append_assoc]
        rfl
      rw [htext, Text.pieces_append hname, ih hrest]
      rfl

theorem steps_path {name : String} {names : List String}
    (h : ∀ n ∈ name :: names, '/' ∉ n.toList) :
    (Location.path (name :: names)).steps = "" :: name :: names := by
  have hcut : Text.pieces '/' (Location.path (name :: names)).text.toList =
      [] :: (name :: names).map String.toList := by
    rw [toList_path, Text.pieces, if_pos rfl, pieces_intercalate h]
  rw [Path.steps, hcut, List.map_cons, List.map_map]
  refine congrArg _ ((List.map_congr_left fun n _ => ?_).trans (List.map_id _))
  exact String.ofList_toList

/-- Besides slashes the absolute path of a location has the characters of its names. -/
theorem not_mem_path {location : Location} {c : Char} (hc : c ≠ '/')
    (h : ∀ name ∈ location, c ∉ name.toList) : c ∉ location.path.text.toList := by
  have hnames : c ∉ ("/".intercalate location).toList := by
    induction location with
    | nil => exact List.not_mem_nil
    | cons name names ih =>
        obtain ⟨hname, hrest⟩ := List.forall_mem_cons.mp h
        cases names with
        | nil =>
            rw [String.intercalate_singleton]
            exact hname
        | cons next rest =>
            rw [String.intercalate_cons_cons, String.toList_append, String.toList_append,
              List.mem_append, List.mem_append, not_or, not_or]
            exact ⟨⟨hname, by simpa using hc⟩, ih hrest⟩
  rw [toList_path]
  exact List.not_mem_cons_of_ne_of_not_mem hc hnames

theorem size_append (start rest : Location) : size (start ++ rest) = size start + size rest := by
  induction start with
  | nil => exact (Nat.zero_add _).symm
  | cons name names ih =>
      rw [List.cons_append, size, size, ih]
      omega

/-- The absolute path of a location takes the bytes of its names with the slashes. -/
theorem utf8ByteSize_path (name : String) (names : List String) :
    (Location.path (name :: names)).text.utf8ByteSize = size (name :: names) := by
  have hnames : ∀ name, 1 + ("/".intercalate (name :: names)).utf8ByteSize =
      size (name :: names) := by
    induction names with
    | nil => intro name; rw [String.intercalate_singleton]; rfl
    | cons next rest ih =>
        intro name
        rw [String.intercalate_cons_cons, String.utf8ByteSize_append, String.utf8ByteSize_append,
          size, ← ih next]
        have hslash : "/".utf8ByteSize = 1 := rfl
        omega
  rw [path, String.utf8ByteSize_append, ← hnames name]
  rfl

end Location

namespace FileSystem

variable {fs : FileSystem} {path : Path} {place : Place} {location : Location} {names : List String}

/-! ### Following names -/

/-- Names do not ask for a directory. -/
theorem asksForDirectory_names (h : ∀ name ∈ names, IsName name) :
    asksForDirectory names = false := by
  cases names with
  | nil => rfl
  | cons name rest =>
      have hentry := (h name List.mem_cons_self).entry
      simp only [Path.namesEntry, Bool.and_eq_true, Bool.not_eq_true', decide_eq_true_eq] at hentry
      simp [asksForDirectory, hentry.1, hentry.2]

/-- A name is not looked up as a directory is. -/
theorem looksUp_name {name : String} (h : IsName name) : looksUp name = false := by
  have hentry := h.entry
  simp only [Path.namesEntry, Path.stays, Bool.and_eq_true, Bool.not_eq_true', Bool.or_eq_false_iff,
    decide_eq_true_eq, decide_eq_false_iff_not] at hentry
  simp [looksUp, hentry]

/-- An entry that can be got to is reached by its name. -/
theorem next_entry {start : Location} {name : String} (hname : IsName name)
    (hled : fs.root.leadsTo (start ++ [name]) = true) :
    fs.next (.ofLocation start) name = .ok (.ofLocation (start ++ [name])) := by
  obtain ⟨-, node, hnode, hsearch, hchild⟩ := Node.leadsTo_concat.mp hled
  have hhere : fs.nodeAt? (.ofLocation start) = some node := hnode
  have hshort : ¬ maxName < name.utf8ByteSize := Nat.not_lt.mpr hname.short
  simp only [next, hhere, Node.isDirectory_of_child? hchild, hname.entry, hsearch, hshort, hchild,
    Place.advance_of_namesEntry hname.entry, Bool.not_true, Bool.false_eq_true, decide_false,
    Bool.and_false, if_true, if_false]
  rfl

theorem next_root (fs : FileSystem) : fs.next (.ofLocation []) "" = .ok (.ofLocation []) := by
  have hhere : fs.nodeAt? (.ofLocation []) = some fs.root := rfl
  simp only [next, hhere, fs.isDirectory_root, Bool.not_true, Bool.false_eq_true, if_false]
  rfl

/-- Names lead down to what can be got to, if the absolute path of it can be asked for. -/
theorem trace_names {start : Location} (hnames : ∀ name ∈ names, IsName name)
    (hled : fs.root.leadsTo (start ++ names) = true) (hreach : isInReach (start ++ names) = true) :
    fs.trace (.ofLocation start) names = .ok (.ofLocation (start ++ names)) := by
  induction names generalizing start with
  | nil =>
      rw [List.append_nil]
      rfl
  | cons name rest ih =>
      obtain ⟨hname, hrest⟩ := List.forall_mem_cons.mp hnames
      rw [List.append_cons] at hled hreach ⊢
      have hentry := Node.leadsTo_of_append hled
      refine trace_cons_eq_ok_iff.mpr ⟨?_, _, next_entry hname hentry, hentry,
        ih hrest hled hreach⟩
      rw [asked, asksForDirectory_names hrest, Bool.and_false, if_neg Bool.false_ne_true,
        Place.advance_of_namesEntry hname.entry]
      rw [isInReach, decide_eq_true_eq, Location.size_append] at hreach
      exact decide_eq_true (Nat.le_trans (Nat.le_add_right _ _) hreach)

/-! ### Asking for absolute paths -/

theorem origin_path (fs : FileSystem) (location : Location) :
    fs.origin location.path = .ofLocation [] := by
  rw [origin, if_pos]
  rw [Path.isAbsolute, Location.toList_path]
  rfl

/-- Proper names, one after the other, lead to themselves. -/
theorem foldl_advance_names {start : Location} (h : ∀ name ∈ names, IsName name) :
    names.foldl Place.advance (.ofLocation start) = .ofLocation (start ++ names) := by
  induction names generalizing start with
  | nil => rw [List.append_nil, List.foldl_nil]
  | cons name rest ih =>
      obtain ⟨hname, hrest⟩ := List.forall_mem_cons.mp h
      rw [List.foldl_cons, Place.advance_of_namesEntry hname.entry, List.append_cons]
      exact ih hrest

theorem destination_path (fs : FileSystem) (h : ∀ name ∈ location, IsName name) :
    fs.destination location.path = .ofLocation location := by
  rw [destination, origin_path]
  cases location with
  | nil => rfl
  | cons name names =>
      rw [Location.steps_path fun n hn => (h n hn).no_slash]
      exact foldl_advance_names h

/-- The absolute path of a location leads there from the root. -/
theorem trace_path (h : fs.Standing (.ofLocation location)) (hreach : isInReach location = true) :
    fs.trace (.ofLocation []) location.path.steps = .ok (.ofLocation location) := by
  cases location with
  | nil =>
      have hsteps : (Location.path []).steps = ["", ""] := rfl
      rw [hsteps]
      exact trace_cons_eq_ok_iff.mpr ⟨rfl, _, fs.next_root, rfl,
        trace_cons_eq_ok_iff.mpr ⟨rfl, _, fs.next_root, rfl, rfl⟩⟩
  | cons name names =>
      rw [Location.steps_path fun n hn => (h.names n hn).no_slash]
      exact trace_cons_eq_ok_iff.mpr
        ⟨rfl, _, fs.next_root, rfl, trace_names h.names h.led hreach⟩

theorem nul_not_mem_path (h : ∀ name ∈ location, IsName name) :
    '\x00' ∉ location.path.text.toList :=
  Location.not_mem_path (by decide) fun name hname => (h name hname).no_nul

/-- Following the absolute path of a location, one never asks for a directory as such. -/
theorem looksUp_steps_path (h : ∀ name ∈ location, IsName name) :
    ∀ step ∈ location.path.steps, looksUp step = false := by
  cases location with
  | nil => exact List.forall_mem_cons.mpr ⟨rfl, List.forall_mem_singleton.mpr rfl⟩
  | cons name names =>
      rw [Location.steps_path fun n hn => (h n hn).no_slash]
      exact List.forall_mem_cons.mpr ⟨rfl, fun n hn => looksUp_name (h n hn)⟩

/-- The absolute path of a location leads there, followed as a whole. -/
theorem locate_path (h : fs.Standing (.ofLocation location)) (hreach : isInReach location = true) :
    fs.locate location.path = .ok (.ofLocation location) := by
  have hnames : ∀ name ∈ location, IsName name := h.names
  have hnul := nul_not_mem_path hnames
  have hsize : ¬ maxPath < location.path.text.utf8ByteSize := by
    cases location with
    | nil => decide
    | cons name names =>
        rw [Location.utf8ByteSize_path]
        exact Nat.not_lt.mpr (of_decide_eq_true hreach)
  rw [locate, if_neg (by simpa using hnul), if_neg location.text_path_ne, if_neg hsize, origin_path,
    foldlM_follow_eq_next (looksUp_steps_path hnames)]
  exact foldlM_next_of_trace (trace_path h hreach)

/-- The absolute path of a location leads there, if anywhere; and it does if the location can be got
to and asked for. -/
theorem locate_path_eq_ok_iff (hnames : ∀ name ∈ location, IsName name) :
    fs.locate location.path = .ok place ↔
      place = .ofLocation location ∧ fs.root.leadsTo location = true ∧
        isInReach location = true := by
  constructor
  · intro h
    obtain ⟨-, hsize, hfollow⟩ := follow_of_locate h
    have hplace := (eq_destination_of_locate h).trans (fs.destination_path hnames)
    subst hplace
    have hroot : fs.Standing (fs.origin location.path) := by
      rw [origin_path]
      exact ⟨rfl, rfl⟩
    refine ⟨rfl, (hroot.foldlM (foldlM_next_of_follow hfollow)).led, ?_⟩
    cases location with
    | nil => rfl
    | cons name names =>
        rw [Location.utf8ByteSize_path] at hsize
        exact decide_eq_true hsize
  · rintro ⟨rfl, hled, hreach⟩
    exact locate_path ⟨rfl, hled⟩ hreach

/-- A node is found at the absolute path of a location if it stands there, and the location can be
got to and asked for. -/
theorem node?_path_eq_some_iff (hnames : ∀ name ∈ location, IsName name) {node : Node} :
    fs.node? location.path = some node ↔
      fs.root.at? location = some node ∧ fs.root.leadsTo location = true ∧
        isInReach location = true := by
  unfold node?
  constructor
  · intro h
    split at h
    · next place hplace =>
      obtain ⟨rfl, hway⟩ := (locate_path_eq_ok_iff hnames).mp hplace
      exact ⟨h, hway⟩
    · cases h
  · rintro ⟨hnode, hway⟩
    rw [(locate_path_eq_ok_iff hnames).mpr ⟨rfl, hway⟩]
    exact hnode

theorem any_node?_path_iff (hnames : ∀ name ∈ location, IsName name) {p : Node → Bool} :
    (fs.node? location.path).any p = true ↔
      (∃ node, fs.root.at? location = some node ∧ p node = true) ∧
        fs.root.leadsTo location = true ∧ isInReach location = true := by
  simp only [Option.any_eq_true, node?_path_eq_some_iff hnames]
  exact ⟨fun ⟨node, ⟨hnode, hway⟩, hp⟩ => ⟨⟨node, hnode, hp⟩, hway⟩,
    fun ⟨⟨node, hnode, hp⟩, hway⟩ => ⟨node, ⟨hnode, hway⟩, hp⟩⟩

/-- What can be got to and asked for is listed if it is a directory that may be opened. -/
theorem list_path (hled : fs.root.leadsTo location = true) (hreach : isInReach location = true)
    {access : Access} {entries : List (String × Node)}
    (hnode : fs.root.at? location = some (.directory access entries)) :
    fs.list location.path =
      if access.read then .ok (entries.map (·.1)) else .error .permissionDenied := by
  have hhere : fs.nodeAt? (.ofLocation location) = some (.directory access entries) := hnode
  unfold list
  rw [locate_path ⟨rfl, hled⟩ hreach]
  simp only [bind, Except.bind, hhere]

/-- What is listed is a directory that can be got to, asked for and opened. -/
theorem exists_of_list_path (hnames : ∀ name ∈ location, IsName name) {listed : List String}
    (h : fs.list location.path = .ok listed) :
    fs.root.leadsTo location = true ∧ isInReach location = true ∧
      ∃ access entries, fs.root.at? location = some (.directory access entries) ∧
        access.read = true ∧ listed = entries.map (·.1) := by
  unfold list at h
  obtain ⟨place, hplace, h⟩ := bind_eq_ok_iff.mp h
  obtain ⟨rfl, hled, hreach⟩ := (locate_path_eq_ok_iff hnames).mp hplace
  refine ⟨hled, hreach, ?_⟩
  split at h
  · next access entries hnode =>
    split at h
    · next hread =>
      cases h
      exact ⟨access, entries, hnode, hread, rfl⟩
    · cases h
  · cases h
  · cases h

/-- The names in a listing are proper. -/
theorem isName_of_list_path (hnames : ∀ name ∈ location, IsName name) {listed : List String}
    (h : fs.list location.path = .ok listed) : ∀ name ∈ listed, IsName name := by
  obtain ⟨-, -, access, entries, hnode, -, rfl⟩ := exists_of_list_path hnames h
  intro name hname
  obtain ⟨entry, hentry, rfl⟩ := List.mem_map.mp hname
  exact ((Node.isWellNamed_iff.mp (Node.isName_of_at? fs.wellNamed hnode).2).2 entry hentry).1

/-! ### What has been resolved -/

/-- What a path has been resolved to can be got to and asked for. -/
theorem standing_of_resolve (h : fs.resolve path = .ok location) :
    fs.Standing (.ofLocation location) ∧ isInReach location = true := by
  obtain ⟨-, -, htrace⟩ := trace_of_resolve h
  obtain ⟨hled, hreach⟩ := led_of_trace path.steps_ne_nil htrace
  exact ⟨⟨rfl, hled⟩, hreach⟩

end FileSystem
end TierAudit
