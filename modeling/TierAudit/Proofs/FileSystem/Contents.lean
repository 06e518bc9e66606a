import TierAudit.Proofs.FileSystem.Alike
import TierAudit.Proofs.FileSystem.Canonical

/-!
# File system — what is in the files

Two file systems have the same layout if they differ in nothing but what is in their files
(`FileSystem.SameLayout`).  A path is then read alike if it leads to a file with the same content
(`FileSystem.SameLayout.read_congr`).  A tree with another content in one file has the same layout,
and the same in the other files (`Node.Rewrites.sameLayout`, `Node.Rewrites.contentAt?_eq`).
-/

namespace TierAudit

/-! ### Trees -/

namespace Node

/-- What can be seen of a node without reading it: what it is, and the names in it. -/
def outline (node : Node) : Form × List String := (node.form, node.entries.map Prod.fst)

/-- What is in a file. -/
def content? : Node → Option Bytes
  | file _ content => some content
  | _ => none

/-- What is in the file at a location. -/
def contentAt? (node : Node) (location : Location) : Option Bytes :=
  (node.at? location).bind content?

/-- Two trees have the same nodes, but for what is in the files. -/
def SameLayout (a b : Node) : Prop :=
  ∀ location, (a.at? location).map outline = (b.at? location).map outline

theorem SameLayout.alike {a b : Node} (h : a.SameLayout b) : a.Alike b := fun location => by
  have hform := congrArg (Option.map Prod.fst) (h location)
  rwa [Option.map_map, Option.map_map] at hform

/-! ### Another content -/

/-- A tree, and the same with another content in the file at a location. -/
inductive Rewrites : Node → Location → Node → Prop where
  | file (access : Access) (content content' : Bytes) :
      Rewrites (file access content) [] (file access content')
  | entry {access : Access} {front back : List (String × Node)} {name : String}
      {child child' : Node} {rest : Location} (hname : name ∉ front.map Prod.fst)
      (h : Rewrites child rest child') :
      Rewrites (directory access (front ++ (name, child) :: back)) (name :: rest)
        (directory access (front ++ (name, child') :: back))

namespace Rewrites
variable {a b : Node} {location other : Location}

theorem sameLayout (h : a.Rewrites location b) : a.SameLayout b := by
  induction h with
  | file access content content' =>
      intro other
      cases other <;> rfl
  | @entry access front back name child child' rest hname _ ih =>
      intro other
      cases other with
      | nil => simp [at?, outline, form, kind, Node.access, entries]
      | cons step steps =>
          rw [at?, at?, child?_entry hname, child?_entry hname]
          split
          · exact ih steps
          · rfl

/-- Nothing else is in the other files. -/
theorem contentAt?_eq (h : a.Rewrites location b) (hne : other ≠ location) :
    a.contentAt? other = b.contentAt? other := by
  induction h generalizing other with
  | file access content content' =>
      cases other with
      | nil => exact absurd rfl hne
      | cons step steps => rfl
  | @entry access front back name child child' rest hname _ ih =>
      cases other with
      | nil => rfl
      | cons step steps =>
          rw [contentAt?, contentAt?, at?, at?, child?_entry hname, child?_entry hname]
          by_cases hstep : step = name
          · subst hstep
            rw [if_pos rfl, if_pos rfl]
            exact ih fun heq => hne (congrArg _ heq)
          · rw [if_neg hstep, if_neg hstep]

end Rewrites
end Node

/-! ### File systems -/

namespace FileSystem

/-- Two file systems differ in nothing but what is in their files. -/
structure SameLayout (fs fs' : FileSystem) : Prop where
  root : fs.root.SameLayout fs'.root
  workingDirectory : fs.workingDirectory = fs'.workingDirectory

/-- What is in the file at a location. -/
def contentAt? (fs : FileSystem) (location : Location) : Option Bytes := fs.root.contentAt? location

section
variable {fs fs' : FileSystem} {path : Path} {location : Location}

theorem SameLayout.alike (h : fs.SameLayout fs') : fs.Alike fs' := ⟨h.root.alike, h.workingDirectory⟩

theorem contentAt?_of_nodeAt? {place : Place} {access : Access} {content : Bytes}
    (h : fs.nodeAt? place = some (.file access content)) :
    place = .ofLocation place.location ∧ fs.contentAt? place.location = some content := by
  unfold nodeAt? at h
  split at h
  · cases h
  · next hkept =>
    refine ⟨Place.eq_ofLocation (Bool.eq_false_iff.mpr hkept), ?_⟩
    rw [contentAt?, Node.contentAt?, h]
    rfl

/-- What is read at a path is what is in the file that it leads to. -/
theorem SameLayout.read_congr (h : fs.SameLayout fs')
    (hsame : ∀ location, fs.locate path = .ok (.ofLocation location) →
      fs.contentAt? location = fs'.contentAt? location) :
    fs'.read path = fs.read path := by
  unfold read
  rcases h.alike.cases_opened path with ⟨error, hopened, hopened'⟩ |
    ⟨place, node, node', hplace, hnode, hnode', hform, hopened, hopened'⟩
  · rw [hopened, hopened']
  · rw [hopened, hopened']
    rcases Node.cases_form hform with ⟨access, content, content', rfl, rfl⟩ |
      ⟨access, entries, entries', rfl, rfl⟩ | ⟨access, rfl, rfl⟩
    · obtain ⟨hlocation, hcontent⟩ := contentAt?_of_nodeAt? hnode
      obtain ⟨-, hcontent'⟩ := contentAt?_of_nodeAt? hnode'
      rw [hlocation] at hplace
      have hread := hsame _ hplace
      rw [hcontent, hcontent'] at hread
      cases hread
      rfl
    · rfl
    · rfl

/-- The names in a directory are the same, in the same order. -/
theorem SameLayout.list (h : fs.SameLayout fs') : fs'.list = fs.list := by
  funext path
  unfold FileSystem.list
  rw [← h.alike.locate]
  cases fs.locate path with
  | error error => rfl
  | ok place =>
      have houtline : (fs.nodeAt? place).map Node.outline = (fs'.nodeAt? place).map Node.outline := by
        unfold nodeAt?
        split
        · rfl
        · exact h.root place.location
      simp only [bind, Except.bind]
      rcases h.alike.cases_nodeAt? place with ⟨hnone, hnone'⟩ | ⟨node, node', hnode, hnode', hform⟩
      · rw [hnone, hnone']
      · rw [hnode, hnode'] at houtline
        have hnames := (Prod.mk.inj (Option.some.inj houtline)).2
        rw [hnode, hnode']
        rcases Node.cases_form hform with ⟨access, content, content', rfl, rfl⟩ |
          ⟨access, entries, entries', rfl, rfl⟩ | ⟨access, rfl, rfl⟩
        · rfl
        · have hsame : entries'.map (·.1) = entries.map (·.1) := hnames.symm
          simp only [hsame]
        · rfl

end
end FileSystem
end TierAudit
