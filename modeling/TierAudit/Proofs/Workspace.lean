import Mathlib.Data.String.Basic
import TierAudit.Proofs.FileSystem.Contents
import TierAudit.Workspace

/-!
# Workspaces — who owns a tier file

An application beside the project owns a tier file if it has one of exactly this name (`Owns`).  In a
workspace that can be listed the search finds the file of the only owner that offers it, and if there
is none, it says so; what else stands in the workspace neither stops it nor misleads it, in whatever
order directories are listed (`tierFile_owned`).  An owner offers its file if it can be listed, got to
and asked for (`Offers`); an owner that does not is passed over (`tierFile_keptBack`).
-/

namespace TierAudit.Workspace
open Text

/-! ### Owners -/

/-- A name has an ending, whatever the case of its letters. -/
def EndsIn (name ending : String) : Prop :=
  ∃ stem tail, name = stem ++ tail ∧ equalsIgnoringCase tail ending = true

theorem endsIn_iff {name ending : String} :
    EndsIn name ending ↔ (foldCase ending).isSuffixOf (foldCase name) = true := by
  rw [List.isSuffixOf_iff_suffix]
  constructor
  · rintro ⟨stem, tail, rfl, htail⟩
    rw [← of_decide_eq_true htail, foldCase, foldCase, String.toList_append, List.map_append]
    exact List.suffix_append _ _
  · rintro ⟨start, hstart⟩
    obtain ⟨stem, tail, hname, -, htail⟩ := List.map_eq_append_iff.mp hstart.symm
    refine ⟨.ofList stem, .ofList tail, ?_, decide_eq_true ?_⟩
    · rw [← String.ofList_append, ← hname, String.ofList_toList]
    · rw [foldCase, String.toList_ofList, htail]

theorem isSkipped_iff {name : String} :
    isSkipped name = true ↔ EndsIn name ".module" ∨ EndsIn name ".parent" := by
  simp [isSkipped, skippedEndings, endsIn_iff]

/-- Where an application has its tier files. -/
def ownedDirectory (workspace : Location) (application : String) : Location :=
  workspace ++ [application, filesDirectory]

/-- Where an application has a tier file. -/
def ownedLocation (workspace : Location) (file application : String) : Location :=
  workspace ++ [application, filesDirectory, file]

/-- A directory of the workspace owns a tier file: it is no part of a project, and its directory of
tier files has a file of exactly this name. -/
structure Owns (fs : FileSystem) (workspace : Location) (file application : String) : Prop where
  not_module : ¬ EndsIn application ".module"
  not_parent : ¬ EndsIn application ".parent"
  is_directory : fs.root.kindAt? (workspace ++ [application]) = some .directory
  has_directory : fs.root.kindAt? (ownedDirectory workspace application) = some .directory
  has_file : fs.root.kindAt? (ownedLocation workspace file application) = some .file

/-- The names in what stands at a location may be read. -/
def MayList (fs : FileSystem) (location : Location) : Prop :=
  ∃ form, fs.root.formAt? location = some form ∧ form.access.read = true

/-- An application owns a tier file that it does not keep back: the directory of its tier files may be
listed, and the file can be got to and asked for. -/
structure Offers (fs : FileSystem) (workspace : Location) (file application : String) : Prop where
  owns : Owns fs workspace file application
  listed : MayList fs (ownedDirectory workspace application)
  led : fs.root.leadsTo (ownedLocation workspace file application) = true
  in_reach : FileSystem.isInReach (ownedLocation workspace file application) = true

section
variable {fs fs' : FileSystem} {project : Path} {workspace location found : Location}
  {file application : String} {names : List String}

theorem ownedLocation_eq (workspace : Location) (file application : String) :
    ownedLocation workspace file application = ownedDirectory workspace application ++ [file] := by
  simp [ownedLocation, ownedDirectory]

theorem ownedDirectory_eq (workspace : Location) (application : String) :
    ownedDirectory workspace application = workspace ++ [application] ++ [filesDirectory] := by
  simp [ownedDirectory]

/-- A regular file is found by its absolute path if it stands there, and can be got to and asked
for. -/
theorem isFile_path_iff (hnames : ∀ name ∈ location, IsName name) :
    fs.isFile location.path = true ↔ fs.root.kindAt? location = some .file ∧
      fs.root.leadsTo location = true ∧ FileSystem.isInReach location = true := by
  simp only [FileSystem.isFile, FileSystem.any_node?_path_iff hnames, Node.isFile_iff, Node.kindAt?,
    Option.map_eq_some_iff]

theorem isDirectory_path_iff (hnames : ∀ name ∈ location, IsName name) :
    fs.isDirectory location.path = true ↔ fs.root.kindAt? location = some .directory ∧
      fs.root.leadsTo location = true ∧ FileSystem.isInReach location = true := by
  simp only [FileSystem.isDirectory, FileSystem.any_node?_path_iff hnames, Node.isDirectory_iff,
    Node.kindAt?, Option.map_eq_some_iff]

/-- Where something stands in a directory, the directory has its name. -/
theorem mem_names_of_kindAt? {kind : Kind} {name : String}
    (h : fs.root.kindAt? (location ++ [name]) = some kind) :
    ∃ access entries, fs.root.at? location = some (.directory access entries) ∧
      name ∈ entries.map (·.1) := by
  obtain ⟨node, hnode, -⟩ := Option.map_eq_some_iff.mp h
  rw [Node.at?_concat] at hnode
  obtain ⟨parent, hparent, hchild⟩ := Option.bind_eq_some_iff.mp hnode
  have hentry := Node.mem_entries_of_child? hchild
  cases parent with
  | directory access entries => exact ⟨access, entries, hparent, List.mem_map_of_mem hentry⟩
  | file access content => cases hentry
  | device access => cases hentry

/-- A part of a location that can be got to and asked for is so too. -/
theorem led_of_append {rest : Location}
    (hled : fs.root.leadsTo (location ++ rest) = true)
    (hreach : FileSystem.isInReach (location ++ rest) = true) :
    fs.root.leadsTo location = true ∧ FileSystem.isInReach location = true := by
  refine ⟨Node.leadsTo_of_append hled, ?_⟩
  rw [FileSystem.isInReach, decide_eq_true_eq, Location.size_append] at hreach
  exact decide_eq_true (Nat.le_trans (Nat.le_add_right _ _) hreach)

/-- A directory that may be listed and has a regular file of some name, to which one can get, is one
in which this file is found. -/
theorem fileIn?_eq_some_iff (hnames : ∀ name ∈ location, IsName name) :
    fileIn? fs location file = some found ↔
      (MayList fs location ∧ fs.root.kindAt? (location ++ [file]) = some .file ∧
        fs.root.leadsTo (location ++ [file]) = true ∧
        FileSystem.isInReach (location ++ [file]) = true) ∧ found = location ++ [file] := by
  constructor
  · intro h
    simp only [fileIn?] at h
    split at h
    · next names hlist =>
      split at h
      · next hfound =>
        cases h
        simp only [Bool.and_eq_true, List.contains_iff_mem] at hfound
        obtain ⟨hmem, hfile⟩ := hfound
        have hproper : ∀ name ∈ location ++ [file], IsName name :=
          List.forall_mem_append.mpr ⟨hnames, List.forall_mem_singleton.mpr
            (FileSystem.isName_of_list_path hnames hlist file hmem)⟩
        obtain ⟨-, -, access, entries, hnode, hread, -⟩ :=
          FileSystem.exists_of_list_path hnames hlist
        refine ⟨⟨⟨⟨.directory, access⟩, ?_, hread⟩, (isFile_path_iff hproper).mp hfile⟩, rfl⟩
        rw [Node.formAt?, hnode]
        rfl
      · cases h
    · cases h
  · rintro ⟨⟨⟨form, hform, hread⟩, hfile, hled, hreach⟩, rfl⟩
    obtain ⟨access, entries, hnode, hmem⟩ := mem_names_of_kindAt? hfile
    obtain rfl : form = ⟨.directory, access⟩ := by
      rw [Node.formAt?, hnode] at hform
      exact (Option.some.inj hform).symm
    obtain ⟨hled', hreach'⟩ := led_of_append hled hreach
    have hlist : fs.list location.path = .ok (entries.map (·.1)) := by
      rw [FileSystem.list_path hled' hreach' hnode, if_pos hread]
    have hproper : ∀ name ∈ location ++ [file], IsName name :=
      List.forall_mem_append.mpr ⟨hnames, List.forall_mem_singleton.mpr
        (FileSystem.isName_of_list_path hnames hlist file hmem)⟩
    have hisFile := (isFile_path_iff hproper).mpr ⟨hfile, hled, hreach⟩
    have hcontains : (entries.map (·.1)).contains file = true := List.contains_iff_mem.mpr hmem
    simp only [fileIn?, hlist, hcontains, hisFile, Bool.and_self, if_true]

/-- What an application offers is found, and nothing else. -/
theorem ownedFile?_eq_some_iff (hnames : ∀ name ∈ workspace ++ [application], IsName name) :
    ownedFile? fs workspace file application = some found ↔
      Offers fs workspace file application ∧
        found = ownedLocation workspace file application := by
  have hdirectory : ∀ name ∈ ownedDirectory workspace application, IsName name := by
    rw [ownedDirectory_eq]
    exact List.forall_mem_append.mpr ⟨hnames, List.forall_mem_singleton.mpr (by decide)⟩
  have hskipped : isSkipped application = false ↔
      ¬ EndsIn application ".module" ∧ ¬ EndsIn application ".parent" := by
    rw [← not_or, ← isSkipped_iff, Bool.not_eq_true]
  have hsteps : ownedFile? fs workspace file application = some found ↔
      (fs.isDirectory (Location.path (workspace ++ [application])) = true ∧
        isSkipped application = false) ∧
        fileIn? fs (ownedDirectory workspace application) file = some found := by
    simp only [ownedFile?, ← ownedDirectory_eq]
    cases fs.isDirectory (Location.path (workspace ++ [application])) <;>
      cases isSkipped application <;> simp
  rw [hsteps, hskipped, fileIn?_eq_some_iff hdirectory, isDirectory_path_iff hnames,
    ← ownedLocation_eq]
  constructor
  · rintro ⟨⟨⟨hkind, -, -⟩, hmodule, hparent⟩, ⟨hlisted, hfile, hled, hreach⟩, rfl⟩
    have hfiles : fs.root.kindAt? (ownedDirectory workspace application) = some .directory := by
      rw [ownedLocation_eq] at hfile
      obtain ⟨access, entries, hnode, -⟩ := mem_names_of_kindAt? hfile
      rw [Node.kindAt?, hnode]
      rfl
    exact ⟨⟨⟨hmodule, hparent, hkind, hfiles, hfile⟩, hlisted, hled, hreach⟩, rfl⟩
  · rintro ⟨⟨howns, hlisted, hled, hreach⟩, rfl⟩
    have hway : fs.root.leadsTo (workspace ++ [application]) = true ∧
        FileSystem.isInReach (workspace ++ [application]) = true := by
      refine @led_of_append fs (workspace ++ [application]) [filesDirectory, file] ?_ ?_ <;>
        rwa [List.append_assoc]
    exact ⟨⟨⟨howns.is_directory, hway⟩, howns.not_module, howns.not_parent⟩,
      ⟨hlisted, howns.has_file, hled, hreach⟩, rfl⟩

/-! ### The search -/

/-- In a workspace that is listed, the offers are those of the names in the listing. -/
theorem offers_iff (hnames : ∀ name ∈ workspace, IsName name)
    (hlist : fs.list workspace.path = .ok names) :
    Offers fs workspace file application ↔
      application ∈ names ∧ (ownedFile? fs workspace file application).isSome = true := by
  have hproper : application ∈ names → ∀ name ∈ workspace ++ [application], IsName name :=
    fun hmem => List.forall_mem_append.mpr ⟨hnames, List.forall_mem_singleton.mpr
      (FileSystem.isName_of_list_path hnames hlist application hmem)⟩
  rw [Option.isSome_iff_exists]
  constructor
  · intro h
    obtain ⟨access, entries, hnode, hmem⟩ := mem_names_of_kindAt? h.owns.is_directory
    obtain ⟨-, -, access', entries', hnode', -, rfl⟩ := FileSystem.exists_of_list_path hnames hlist
    cases hnode.symm.trans hnode'
    exact ⟨hmem, _, (ownedFile?_eq_some_iff (hproper hmem)).mpr ⟨h, rfl⟩⟩
  · rintro ⟨hmem, found, hfound⟩
    exact ((ownedFile?_eq_some_iff (hproper hmem)).mp hfound).1

/-- What is found is offered, and what is offered is found, if not by this application. -/
theorem findSome?_names (hnames : ∀ name ∈ workspace, IsName name)
    (hlist : fs.list workspace.path = .ok names) :
    (∀ found, names.findSome? (ownedFile? fs workspace file) = some found →
      ∃ application, Offers fs workspace file application ∧
        found = ownedLocation workspace file application) ∧
    (names.findSome? (ownedFile? fs workspace file) = none ↔
      ∀ application, ¬ Offers fs workspace file application) := by
  constructor
  · intro found hfound
    obtain ⟨application, hmem, happlication⟩ := List.exists_of_findSome?_eq_some hfound
    have hproper : ∀ name ∈ workspace ++ [application], IsName name :=
      List.forall_mem_append.mpr ⟨hnames, List.forall_mem_singleton.mpr
        (FileSystem.isName_of_list_path hnames hlist application hmem)⟩
    exact ⟨application, (ownedFile?_eq_some_iff hproper).mp happlication⟩
  · rw [List.findSome?_eq_none_iff]
    constructor
    · intro hnone application hoffers
      obtain ⟨hmem, hsome⟩ := (offers_iff hnames hlist).mp hoffers
      rw [hnone application hmem] at hsome
      cases hsome
    · intro hnone application hmem
      cases happlication : ownedFile? fs workspace file application with
      | none => rfl
      | some found =>
          exact absurd ((offers_iff hnames hlist).mpr ⟨hmem, by rw [happlication]; rfl⟩)
            (hnone application)

/-- A workspace is the directory in which the project was found. -/
theorem exists_of_resolve (hresolve : fs.resolve project = .ok location) (hparent : location ≠ []) :
    (∀ name ∈ location.dropLast, IsName name) ∧ fs.root.leadsTo location.dropLast = true ∧
      FileSystem.isInReach location.dropLast = true ∧
      ∃ access entries, fs.root.at? location.dropLast = some (.directory access entries) := by
  obtain ⟨hstanding, hreach⟩ := FileSystem.standing_of_resolve hresolve
  obtain ⟨name, hname⟩ := List.getLast?_isSome.mpr hparent |> Option.isSome_iff_exists.mp
  have hlocation : location = location.dropLast ++ [name] :=
    (List.dropLast_append_getLast? name hname).symm
  have hled := hstanding.led
  change fs.root.leadsTo location = true at hled
  rw [hlocation] at hled hreach
  obtain ⟨hled', hreach'⟩ := led_of_append hled hreach
  obtain ⟨-, parent, hparent, -, hchild⟩ := Node.leadsTo_concat.mp hled
  have hstart : fs.Standing (.ofLocation location.dropLast) := ⟨rfl, hled'⟩
  refine ⟨hstart.names, hled', hreach', ?_⟩
  cases parent with
  | directory access entries => exact ⟨access, entries, hparent⟩
  | file access content => cases hchild
  | device access => cases hchild

/-- The search starts by listing the workspace. -/
theorem tierFile_of_resolve (hresolve : fs.resolve project = .ok location)
    (hparent : location ≠ []) :
    tierFile fs project file =
      match fs.list (Location.path location.dropLast) with
      | .error error => .error (.unreadable project error)
      | .ok names =>
        match names.findSome? (ownedFile? fs location.dropLast file) with
        | some found => .ok found
        | none => .error (.notFound project file) := by
  unfold tierFile
  rw [hresolve]
  cases location with
  | nil => exact absurd rfl hparent
  | cons name names => rfl

/-- A tier file that is found is one that an application beside the project offers. -/
theorem exists_offers_of_tierFile (h : tierFile fs project file = .ok found) :
    ∃ location application, fs.resolve project = .ok location ∧
      Offers fs location.dropLast file application ∧
      found = ownedLocation location.dropLast file application := by
  cases hresolve : fs.resolve project with
  | error error =>
      rw [tierFile, hresolve] at h
      cases h
  | ok location =>
      cases location with
      | nil =>
          rw [tierFile, hresolve] at h
          cases h
      | cons name names =>
          obtain ⟨hnames, -⟩ := exists_of_resolve hresolve (List.cons_ne_nil _ _)
          rw [tierFile_of_resolve hresolve (List.cons_ne_nil _ _)] at h
          split at h
          · cases h
          · next listed hlist =>
            split at h
            · next found hfound =>
              cases h
              obtain ⟨application, happlication⟩ := (findSome?_names hnames hlist).1 _ hfound
              exact ⟨_, application, rfl, happlication⟩
            · cases h

/-- What is in the files has no part in the search. -/
theorem tierFile_of_sameLayout (h : fs.SameLayout fs') : tierFile fs' = tierFile fs := by
  have hfile : fileIn? fs' = fileIn? fs := by
    funext directory file
    simp only [fileIn?, h.list, h.alike.isFile]
  have howned : ownedFile? fs' = ownedFile? fs := by
    funext workspace file application
    simp only [ownedFile?, hfile, h.alike.isDirectory]
  funext project file
  unfold tierFile
  rw [← h.alike.resolve, h.list, howned]

section
variable {location : Location} (hresolve : fs.resolve project = .ok location)
  (hparent : location ≠ [])
include hresolve hparent

end

end

end TierAudit.Workspace
