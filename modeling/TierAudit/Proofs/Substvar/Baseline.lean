import TierAudit.Substvar.File

/-!
# Substitution variable files — baselines

A baseline has to be a regular file that can be opened (`FileSystem.Openable`), and the three ways in
which it may not be one have an error each (`cases_checkBaseline`).  All of them are errors of the
path; only a baseline that can be opened may have its content at fault
(`loadBaseline_of_openable`, `exists_loadBaseline_of_not_openable`).
-/

namespace TierAudit

/-- A path leads to a regular file, and the program may read it. -/
def FileSystem.Openable (fs : FileSystem) (path : Path) : Prop :=
  ∃ place access content, fs.locate path = .ok place ∧
    fs.nodeAt? place = some (.file access content) ∧ access.read = true

namespace Substvar
variable {fs : FileSystem} {path : Path}

theorem isFile_eq_true_iff :
    fs.isFile path = true ↔ ∃ place access content, fs.locate path = .ok place ∧
      fs.nodeAt? place = some (.file access content) := by
  unfold FileSystem.isFile FileSystem.node?
  cases fs.locate path with
  | error error => simp
  | ok place =>
      cases hnode : fs.nodeAt? place with
      | none => simp [hnode]
      | some node => cases node <;> simp [hnode, Node.isFile]

theorem isFile_of_openable (h : fs.Openable path) : fs.isFile path = true := by
  obtain ⟨place, access, content, hplace, hnode, -⟩ := h
  exact isFile_eq_true_iff.mpr ⟨place, access, content, hplace, hnode⟩

theorem pathExists_of_isFile (h : fs.isFile path = true) : fs.pathExists path = true := by
  obtain ⟨node, hnode, -⟩ := (Option.any_eq_true ..).mp h
  exact Option.isSome_iff_exists.mpr ⟨node, hnode⟩

/-- Opening tells of a regular file whether it may be read. -/
theorem exists_opened_iff (h : fs.isFile path = true) :
    (∃ node, fs.opened path = .ok node) ↔ fs.Openable path := by
  obtain ⟨place, access, content, hplace, hnode⟩ := isFile_eq_true_iff.mp h
  have hopened : fs.opened path =
      if access.read then .ok (.file access content) else .error .permissionDenied := by
    rw [FileSystem.opened, hplace]
    simp only [bind, Except.bind, hnode]
    rfl
  rw [hopened, FileSystem.Openable, hplace]
  cases hread : access.read <;> simp [hnode, hread]

/-- A baseline is accepted, or there is nothing there, or no regular file, or one that cannot be
opened. -/
theorem cases_checkBaseline (fs : FileSystem) (path : Path) :
    (checkBaseline fs path = .ok () ∧ fs.Openable path) ∨
      (checkBaseline fs path = .error (.missing path) ∧ fs.pathExists path = false) ∨
      (checkBaseline fs path = .error (.notAFile path) ∧ fs.pathExists path = true ∧
        fs.isFile path = false) ∨
      ∃ error, checkBaseline fs path = .error (.unreadable path error) ∧
        fs.isFile path = true ∧ ¬ fs.Openable path := by
  unfold checkBaseline
  cases hexists : fs.pathExists path with
  | false => exact .inr (.inl ⟨rfl, rfl⟩)
  | true =>
      cases hfile : fs.isFile path with
      | false => exact .inr (.inr (.inl ⟨rfl, rfl, rfl⟩))
      | true =>
          rw [← exists_opened_iff hfile]
          cases hopened : fs.opened path with
          | ok node => exact .inl ⟨rfl, node, rfl⟩
          | error error => exact .inr (.inr (.inr ⟨error, rfl, rfl, nofun⟩))

theorem checkBaseline_eq_ok_iff : checkBaseline fs path = .ok () ↔ fs.Openable path := by
  rcases cases_checkBaseline fs path with ⟨h, hopen⟩ | ⟨h, hnone⟩ | ⟨h, -, hfile⟩ | ⟨error, h, -, hopen⟩
  · exact ⟨fun _ => hopen, fun _ => h⟩
  · refine ⟨fun hok => (nomatch h.symm.trans hok), fun hopen => ?_⟩
    cases hnone.symm.trans (pathExists_of_isFile (isFile_of_openable hopen))
  · refine ⟨fun hok => (nomatch h.symm.trans hok), fun hopen => ?_⟩
    cases hfile.symm.trans (isFile_of_openable hopen)
  · exact ⟨fun hok => (nomatch h.symm.trans hok), fun hopen' => absurd hopen' hopen⟩

/-- Of a baseline that can be opened only the content can be at fault. -/
theorem loadBaseline_of_openable (h : fs.Openable path) :
    loadBaseline fs path = (load fs path).mapError .unparsable := by
  rw [loadBaseline, checkBaseline_eq_ok_iff.mpr h]
  rfl

/-- Otherwise it is the path. -/
theorem exists_loadBaseline_of_not_openable (h : ¬ fs.Openable path) :
    ∃ error, loadBaseline fs path = .error error ∧ error.isInvalidPath = true := by
  unfold loadBaseline
  rcases cases_checkBaseline fs path with ⟨-, hopen⟩ | ⟨hcheck, -⟩ | ⟨hcheck, -⟩ | ⟨error, hcheck, -⟩
  · exact absurd hopen h
  · exact ⟨.missing path, by rw [hcheck]; rfl, rfl⟩
  · exact ⟨.notAFile path, by rw [hcheck]; rfl, rfl⟩
  · exact ⟨.unreadable path error, by rw [hcheck]; rfl, rfl⟩

/-- A regular file whose variables are known has been opened. -/
theorem openable_of_load {vars : Variables} (hfile : fs.isFile path = true)
    (h : load fs path = .ok vars) : fs.Openable path := by
  rw [← exists_opened_iff hfile]
  unfold load FileSystem.read at h
  cases hopened : fs.opened path with
  | ok node => exact ⟨node, rfl⟩
  | error error =>
      rw [hopened] at h
      cases h

end Substvar
end TierAudit
