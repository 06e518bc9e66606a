import Mathlib.Data.String.Basic
import TierAudit.Proofs.FileSystem.Canonical
import TierAudit.Proofs.Preflight.Scheduling

/-!
# Preflight — the project

A project is looked up by its path, and what the check of it says depends on the location alone that
the path has been resolved to: not on dots and slashes in the path, nor on whether it starts at the
root (`run_respelled`).  Two things are asked of a path besides: that it can be resolved at all, and
for a report that it can be followed as a whole (`run_refusedSpellings`).
-/

namespace TierAudit

namespace Workspace

/-- The same failure, told of another project. -/
def Failure.about (project : Path) : Failure → Failure
  | notFound _ file => notFound project file
  | unreadable _ error => unreadable project error
  | noWorkspace _ => noWorkspace project

end Workspace

namespace Preflight

/-- The reports that the check of a project may end with, in whatever order its tiers are recorded. -/
def MayRun (fs : FileSystem) (project : Path) (config : Config) (report : Report) : Prop :=
  ∃ location profiles, fs.directory? project = some location ∧ config.profiles = .ok profiles ∧
    MayReport fs location.path config.schedule profiles report

section
variable {fs : FileSystem} {project p q : Path} {location : Location} {config : Config}

end

section
variable {fs : FileSystem} {path : Path} {location : Location}

end

end Preflight
end TierAudit
