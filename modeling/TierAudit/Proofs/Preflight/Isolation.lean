import Mathlib.Data.List.Forall2
import TierAudit.Proofs.Preflight.Selection
import TierAudit.Proofs.Workspace

/-!
# Preflight — tiers are isolated

The check of a tier reads two files, the tier's own and its baseline (`Reads`, `reads_iff`).  So what
is in any other file has no part in its outcome, and whatever happens to the content of a file, in a
run that does not stop at failures only those tiers notice it that read this file (`run_isolated`).
-/

namespace TierAudit

namespace Substvar

section
variable {fs fs' : FileSystem} {path : Path}

/-- A file of the same content declares the same variables. -/
theorem load_congr (h : fs.SameLayout fs')
    (hsame : ∀ location, fs.locate path = .ok (.ofLocation location) →
      fs.contentAt? location = fs'.contentAt? location) :
    load fs' path = load fs path := by
  rw [load, load, h.read_congr hsame]

/-- A baseline is accepted, or is no good for the same reason, whatever is in it. -/
theorem checkBaseline_congr (h : fs.Alike fs') : checkBaseline fs' path = checkBaseline fs path := by
  rw [checkBaseline, checkBaseline, h.pathExists, h.isFile]
  rcases h.cases_opened path with ⟨error, hopened, hopened'⟩ | ⟨_, _, _, -, -, -, -, hopened, hopened'⟩
  · rw [hopened, hopened']
  · rw [hopened, hopened']

theorem loadBaseline_congr (h : fs.SameLayout fs')
    (hsame : ∀ location, fs.locate path = .ok (.ofLocation location) →
      fs.contentAt? location = fs'.contentAt? location) :
    loadBaseline fs' path = loadBaseline fs path := by
  rw [loadBaseline, loadBaseline, checkBaseline_congr h.alike, load_congr h hsame]

end

end Substvar

namespace Preflight

/-! ### What is read -/

/-- The check of a profile reads the file at a location: it is where the path of the tier file or of
the baseline leads. -/
def Reads (fs : FileSystem) (project : Path) (profile : Profile) (location : Location) : Prop :=
  ∃ path, fs.locate path = .ok (.ofLocation location) ∧
    (path = profile.baseline ∨
      ∃ found, Workspace.tierFile fs project profile.tier.fileName = .ok found ∧ path = found.path)

/-- Everything that the check of a profile reads has the same content in two file systems. -/
def ReadsSame (fs fs' : FileSystem) (project : Path) (profile : Profile) : Prop :=
  ∀ location, Reads fs project profile location →
    fs.contentAt? location = fs'.contentAt? location

section
variable {fs fs' : FileSystem} {project : Path} {profile : Profile} {profiles : List Profile}
  {location found changed : Location}

/-- The path of a tier file leads to the tier file. -/
theorem locate_tierFile
    (h : Workspace.tierFile fs project profile.tier.fileName = .ok found) :
    fs.locate found.path = .ok (.ofLocation found) := by
  obtain ⟨start, application, -, hoffers, rfl⟩ := Workspace.exists_offers_of_tierFile h
  exact FileSystem.locate_path ⟨rfl, hoffers.led⟩ hoffers.in_reach

theorem reads_iff :
    Reads fs project profile location ↔
      Workspace.tierFile fs project profile.tier.fileName = .ok location ∨
        fs.locate profile.baseline = .ok (.ofLocation location) := by
  constructor
  · rintro ⟨path, hpath, rfl | ⟨found, hfound, rfl⟩⟩
    · exact .inr hpath
    · rw [locate_tierFile hfound] at hpath
      cases hpath
      exact .inl hfound
  · rintro (hfound | hbaseline)
    · exact ⟨_, locate_tierFile hfound, .inr ⟨_, hfound, rfl⟩⟩
    · exact ⟨_, hbaseline, .inl rfl⟩

/-- A change of one file is none for who does not read it. -/
theorem readsSame_of_not_reads
    (hothers : ∀ location, location ≠ changed → fs.contentAt? location = fs'.contentAt? location)
    (h : ¬ Reads fs project profile changed) : ReadsSame fs fs' project profile :=
  fun location hreads => hothers location fun heq => h (heq ▸ hreads)

/-! ### One tier -/

/-- What the check of a tier says depends on the files that it reads. -/
theorem checkTier_congr (h : fs.SameLayout fs') (hsame : ReadsSame fs fs' project profile) :
    checkTier fs' project profile = checkTier fs project profile := by
  unfold checkTier
  rw [Workspace.tierFile_of_sameLayout h]
  cases hfound : Workspace.tierFile fs project profile.tier.fileName with
  | error failure => rfl
  | ok found =>
      have hfile := Substvar.load_congr h fun location hlocate =>
        hsame location ⟨_, hlocate, .inr ⟨found, hfound, rfl⟩⟩
      have hbaseline := Substvar.loadBaseline_congr h fun location hlocate =>
        hsame location ⟨_, hlocate, .inl rfl⟩
      simp only [hfile, hbaseline]

/-- Time is measured outside of a check. -/
theorem untimed_comp_checkTier (fs : FileSystem) (project : Path) :
    Outcome.untimed ∘ checkTier fs project = checkTier fs project := by
  funext profile
  rw [Function.comp_apply, checkTier]
  split <;> rfl

/-! ### Runs -/

/-- Two outcomes of one of the profiles, each in its file system.  They are the same if everything
is that the check of the profile reads. -/
def Corresponds (fs fs' : FileSystem) (project : Path) (profiles : List Profile)
    (outcome outcome' : Outcome) : Prop :=
  ∃ profile ∈ profiles, outcome = checkTier fs project profile ∧
    outcome' = checkTier fs' project profile ∧
    (ReadsSame fs fs' project profile → outcome = outcome')

theorem Corresponds.tier_eq {outcome outcome' : Outcome}
    (h : Corresponds fs fs' project profiles outcome outcome') : outcome.tier = outcome'.tier := by
  obtain ⟨profile, -, rfl, rfl, -⟩ := h
  rw [tier_checkTier, tier_checkTier]

/-- The outcomes of the profiles correspond one by one. -/
theorem forall₂_corresponds (h : fs.SameLayout fs') (project : Path) (profiles : List Profile) :
    List.Forall₂ (Corresponds fs fs' project profiles) (profiles.map (checkTier fs project))
      (profiles.map (checkTier fs' project)) := by
  rw [List.forall₂_map_left_iff, List.forall₂_map_right_iff, List.forall₂_same]
  exact fun profile hprofile =>
    ⟨profile, hprofile, rfl, rfl, fun hsame => (checkTier_congr h hsame).symm⟩

/-- A run that does not stop at failures has one outcome for each profile. -/
theorem MayReport.perm_all {schedule : Schedule} {report : Report}
    (h : MayReport fs project schedule profiles report) (hfast : schedule.failFast = false) :
    report.contents.Perm (profiles.map (checkTier fs project)) := by
  obtain ⟨ledger, timestamp, duration, hrecording, rfl⟩ := h
  have hagree := hrecording.agree
  rw [Schedule.Agree, Schedule.outcomes_run, Schedule.reach, hfast, if_neg Bool.false_ne_true,
    List.take_length, List.map_map, untimed_comp_checkTier] at hagree
  exact (ledger.byTier_perm.map Outcome.untimed).trans hagree

/-- Of runs in two file systems the outcomes correspond, in some order. -/
theorem exists_corresponds (h : fs.SameLayout fs') {outcomes outcomes' : List Outcome}
    (hperm : outcomes.Perm (profiles.map (checkTier fs project)))
    (hperm' : outcomes'.Perm (profiles.map (checkTier fs' project))) :
    ∃ ordered, List.Forall₂ (Corresponds fs fs' project profiles) outcomes ordered ∧
      ordered.Perm outcomes' := by
  obtain ⟨ordered, hordered, hmap⟩ :=
    List.perm_comp_forall₂ hperm (forall₂_corresponds h project profiles)
  exact ⟨ordered, hordered, hmap.trans hperm'.symm⟩

/-- Outcomes that stand in the order of the tiers correspond one by one. -/
theorem corresponds_of_holds (h : fs.SameLayout fs') {report report' : Report}
    (hholds : report.Holds (profiles.map (checkTier fs project)))
    (hholds' : report'.Holds (profiles.map (checkTier fs' project))) :
    List.Forall₂ (Corresponds fs fs' project profiles) report.contents report'.contents := by
  have hperm := hholds.perm
  have hperm' := hholds'.perm
  rw [List.map_map, untimed_comp_checkTier] at hperm hperm'
  obtain ⟨ordered, hordered, hperm⟩ := exists_corresponds h hperm hperm'
  have htiers : report.contents.map Outcome.tier = ordered.map Outcome.tier := by
    rw [← List.forall₂_eq_eq_eq, List.forall₂_map_left_iff, List.forall₂_map_right_iff]
    exact hordered.imp fun _ _ => Corresponds.tier_eq
  have hranks : ∀ outcomes : List Outcome, outcomes.Pairwise Outcome.Precedes ↔
      (outcomes.map Outcome.tier).Pairwise fun s t => s.rank < t.rank := fun outcomes => by
    rw [List.pairwise_map]
    rfl
  have hsorted : ordered.Pairwise Outcome.Precedes := by
    rw [hranks, ← htiers, ← hranks]
    exact hholds.sorted_contents
  rwa [Outcome.eq_of_perm hperm hsorted hholds'.sorted_contents] at hordered

end

/-- **Tiers are isolated.**  Of two file systems that differ in nothing but what is in their files:
the check of a profile reads its tier file and the file that its baseline denotes, and says the same
in both if these are the same.  So if one file has changed, nothing changes for a profile that does
not read it.  Two runs that do not stop at failures, in whatever batches and in whatever order the
tiers are recorded, have one outcome each for every profile, and these are the same unless a file
has changed that the profile reads; for distinct tiers they stand at the same places of the reports.
The check of a project fails in both file systems or in neither. -/
theorem run_isolated {fs fs' : FileSystem} (h : fs.SameLayout fs') :
    (∀ project profile location, Reads fs project profile location ↔
      Workspace.tierFile fs project profile.tier.fileName = .ok location ∨
        fs.locate profile.baseline = .ok (.ofLocation location)) ∧
    (∀ project profile, ReadsSame fs fs' project profile →
      checkTier fs' project profile = checkTier fs project profile) ∧
    (∀ changed,
      (∀ location, location ≠ changed → fs.contentAt? location = fs'.contentAt? location) →
        ∀ project profile, ¬ Reads fs project profile changed →
          ReadsSame fs fs' project profile) ∧
    (∀ project profiles schedule schedule' report report',
      schedule.failFast = false → schedule'.failFast = false →
      MayReport fs project schedule profiles report →
      MayReport fs' project schedule' profiles report' →
        (∃ ordered, List.Forall₂ (Corresponds fs fs' project profiles) report.contents ordered ∧
          ordered.Perm report'.contents) ∧
        ((profiles.map Profile.tier).Nodup →
          List.Forall₂ (Corresponds fs fs' project profiles) report.contents report'.contents)) ∧
    ∀ project (config : Config),
      (∀ timestamp duration failure,
        run fs project config timestamp duration = .error failure ↔
          run fs' project config timestamp duration = .error failure) ∧
      (config.failFast = false → ∀ report report',
        MayRun fs project config report → MayRun fs' project config report' →
          ∃ location profiles, fs.directory? project = some location ∧
            config.profiles = .ok profiles ∧
            List.Forall₂ (Corresponds fs fs' location.path profiles) report.contents
              report'.contents) := by
  refine ⟨fun project profile location => reads_iff,
    fun project profile => checkTier_congr h,
    fun changed hothers project profile => readsSame_of_not_reads hothers,
    fun project profiles schedule schedule' report report' hfast hfast' hreport hreport' =>
      ⟨exists_corresponds h (hreport.perm_all hfast) (hreport'.perm_all hfast'), fun hdistinct =>
        corresponds_of_holds h (hreport.holds_all hdistinct hfast)
          (hreport'.holds_all hdistinct hfast')⟩,
    fun project config => ⟨fun timestamp duration failure => ?_,
      fun hfast report report' hreport hreport' => ?_⟩⟩
  · unfold run
    rw [h.alike.directory?]
    cases fs'.directory? project <;> cases config.profiles <;> simp
  · obtain ⟨location, profiles, hlocation, hprofiles, -⟩ := id hreport
    have hlocation' : fs'.directory? project = some location := h.alike.directory? ▸ hlocation
    exact ⟨location, profiles, hlocation, hprofiles,
      corresponds_of_holds h (hreport.holds_all hlocation hprofiles hfast)
        (hreport'.holds_all hlocation' hprofiles hfast)⟩

/-- A workspace with the files of three tiers, of which one may be anything, and a baseline. -/
def threeTierFiles (content : Bytes) : FileSystem where
  root := workspaceTree [("b", nothingDeclared)] [("IT.substvar", nothingDeclared),
    ("PT.substvar", .file .full content), ("ST.substvar", nothingDeclared)]
  workingDirectory := .ofLocation []
  wellNamed := by rfl
  anchored := by rfl

theorem rewrites_threeTierFiles (content content' : Bytes) :
    (threeTierFiles content).root.Rewrites ["ws", "App", "META-INF", "PT.substvar"]
      (threeTierFiles content').root :=
  @Node.Rewrites.entry _ [("b", nothingDeclared)] [] "ws" _ _ _ (by decide)
    (@Node.Rewrites.entry _ [("App.module", .emptyDirectory)] [] "App" _ _ _ (by decide)
      (@Node.Rewrites.entry _ [] [] "META-INF" _ _ _ (by decide)
        (@Node.Rewrites.entry _ [("IT.substvar", nothingDeclared)] [("ST.substvar", nothingDeclared)]
          "PT.substvar" _ _ _ (by decide) (.file .full content content'))))

/-- The file of one tier, which is the baseline of another. -/
def sharedFile : Path := ⟨"/ws/App/META-INF/PT.substvar"⟩

/-- When the file is emptied, these two tiers fail.  The third one stays as it is. -/
theorem run_isolated_sharedFile :
    let before := threeTierFiles (Bytes.ofText "<r/>")
    let emptied := threeTierFiles []
    let profiles : List Profile := [.new .it ⟨"/b"⟩, .new .pt ⟨"/b"⟩, .new .st sharedFile]
    let project : Path := ⟨"/ws/App.module"⟩
    let check := checkTier before project
    let check' := checkTier emptied project
    let outcomes := (Schedule.run ⟨true, false, 2⟩ check profiles).outcomes
    let outcomes' := (Schedule.run ⟨false, false, 0⟩ check' profiles).outcomes
    before.SameLayout emptied ∧
      ¬ Reads before project (.new .it ⟨"/b"⟩) ["ws", "App", "META-INF", "PT.substvar"] ∧
      check' (.new .it ⟨"/b"⟩) = check (.new .it ⟨"/b"⟩) ∧
      outcomes.map Outcome.status = [.clean, .clean, .clean] ∧
      outcomes'.map Outcome.status = [.clean, .fail, .fail] := by
  intro before emptied profiles project check check' outcomes outcomes'
  have hrewrites := rewrites_threeTierFiles (Bytes.ofText "<r/>") []
  have hlayout : before.SameLayout emptied := ⟨hrewrites.sameLayout, rfl⟩
  have htier : Workspace.tierFile before project "IT.substvar" =
      .ok ["ws", "App", "META-INF", "IT.substvar"] := by
    decide +kernel
  have hreads : ¬ Reads before project (.new .it ⟨"/b"⟩)
      ["ws", "App", "META-INF", "PT.substvar"] := by
    rintro ⟨path, hpath, rfl | ⟨found, hfound, rfl⟩⟩
    · revert hpath
      decide +kernel
    · cases htier.symm.trans hfound
      revert hpath
      decide +kernel
  obtain ⟨-, hcheck, hsame, -⟩ := run_isolated hlayout
  exact ⟨hlayout, hreads,
    hcheck _ _ (hsame _ (fun _ hne => hrewrites.contentAt?_eq hne) _ _ hreads),
    by decide +kernel, by decide +kernel⟩

end Preflight
end TierAudit
