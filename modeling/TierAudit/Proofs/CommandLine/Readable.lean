import TierAudit.CommandLine.Command
import TierAudit.Proofs.Except

/-!
# Command line — values that can be read

What the words of a command line and the variables of the environment must look like for a command
to be read from them (`isReadable_of_read`): no argument with a value that cannot be read leads to a
command, and no variable either, unless an argument stands for it.
-/

namespace TierAudit.CommandLine
open Text

/-! ### Values -/

/-- Whether a setting takes a value. -/
def Setting.Takes : Setting → String → Prop
  | tier, text => ∃ tier, Tier.ofText? text = some tier
  | baseline, text => ∃ name path, assignment? text = some (name, path) ∧
      (∃ tier, Tier.ofText? name = some tier) ∧ trim path ≠ ""
  | baselineDir, text | config, text => text ≠ ""
  | format, text => ∃ format, Format.ofName? text = some format
  | maxParallel, text => ∃ n, Numeral.readSigned maxCount text.toList = .ok n

section
variable {argument text : String}

theorem ofText?_of_read {tier : Tier} (h : Tier.read text = .ok tier) :
    Tier.ofText? text = some tier := by
  unfold Tier.read at h
  split at h
  · next hread =>
    cases h
    exact hread
  · cases h

theorem ne_of_readPath {path : Path} (h : readPath argument text = .ok path) : text ≠ "" := by
  rintro rfl
  cases h

theorem takes_of_readFormat {format : Format} (h : readFormat argument text = .ok format) :
    Setting.format.Takes text := by
  unfold readFormat at h
  split at h
  · next hread => exact ⟨_, hread⟩
  · split at h <;> cases h

theorem takes_of_readBaseline {baseline : Tier × Path}
    (h : readBaseline argument text = .ok baseline) : Setting.baseline.Takes text := by
  have hread := mapError_eq_ok_iff.mp h
  unfold baselineOf at hread
  split at hread
  · cases hread
  · next name path hsides =>
    obtain ⟨tier, htier, hpath⟩ := bind_eq_ok_iff.mp hread
    refine ⟨name, path, hsides, ⟨tier, ofText?_of_read (mapError_eq_ok_iff.mp htier)⟩, ?_⟩
    intro hblank
    rw [if_pos hblank] at hpath
    cases hpath

/-- What may be given once is read when it is given. -/
theorem read_of_once {α : Type} {read : Reader α} {old value : Option α}
    (h : once read argument old text = .ok value) : ∃ a, read argument text = .ok a := by
  unfold once at h
  split at h
  · cases h
  · obtain ⟨a, ha, -⟩ := map_eq_ok_iff.mp h
    exact ⟨a, ha⟩

end

/-! ### Arguments -/

/-- The setting that an argument gives a value. -/
def Argument.setting? : Argument → Option Setting
  | attached setting _ | separate setting _ => some setting
  | flag _ | operand .. | wrong _ | misplaced _ => none

/-- An argument with a value that can be read. -/
def Argument.IsReadable : Argument → Prop
  | flag _ => True
  | attached setting text => setting.Takes text
  | separate setting value => ∃ text, value = some text ∧ setting.Takes text
  | operand _ text => text ≠ ""
  | wrong _ | misplaced _ => False

namespace Given

/-- Whether a variable of the environment is not asked for a setting. -/
def has (given : Given) : Setting → Bool
  | .baselineDir => given.baselineDir.isSome
  | .config => given.config.isSome
  | .format => given.format.isSome
  | .tier | .baseline | .maxParallel => false

variable {given given' : Given}

theorem takes_of_set {text : String} {setting : Setting} (h : given.set text setting = .ok given') :
    setting.Takes text := by
  cases setting with
  | tier =>
    obtain ⟨tier, htier, -⟩ := bind_eq_ok_iff.mp h
    exact ⟨tier, ofText?_of_read (mapError_eq_ok_iff.mp htier)⟩
  | baseline =>
    obtain ⟨baseline, hbaseline, -⟩ := bind_eq_ok_iff.mp h
    exact takes_of_readBaseline hbaseline
  | baselineDir | config =>
    obtain ⟨path, honce, -⟩ := bind_eq_ok_iff.mp h
    exact (read_of_once honce).elim fun _ hread => ne_of_readPath hread
  | format =>
    obtain ⟨format, honce, -⟩ := bind_eq_ok_iff.mp h
    exact (read_of_once honce).elim fun _ hread => takes_of_readFormat hread
  | maxParallel =>
    obtain ⟨count, honce, -⟩ := bind_eq_ok_iff.mp h
    exact (read_of_once honce).imp fun _ hread => mapError_eq_ok_iff.mp hread

/-- Giving a setting a value leaves the others as they are. -/
theorem has_of_set {text : String} {setting other : Setting}
    (h : given.set text setting = .ok given') (hhas : given'.has other = true) :
    given.has other = true ∨ setting = other := by
  cases setting <;> obtain ⟨value, -, hgiven⟩ := bind_eq_ok_iff.mp h <;> cases hgiven <;>
    cases other <;> simp_all [has]

variable {argument : Argument} {arguments : List Argument}

theorem isReadable_of_take (h : given.take argument = .ok given') : argument.IsReadable := by
  cases argument with
  | flag raised => trivial
  | attached setting text => exact takes_of_set (mapError_eq_ok_iff.mp h)
  | separate setting value =>
    cases value with
    | none => cases h
    | some text => exact ⟨text, rfl, takes_of_set (mapError_eq_ok_iff.mp h)⟩
  | operand label text =>
    obtain ⟨path, hpath, -⟩ := bind_eq_ok_iff.mp h
    exact ne_of_readPath (mapError_eq_ok_iff.mp hpath)
  | wrong error => cases h
  | misplaced text => cases h

theorem has_of_take {setting : Setting} (h : given.take argument = .ok given')
    (hhas : given'.has setting = true) :
    given.has setting = true ∨ argument.setting? = some setting := by
  cases argument with
  | flag raised =>
    have hsame : given'.has setting = given.has setting := by
      cases raised with
      | help | version => cases h
      | quiet | verbose | noColor | parallel | failFast =>
        simp only [take, raise] at h
        split at h
        · cases h
        · cases h
          rfl
    exact .inl (hsame ▸ hhas)
  | attached other text =>
    exact (has_of_set (mapError_eq_ok_iff.mp h) hhas).imp_right (congrArg some)
  | separate other value =>
    cases value with
    | none => cases h
    | some text => exact (has_of_set (mapError_eq_ok_iff.mp h) hhas).imp_right (congrArg some)
  | operand label text =>
    obtain ⟨path, -, hgiven⟩ := bind_eq_ok_iff.mp h
    cases hgiven
    exact .inl hhas
  | wrong error => cases h
  | misplaced text => cases h

/-- Taking arguments is taking the first and then the others. -/
theorem takeAll_cons (h : given.takeAll (argument :: arguments) = .ok given') :
    ∃ next, given.take argument = .ok next ∧ next.takeAll arguments = .ok given' := by
  unfold takeAll at h
  split at h
  · cases h
  · cases h
  · exact bind_eq_ok_iff.mp h

theorem isReadable_of_takeAll (h : given.takeAll arguments = .ok given') :
    ∀ argument ∈ arguments, argument.IsReadable := by
  induction arguments generalizing given with
  | nil => simp
  | cons argument arguments ih =>
      obtain ⟨next, hfirst, hrest⟩ := takeAll_cons h
      exact List.forall_mem_cons.mpr ⟨isReadable_of_take hfirst, ih hrest⟩

/-- What has been given was there before or has an argument of its own. -/
theorem has_of_takeAll {setting : Setting} (h : given.takeAll arguments = .ok given')
    (hhas : given'.has setting = true) :
    given.has setting = true ∨ ∃ argument ∈ arguments, argument.setting? = some setting := by
  induction arguments generalizing given with
  | nil =>
      cases h
      exact .inl hhas
  | cons argument arguments ih =>
      obtain ⟨next, hfirst, hrest⟩ := takeAll_cons h
      rcases ih hrest with hnext | ⟨found, hmem, hfound⟩
      · rcases has_of_take hfirst hnext with hgiven | hfound
        · exact .inl hgiven
        · exact .inr ⟨argument, List.mem_cons_self, hfound⟩
      · exact .inr ⟨found, List.mem_cons_of_mem _ hmem, hfound⟩

end Given

/-! ### The environment -/

/-- The settings that a variable may stand for. -/
def Setting.variables : List (Setting × String) :=
  [(.baselineDir, "BW_PREFLIGHT_BASELINE_DIR"), (.config, "BW_PREFLIGHT_CONFIG"),
    (.format, "BW_PREFLIGHT_FORMAT")]

section
variable {environment : Environment}

/-- A variable is read if nothing else has been given. -/
theorem read_of_fallback {α : Type} {read : Reader α} {argument name text : String}
    {old value : Option α} (h : fallback read argument environment name old = .ok value)
    (hold : old.isSome = false) (htext : environment.get? name = some text) :
    ∃ a, read argument text = .ok a := by
  cases old with
  | some a => cases hold
  | none =>
    simp only [fallback, htext] at h
    obtain ⟨a, ha, -⟩ := map_eq_ok_iff.mp h
    exact ⟨a, ha⟩

theorem takes_of_complete {given given' : Given} (h : given.complete environment = .ok given') :
    ∀ entry ∈ Setting.variables, given.has entry.1 = false →
      ∀ text, environment.get? entry.2 = some text → entry.1.Takes text := by
  obtain ⟨baselineDir, hbaselineDir, h⟩ := bind_eq_ok_iff.mp h
  obtain ⟨config, hconfig, h⟩ := bind_eq_ok_iff.mp h
  obtain ⟨format, hformat, -⟩ := bind_eq_ok_iff.mp h
  simp only [Setting.variables, List.forall_mem_cons, List.not_mem_nil, false_implies,
    implies_true, and_true]
  refine ⟨fun hhas text htext => ?_, fun hhas text htext => ?_, fun hhas text htext => ?_⟩
  · exact (read_of_fallback hbaselineDir hhas htext).elim fun _ hread => ne_of_readPath hread
  · exact (read_of_fallback hconfig hhas htext).elim fun _ hread => ne_of_readPath hread
  · exact (read_of_fallback hformat hhas htext).elim fun _ hread => takes_of_readFormat hread

end

/-! ### Commands -/

namespace Command

/-- The arguments in the words of a command line.  Help takes none. -/
def arguments : List String → List Argument
  | [] => []
  | word :: rest =>
    match CommandWord.ofText? word with
    | some .check => Argument.ofWords .check false rest
    | some .list | some .version => Argument.ofWords .nothing false rest
    | some .parse => Argument.ofWords .parse false rest
    | some .help => []
    | none => Argument.ofWords .bare false (word :: rest)

end Command

/-- Every argument has a value that can be read, and so has every variable that no argument stands
for. -/
structure IsReadable (environment : Environment) (arguments : List Argument) : Prop where
  isReadable : ∀ argument ∈ arguments, argument.IsReadable
  takes : ∀ entry ∈ Setting.variables, ∀ text, environment.get? entry.2 = some text →
    entry.1.Takes text ∨ ∃ argument ∈ arguments, argument.setting? = some entry.1

theorem Given.not_has_nothing (setting : Setting) : ¬ nothing.has setting = true := by
  cases setting <;> decide

namespace IsReadable
variable {environment : Environment} {arguments : List Argument} {given given' : Given}

/-- The environment is asked for what has not been given. -/
theorem of_complete (htake : Given.nothing.takeAll arguments = .ok given)
    (h : given.complete environment = .ok given') : IsReadable environment arguments where
  isReadable := Given.isReadable_of_takeAll htake
  takes entry hentry text htext := by
    cases hhas : given.has entry.1 with
    | false => exact .inl (takes_of_complete h entry hentry hhas text htext)
    | true =>
      exact .inr ((Given.has_of_takeAll htake hhas).resolve_left (Given.not_has_nothing entry.1))

/-- The environment is asked for everything. -/
theorem of_complete_nothing (htake : Given.nothing.takeAll arguments = .ok given)
    (h : Given.nothing.complete environment = .ok given') : IsReadable environment arguments where
  isReadable := Given.isReadable_of_takeAll htake
  takes entry hentry text htext :=
    .inl (takes_of_complete h entry hentry (Bool.eq_false_iff.mpr (Given.not_has_nothing entry.1))
      text htext)

end IsReadable

namespace Command
variable {environment : Environment} {words : List String} {command : Command}

theorem takeAll_of_readCheck {signature : Signature}
    (h : readCheck signature environment words = .ok command) :
    ∃ given given', Given.nothing.takeAll (Argument.ofWords signature false words) = .ok given ∧
      given.complete environment = .ok given' := by
  obtain ⟨given, htake, h⟩ := bind_eq_ok_iff.mp h
  obtain ⟨given', hcomplete, -⟩ := bind_eq_ok_iff.mp h
  exact ⟨given, given', htake, mapError_eq_ok_iff.mp hcomplete⟩

theorem takeAll_of_readBare {named : Command} (h : readBare named words = .ok command) :
    ∃ given, Given.nothing.takeAll (Argument.ofWords .nothing false words) = .ok given := by
  obtain ⟨given, htake, -⟩ := bind_eq_ok_iff.mp h
  exact ⟨given, htake⟩

theorem takeAll_of_readParse (h : readParse words = .ok command) :
    ∃ given, Given.nothing.takeAll (Argument.ofWords .parse false words) = .ok given := by
  obtain ⟨given, htake, -⟩ := bind_eq_ok_iff.mp h
  exact ⟨given, htake⟩

/-- A command with a name is read if what follows the name is and the environment makes sense. -/
theorem named_eq_ok_iff {named : Except Halt Command} :
    (do
      let command ← named
      let _ ← (Given.nothing.complete environment).mapError Halt.usage
      return command) = .ok command ↔
    named = .ok command ∧ ∃ given, Given.nothing.complete environment = .ok given := by
  simp only [bind_eq_ok_iff, mapError_eq_ok_iff]
  constructor
  · rintro ⟨read, hread, given, hgiven, hcommand⟩
    cases hcommand
    exact ⟨hread, given, hgiven⟩
  · rintro ⟨hread, given, hgiven⟩
    exact ⟨command, hread, given, hgiven, rfl⟩

/-- Whatever a command with a name takes, it asks the environment for everything. -/
theorem isReadable_of_named {named : Except Halt Command} {arguments : List Argument}
    (htaken : ∀ {command}, named = .ok command →
      ∃ given, Given.nothing.takeAll arguments = .ok given)
    (h : (do
      let command ← named
      let _ ← (Given.nothing.complete environment).mapError Halt.usage
      return command) = .ok command) : IsReadable environment arguments := by
  obtain ⟨hcommand, given', hcomplete⟩ := named_eq_ok_iff.mp h
  obtain ⟨given, htake⟩ := htaken hcommand
  exact .of_complete_nothing htake hcomplete

/-- **A command is read only from what can be read.** -/
theorem isReadable_of_read (h : read environment words = .ok command) :
    IsReadable environment (arguments words) := by
  cases words with
  | nil =>
    obtain ⟨given, given', htake, hcomplete⟩ := takeAll_of_readCheck h
    rw [Argument.ofWords] at htake
    exact .of_complete htake hcomplete
  | cons word rest =>
    simp only [read] at h
    unfold arguments
    cases hword : CommandWord.ofText? word with
    | none =>
      simp only [hword] at h ⊢
      obtain ⟨given, given', htake, hcomplete⟩ := takeAll_of_readCheck h
      exact .of_complete htake hcomplete
    | some name =>
      simp only [hword] at h ⊢
      cases name with
      | check =>
        refine isReadable_of_named (fun hread => ?_) h
        obtain ⟨given, -, htake, -⟩ := takeAll_of_readCheck hread
        exact ⟨given, htake⟩
      | list | version => exact isReadable_of_named takeAll_of_readBare h
      | parse => exact isReadable_of_named takeAll_of_readParse h
      | help => cases h

end Command
end TierAudit.CommandLine
