import Mathlib.Data.List.Nodup
import TierAudit.Config.File
import TierAudit.Proofs.Except
import TierAudit.Proofs.Toml.Unique

/-!
# Configuration — the tiers of a file

Which settings the tiers have that a file configures (`tiers_ofToml`).  A table of a TOML document has
no key twice, but two keys may be spellings of one tier.  Then the settings under the greatest name
are the ones that hold, and those under the others are lost, unless all are the same.
-/

namespace TierAudit.Config

variable {tier : Tier} {entries : List (String × TierSettings)}

/-! ### One tier after another -/

/-- The settings of a tier under its last name. -/
def last? (tier : Tier) : List (String × TierSettings) → Option TierSettings
  | [] => none
  | entry :: rest =>
    (last? tier rest).or (if Tier.ofText? entry.1 = some tier then some entry.2 else none)

theorem addTier_eq_ok_iff {config config' : Config} {entry : String × TierSettings} :
    addTier config entry = .ok config' ↔
      ∃ tier, Tier.ofText? entry.1 = some tier ∧ config' = config.setTier tier (some entry.2) := by
  unfold addTier Tier.read
  cases Tier.ofText? entry.1 with
  | none => simp
  | some tier => simp [eq_comm]

/-- A configuration in which entries replace the settings of the tiers that they name. -/
def replaceTiers (config : Config) (entries : List (String × TierSettings)) : Config :=
  { config with tiers := fun tier => (last? tier entries).or (config.tiers tier) }

theorem replaceTiers_cons {config : Config} {entry : String × TierSettings}
    {rest : List (String × TierSettings)} (h : Tier.ofText? entry.1 = some tier) :
    config.replaceTiers (entry :: rest) =
      (config.setTier tier (some entry.2)).replaceTiers rest := by
  have htiers : ∀ other, (last? other (entry :: rest)).or (config.tiers other) =
      (last? other rest).or ((config.setTier tier (some entry.2)).tiers other) := by
    intro other
    rw [last?, h, Option.or_assoc, setTier]
    by_cases hother : other = tier
    · simp [hother]
    · simp [hother, Ne.symm hother]
  simp only [replaceTiers, setTier, htiers]

/-- Tiers can be added if each entry names one, and then the last of those that name the same
holds. -/
theorem foldlM_addTier_eq_ok_iff {config config' : Config} :
    entries.foldlM addTier config = .ok config' ↔
      (∀ entry ∈ entries, ∃ tier, Tier.ofText? entry.1 = some tier) ∧
        config' = config.replaceTiers entries := by
  induction entries generalizing config with
  | nil => simp [pure, Except.pure, replaceTiers, last?, eq_comm]
  | cons entry rest ih =>
      rw [List.foldlM_cons, bind_eq_ok_iff, List.forall_mem_cons]
      constructor
      · rintro ⟨next, hnext, hrest⟩
        obtain ⟨tier, htier, rfl⟩ := addTier_eq_ok_iff.mp hnext
        obtain ⟨hnames, rfl⟩ := ih.mp hrest
        exact ⟨⟨⟨tier, htier⟩, hnames⟩, (replaceTiers_cons htier).symm⟩
      · rintro ⟨⟨⟨tier, htier⟩, hnames⟩, rfl⟩
        exact ⟨_, addTier_eq_ok_iff.mpr ⟨tier, htier, rfl⟩,
          ih.mpr ⟨hnames, replaceTiers_cons htier⟩⟩

/-! ### The greatest name -/

/-- Of the entries that name a tier, the one with the greatest name. -/
structure Wins (entries : List (String × TierSettings)) (tier : Tier)
    (entry : String × TierSettings) : Prop where
  mem : entry ∈ entries
  names : Tier.ofText? entry.1 = some tier
  greatest : ∀ other ∈ entries, Tier.ofText? other.1 = some tier → other.1 ≤ entry.1

/-- The order of the entries does not matter. -/
theorem wins_congr {entries' : List (String × TierSettings)} {entry : String × TierSettings}
    (h : ∀ other, other ∈ entries ↔ other ∈ entries') :
    Wins entries tier entry ↔ Wins entries' tier entry := by
  constructor
  · exact fun hw => ⟨(h _).mp hw.mem, hw.names, fun other ho => hw.greatest other ((h _).mpr ho)⟩
  · exact fun hw => ⟨(h _).mpr hw.mem, hw.names, fun other ho => hw.greatest other ((h _).mp ho)⟩

/-- Where no name stands twice only one entry can win. -/
theorem Wins.unique {entry other : String × TierSettings} (hnodup : (entries.map (·.1)).Nodup)
    (h : Wins entries tier entry) (h' : Wins entries tier other) : entry = other := by
  have hname : entry.1 = other.1 :=
    String.le_antisymm (h'.greatest _ h.mem h.names) (h.greatest _ h'.mem h'.names)
  exact List.inj_on_of_nodup_map hnodup h.mem h'.mem hname

theorem last?_eq_none_iff :
    last? tier entries = none ↔ ∀ entry ∈ entries, Tier.ofText? entry.1 ≠ some tier := by
  induction entries with
  | nil => simp [last?]
  | cons entry rest ih =>
      rw [last?, Option.or_eq_none_iff, ih, List.forall_mem_cons, and_comm]
      simp

/-- In the order of their names the last entry that names a tier wins. -/
theorem wins_of_last? {settings : TierSettings}
    (hsorted : entries.Pairwise fun a b => a.1 ≤ b.1) (h : last? tier entries = some settings) :
    ∃ name, Wins entries tier (name, settings) := by
  induction entries with
  | nil => cases h
  | cons entry rest ih =>
      obtain ⟨hfirst, hrest⟩ := List.pairwise_cons.mp hsorted
      rw [last?] at h
      cases hlast : last? tier rest with
      | some found =>
        rw [hlast] at h
        cases h
        obtain ⟨name, hwins⟩ := ih hrest hlast
        refine ⟨name, List.mem_cons_of_mem _ hwins.mem, hwins.names, ?_⟩
        exact List.forall_mem_cons.mpr ⟨fun _ => hfirst _ hwins.mem, hwins.greatest⟩
      | none =>
        rw [hlast, Option.none_or] at h
        split at h
        · next hnames =>
          cases h
          refine ⟨entry.1, List.mem_cons_self, hnames, ?_⟩
          refine List.forall_mem_cons.mpr ⟨fun _ => String.le_refl _, fun other ho hother => ?_⟩
          exact absurd hother (last?_eq_none_iff.mp hlast other ho)
        · cases h

theorem last?_eq_some_iff {settings : TierSettings}
    (hsorted : entries.Pairwise fun a b => a.1 ≤ b.1) (hnodup : (entries.map (·.1)).Nodup) :
    last? tier entries = some settings ↔ ∃ name, Wins entries tier (name, settings) := by
  constructor
  · exact wins_of_last? hsorted
  · rintro ⟨name, hwins⟩
    cases hlast : last? tier entries with
    | none => exact absurd hwins.names (last?_eq_none_iff.mp hlast _ hwins.mem)
    | some found =>
      obtain ⟨name', hwins'⟩ := wins_of_last? hsorted hlast
      cases hwins.unique hnodup hwins'
      rfl

/-! ### Reading a file -/

/-- The tiers are read under the keys that they have in the file. -/
theorem keys_of_readTiers {origin : Toml.Origin} {table : Toml.Entries}
    (h : readTiers (.table origin table) = some entries) :
    entries.map (·.1) = table.map (·.1) := by
  rw [readTiers] at h
  induction table generalizing entries with
  | nil =>
      cases h
      rfl
  | cons entry rest ih =>
      rw [List.mapM_cons] at h
      obtain ⟨first, hfirst, h⟩ := Option.bind_eq_some_iff.mp h
      obtain ⟨others, hothers, h⟩ := Option.bind_eq_some_iff.mp h
      obtain ⟨settings, -, rfl⟩ := Option.map_eq_some_iff.mp hfirst
      cases h
      rw [List.map_cons, List.map_cons, ih hothers]

theorem nodup_readTiers {value : Toml.Value} (hvalue : value.Unique)
    (h : readTiers value = some entries) : (entries.map (·.1)).Nodup := by
  cases value with
  | table origin table =>
    rw [keys_of_readTiers h]
    exact (Toml.Value.unique_table_iff.mp hvalue).keys
  | text _ | integer _ | boolean _ | float _ | dateTime _ | array _ | tables _ => cases h

/-- The tiers of a document are read from one of its tables, and are not configured yet. -/
theorem exists_of_readSettings {root : Toml.Entries} {settings : FileSettings}
    (h : readSettings root = some settings) :
    settings.config.tiers = (fun _ => none) ∧
      (settings.tiers = [] ∨
        ∃ value, root.get? "tiers" = some value ∧ readTiers value = some settings.tiers) := by
  obtain ⟨table, htable, hread⟩ := Option.bind_eq_some_iff.mp h
  have hsame : table = root := by
    rw [group?] at htable
    split at htable
    · exact (Option.some.inj htable).symm
    · cases htable
  subst hsame
  clear h htable
  -- The two groups may be left out, and the settings that are in neither are read after them.
  cases hcredentials : table.get? "credentials" <;> cases hvalue : table.get? "tiers" <;>
    simp only [hcredentials, hvalue] at hread <;>
    obtain ⟨credentials, -, hread⟩ := Option.bind_eq_some_iff.mp hread <;>
    obtain ⟨tiers, htiers, hread⟩ := Option.bind_eq_some_iff.mp hread <;>
    obtain ⟨baselineDir, -, hread⟩ := Option.bind_eq_some_iff.mp hread <;>
    obtain ⟨connection, -, hread⟩ := Option.bind_eq_some_iff.mp hread <;>
    obtain ⟨alternateIdentity, -, hread⟩ := Option.bind_eq_some_iff.mp hread <;>
    obtain ⟨parallel, -, hread⟩ := Option.bind_eq_some_iff.mp hread <;>
    obtain ⟨failFast, -, hread⟩ := Option.bind_eq_some_iff.mp hread <;>
    obtain ⟨maxParallel, -, hread⟩ := Option.bind_eq_some_iff.mp hread <;>
    cases hread
  case none.none | some.none =>
    exact ⟨rfl, .inl (Option.some.inj htiers).symm⟩
  case none.some | some.some =>
    exact ⟨rfl, .inr ⟨_, rfl, htiers⟩⟩

theorem nodup_of_readSettings {root : Toml.Entries} {settings : FileSettings}
    (hroot : root.Unique) (h : readSettings root = some settings) :
    (settings.tiers.map (·.1)).Nodup := by
  rcases (exists_of_readSettings h).2 with hnone | ⟨value, hvalue, htiers⟩
  · rw [hnone]
    exact List.nodup_nil
  · exact nodup_readTiers (hroot.get? hvalue) htiers

/-- What a text says, if it is a document of settings. -/
def settings? (text : String) : Option FileSettings := (Toml.read? text).bind readSettings

/-- The tiers in the order in which they are added. -/
def FileSettings.byName (settings : FileSettings) : List (String × TierSettings) :=
  settings.tiers.mergeSort fun a b => a.1 ≤ b.1

theorem FileSettings.mem_byName {settings : FileSettings} {entry : String × TierSettings} :
    entry ∈ settings.byName ↔ entry ∈ settings.tiers := List.mem_mergeSort

theorem FileSettings.pairwise_byName (settings : FileSettings) :
    settings.byName.Pairwise fun a b => a.1 ≤ b.1 := by
  have hpairwise : settings.byName.Pairwise fun a b => decide (a.1 ≤ b.1) = true :=
    List.pairwise_mergeSort (by simpa using fun _ _ _ _ _ _ => String.le_trans)
      (by simpa using fun _ _ _ _ => String.le_total _ _) settings.tiers
  exact hpairwise.imp of_decide_eq_true

theorem last?_byName_eq_some_iff {text : String} {settings : FileSettings} {found : TierSettings}
    (h : settings? text = some settings) :
    last? tier settings.byName = some found ↔ ∃ name, Wins settings.tiers tier (name, found) := by
  obtain ⟨root, hroot, hsettings⟩ := Option.bind_eq_some_iff.mp h
  have hnodup : (settings.byName.map (·.1)).Nodup :=
    ((List.mergeSort_perm _ _).map _).nodup_iff.mpr
      (nodup_of_readSettings (Toml.unique_read? hroot) hsettings)
  rw [last?_eq_some_iff settings.pairwise_byName hnodup]
  exact exists_congr fun name => wins_congr fun other => FileSettings.mem_byName

/-- A file is accepted if each of its names is a tier's, whether or not two are the same tier's. -/
theorem ofToml_eq_ok_iff {path : Path} {text : String} {config : Config} :
    ofToml path text = .ok config ↔
      ∃ settings, settings? text = some settings ∧
        (∀ entry ∈ settings.tiers, ∃ tier, Tier.ofText? entry.1 = some tier) ∧
        config = { settings.config with tiers := config.tiers } ∧
        ∀ tier found, config.tiers tier = some found ↔
          ∃ name, Wins settings.tiers tier (name, found) := by
  unfold ofToml
  rw [← settings?]
  cases hsettings : settings? text with
  | none => simp
  | some settings =>
    have hempty : settings.config.tiers = fun _ => none := by
      obtain ⟨root, -, hread⟩ := Option.bind_eq_some_iff.mp hsettings
      exact (exists_of_readSettings hread).1
    have hreplace : settings.config.replaceTiers settings.byName =
        { settings.config with tiers := fun tier => last? tier settings.byName } := by
      simp only [replaceTiers, hempty, Option.or_none]
    have hlast : ∀ tier found, last? tier settings.byName = some found ↔
        ∃ name, Wins settings.tiers tier (name, found) :=
      fun tier found => last?_byName_eq_some_iff hsettings
    simp only [Option.some.injEq, exists_eq_left']
    rw [← FileSettings.byName, foldlM_addTier_eq_ok_iff, hreplace]
    simp only [FileSettings.mem_byName]
    refine and_congr_right fun _ => ⟨?_, ?_⟩
    · rintro rfl
      exact ⟨rfl, hlast⟩
    · rintro ⟨hconfig, htiers⟩
      have hsame : config.tiers = fun tier => last? tier settings.byName :=
        funext fun tier => Option.ext fun found => (htiers tier found).trans (hlast tier found).symm
      rw [hconfig, hsame]

/-! ### What is kept -/

/-- A tier that is named has an entry that wins. -/
theorem exists_wins {text : String} {settings : FileSettings} {entry : String × TierSettings}
    (h : settings? text = some settings) (hmem : entry ∈ settings.tiers)
    (hnames : Tier.ofText? entry.1 = some tier) :
    ∃ name found, Wins settings.tiers tier (name, found) := by
  cases hlast : last? tier settings.byName with
  | none =>
    exact absurd hnames (last?_eq_none_iff.mp hlast entry (FileSettings.mem_byName.mpr hmem))
  | some found =>
    obtain ⟨name, hwins⟩ := (last?_byName_eq_some_iff h).mp hlast
    exact ⟨name, found, hwins⟩

/-- **The tiers of a file.**  A text is accepted if it is a document of settings in which every name
is a tier's.  A tier then has the settings under the greatest of its names, so that all that is
written is kept only where the spellings of one tier agree. -/
theorem tiers_ofToml (path : Path) (text : String) (config : Config) :
    (ofToml path text = .ok config ↔
      ∃ settings, settings? text = some settings ∧
        (∀ entry ∈ settings.tiers, ∃ tier, Tier.ofText? entry.1 = some tier) ∧
        config = { settings.config with tiers := config.tiers } ∧
        ∀ tier found, config.tiers tier = some found ↔
          ∃ name, Wins settings.tiers tier (name, found)) ∧
    ∀ settings, settings? text = some settings → ofToml path text = .ok config →
      ((∀ entry ∈ settings.tiers, ∀ tier, Tier.ofText? entry.1 = some tier →
          config.tiers tier = some entry.2) ↔
        ∀ entry ∈ settings.tiers, ∀ other ∈ settings.tiers,
          Tier.ofText? entry.1 = Tier.ofText? other.1 → entry.2 = other.2) := by
  refine ⟨ofToml_eq_ok_iff, fun settings hsettings hok => ?_⟩
  obtain ⟨settings', hsettings', hnames, -, htiers⟩ := ofToml_eq_ok_iff.mp hok
  cases hsettings.symm.trans hsettings'
  constructor
  · intro hkept entry he other ho hsame
    obtain ⟨tier, htier⟩ := hnames entry he
    have hboth := (hkept entry he tier htier).symm.trans (hkept other ho tier (hsame ▸ htier))
    exact Option.some.inj hboth
  · intro hagree entry he tier htier
    obtain ⟨name, found, hwins⟩ := exists_wins hsettings he htier
    rw [hagree entry he _ hwins.mem (htier.trans hwins.names.symm)]
    exact (htiers tier found).mpr ⟨name, hwins⟩

/-- A file that spells one tier in two ways. -/
def twoSpellings : String :=
  "[tiers.IT]\nbaseline = \"a\"\nenabled = false\n\n[tiers.it]\nbaseline = \"b\"\n"

theorem tiers_twoSpellings :
    (settings? twoSpellings).map FileSettings.tiers = some
      [("IT", ⟨some ⟨"a"⟩, none, none, some false⟩), ("it", ⟨some ⟨"b"⟩, none, none, none⟩)] := by
  decide +kernel

/-- It is accepted, and the tier that the first table switches off is checked. -/
theorem tiers_ofToml_twoSpellings :
    ∃ config settings, ofToml ⟨"config.toml"⟩ twoSpellings = .ok config ∧
      settings? twoSpellings = some settings ∧
      config.tiers .it = some ⟨some ⟨"b"⟩, none, none, none⟩ ∧
      ¬ ∀ entry ∈ settings.tiers, ∀ tier, Tier.ofText? entry.1 = some tier →
        config.tiers tier = some entry.2 := by
  obtain ⟨settings, hsettings, htiers⟩ := Option.map_eq_some_iff.mp tiers_twoSpellings
  have hsorted : settings.tiers.mergeSort (fun a b => a.1 ≤ b.1) = settings.tiers := by
    rw [htiers]
    exact List.mergeSort_of_pairwise (by decide)
  have hok : ofToml ⟨"config.toml"⟩ twoSpellings =
      .ok ((settings.config.setTier .it (some ⟨some ⟨"a"⟩, none, none, some false⟩)).setTier .it
        (some ⟨some ⟨"b"⟩, none, none, none⟩)) := by
    rw [ofToml, ← settings?, hsettings]
    simp only
    rw [hsorted, htiers]
    rfl
  refine ⟨_, settings, hok, hsettings, rfl, fun hkept => ?_⟩
  have hagree := ((tiers_ofToml _ _ _).2 _ hsettings hok).mp hkept
  rw [htiers] at hagree
  have hsame : Tier.ofText? "IT" = Tier.ofText? "it" := by decide +kernel
  have hlost := hagree _ List.mem_cons_self _ (List.mem_cons_of_mem _ List.mem_cons_self) hsame
  exact absurd hlost (by decide)

end TierAudit.Config
