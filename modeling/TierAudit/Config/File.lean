import TierAudit.Config
import TierAudit.FileSystem.Lookup
import TierAudit.Text.Utf8
import TierAudit.Toml.Document

/-!
# Configuration — files

Reading the configuration from a TOML document.  Every setting has a type and none may be there that
is not known:

```text
baseline_dir = "/srv/gv"
parallel = true

[credentials]
alternate_identity = "omselect"

[tiers.DEV4]
baseline = "/srv/gv/dev/predefined_DEV4.substvar"
credential_rule = true
```
-/

namespace TierAudit.Config
open Toml

/-! ### Types of settings -/

/-- How a setting is read from a value. -/
abbrev Reader (α : Type) := Value → Option α

def readText : Reader String
  | .text s => some s
  | _ => none

def readPath : Reader Path := fun value => (readText value).map Path.mk

def readFlag : Reader Bool
  | .boolean b => some b
  | _ => none

def readCount : Reader Nat
  | .integer (.ofNat n) => some n
  | _ => none

def readTexts : Reader (List String)
  | .array items => items.mapM readText
  | _ => none

/-- The settings of a group by name.  A group is written as a table, or as an array of its first
settings in order. -/
def group? (names : List String) : Value → Option Entries
  | .table _ entries =>
    if entries.all fun entry => names.contains entry.1 then some entries else none
  | .array items => some (names.zip items)
  | .tables all => some (names.zip (all.map (.table .header ·)))
  | _ => none

/-- A setting that may be left out. -/
def optional? {α : Type} (entries : Entries) (name : String) (read : Reader α) :
    Option (Option α) :=
  match entries.get? name with
  | none => some none
  | some value => (read value).map some

/-! ### Groups of settings -/

/-- The settings of one tier. -/
def readTier : Reader TierSettings := fun value => do
  let entries ← group? ["baseline", "credential_rule", "exclusions", "enabled"] value
  return {
    baseline := ← optional? entries "baseline" readPath
    credentialRule := ← optional? entries "credential_rule" readFlag
    exclusions := ← optional? entries "exclusions" readTexts
    enabled := ← optional? entries "enabled" readFlag }

/-- The settings of tiers, each under the name it has in the file. -/
def readTiers : Reader (List (String × TierSettings))
  | .table _ entries => entries.mapM fun (name, value) => (readTier value).map (name, ·)
  | _ => none

/-- What a file says, before the names of its tiers are looked at. -/
structure FileSettings where
  config : Config
  tiers : List (String × TierSettings)

/-- The settings of a document; what is left out keeps its default. -/
def readSettings (root : Entries) : Option FileSettings := do
  let entries ← group? ["baseline_dir", "parallel", "fail_fast", "max_parallel", "credentials",
    "tiers"] (.table .header root)
  let credentials ← match entries.get? "credentials" with
    | none => some []
    | some value => group? ["prefix", "alternate_identity"] value
  let tiers ← match entries.get? "tiers" with
    | none => some []
    | some value => readTiers value
  let config : Config := {
    baselineDir := ← optional? entries "baseline_dir" readPath
    tiers := default.tiers
    connection := (← optional? credentials "prefix" readText).getD default.connection
    alternateIdentity :=
      (← optional? credentials "alternate_identity" readText).getD default.alternateIdentity
    selected := default.selected
    parallel := (← optional? entries "parallel" readFlag).getD default.parallel
    failFast := (← optional? entries "fail_fast" readFlag).getD default.failFast
    maxParallel := (← optional? entries "max_parallel" readCount).getD default.maxParallel }
  return { config, tiers }

/-! ### Tiers by name -/

/-- Adds the settings of a tier under a name in the file; of two names of one tier the later
wins. -/
def addTier (config : Config) (entry : String × TierSettings) : Except ConfigError Config :=
  match Tier.read entry.1 with
  | .ok tier => .ok (config.setTier tier (some entry.2))
  | .error unknown => .error (.unknownTier unknown)

/-- The configuration of a document.  The tiers are gone through in the order of their names. -/
def ofToml (path : Path) (text : String) : Except ConfigError Config :=
  match (Toml.read? text).bind readSettings with
  | none => .error (.malformed path)
  | some settings =>
    (settings.tiers.mergeSort fun a b => a.1 ≤ b.1).foldlM addTier settings.config

/-- The configuration of a file. -/
def load (fs : FileSystem) (path : Path) : Except ConfigError Config :=
  match fs.read path with
  | .error error => .error (.unreadable path error)
  | .ok bytes =>
    match Text.Utf8.decode? bytes with
    | none => .error (.notUtf8 path)
    | some text => ofToml path (String.ofList text)

end TierAudit.Config
