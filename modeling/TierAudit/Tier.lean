import TierAudit.Text.Blank
import TierAudit.Text.Case

/-!
# Tiers

The stages that an application is deployed to, each with a file of its own and a file of predefined
values to hold it against.
-/

namespace TierAudit
open Text

/-- A deployment stage. -/
inductive Tier where
  | dev4
  | it
  | pt
  | st
  | uat
  deriving DecidableEq, Repr

namespace Tier

/-- Every tier, in order of promotion. -/
def all : List Tier := [.dev4, .it, .pt, .st, .uat]

/-- The place of a tier in the order of promotion. -/
def rank : Tier → Nat
  | dev4 => 0
  | it => 1
  | pt => 2
  | st => 3
  | uat => 4

/-- How a tier is written. -/
def name : Tier → String
  | dev4 => "DEV4"
  | it => "IT"
  | pt => "PT"
  | st => "ST"
  | uat => "UAT"

/-- The file that holds the variables of a tier. -/
def fileName (tier : Tier) : String := tier.name ++ ".substvar"

/-- The file that holds the predefined values of a tier. -/
def baselineFileName (tier : Tier) : String := "predefined_" ++ tier.name ++ ".substvar"

/-- Credentials are checked by default on every tier but the development tier. -/
def checksCredentials (tier : Tier) : Bool := tier ≠ .dev4

/-- The tier that a text names, whatever the case of its letters and the blanks around it. -/
def ofText? (text : String) : Option Tier :=
  all.find? fun tier => equalsIgnoringCase (trim text) tier.name

theorem mem_all (tier : Tier) : tier ∈ all := by
  cases tier <;> decide

theorem rank_injective {a b : Tier} (h : a.rank = b.rank) : a = b := by
  cases a <;> cases b <;> simp_all [rank]

end Tier

/-- A name that is no tier's. -/
structure UnknownTier where
  text : String
  deriving DecidableEq, Repr

def UnknownTier.message (unknown : UnknownTier) : String :=
  "unknown tier '" ++ unknown.text ++ "' (expected one of DEV4, IT, PT, ST, UAT)"

/-- The tier that a text names, or the complaint that there is none. -/
def Tier.read (text : String) : Except UnknownTier Tier :=
  match ofText? text with
  | some tier => .ok tier
  | none => .error ⟨text⟩

end TierAudit
