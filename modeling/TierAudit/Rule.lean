import TierAudit.Text.Column
import TierAudit.Tier

/-!
# Rules

The card of the rule that holds a tier's file against its baseline.
-/

namespace TierAudit

/-- What is known of a rule besides what it does. -/
structure Rule where
  key : String
  name : String
  description : String
  priority : String
  deriving DecidableEq, Repr

namespace Rule

/-- The rule of a tier, with or without the check of its credentials. -/
def ofTier (tier : Tier) (credentials : Bool) : Rule where
  key := tier.name ++ "SubstvarValidation"
  name := "Validate " ++ tier.fileName ++ " Variable Values with " ++ tier.baselineFileName
  description :=
    "Compares values of matching global variables between " ++ tier.fileName ++ " and " ++
      tier.baselineFileName ++ if credentials then " with omselect validation" else ""
  priority := "CRITICAL"

/-- The rules of all tiers, each with its default for credentials. -/
def all : List Rule := Tier.all.map fun tier => ofTier tier tier.checksCredentials

/-- The width of the column of keys in a listing. -/
def keyWidth : Nat := 24

/-- A rule on two lines: its key and name, and below the name what it does. -/
def entry (rule : Rule) : String :=
  "  " ++ Text.padRight keyWidth rule.key ++ " " ++ rule.name ++ "\n  " ++
    Text.blanks keyWidth ++ " " ++ rule.description ++ " [" ++ rule.priority ++ "]\n"

/-- The listing of all rules. -/
def listing : String := "Available rules:\n\n" ++ String.join (all.map entry)

end Rule

end TierAudit
