/-!
# TOML — values

What a TOML document holds.  A table remembers how it came about, because that decides what may
still be added to it.
-/

namespace TierAudit.Toml

/-- How a table came about. -/
inductive Origin where
  /-- By a header of its own. -/
  | header
  /-- By the header of a table below it. -/
  | implied
  /-- By a dotted key. -/
  | dotted
  /-- As a value between braces. -/
  | inlined
  deriving DecidableEq, Repr

inductive Value where
  | text (s : String)
  | integer (n : Int)
  | boolean (b : Bool)
  /-- A number with a fraction or an exponent, as it is written. -/
  | float (source : String)
  /-- A date, a time or both, as it is written. -/
  | dateTime (source : String)
  | array (items : List Value)
  | table (origin : Origin) (entries : List (String × Value))
  /-- The tables that headers between double brackets have added to a list, the last one last. -/
  | tables (all : List (List (String × Value)))
  deriving Repr, Inhabited

/-- The keys of a table with their values, in the order in which they were added. -/
abbrev Entries := List (String × Value)

end TierAudit.Toml
