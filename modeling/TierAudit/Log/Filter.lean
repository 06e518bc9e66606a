import TierAudit.Log.Directive

/-!
# Log — filters

Which entries are shown.  A filter is a list of directives with commas between them, and of those
that concern an entry the most specific one decides.
-/

namespace TierAudit.Log
open Text

/-- The rules on which entries are shown. -/
abbrev Filter := List Directive

namespace Filter

/-- The filter of a text, if all of it are directives. -/
def read (text : String) : Except Fault Filter :=
  ((pieces ',' text.toList).filter (!·.isEmpty)).mapM Directive.read

/-- The directive that decides on an entry: of equally specific ones the last. -/
def deciding? (filter : Filter) (entry : Entry) : Option Directive :=
  (filter.filter (·.concerns entry)).foldl (fun best directive =>
    match best with
    | some best => if directive.isLess best then some best else some directive
    | none => some directive) none

def admits (filter : Filter) (entry : Entry) : Bool :=
  (filter.deciding? entry).any (·.admits entry)

end Filter

/-- The entries that a filter admits, as they are written. -/
def render (showStyles : Bool) (filter : Filter) (time : Timestamp) (entries : List Entry) :
    String :=
  String.join ((entries.filter filter.admits).map (Entry.render showStyles time))

end TierAudit.Log
