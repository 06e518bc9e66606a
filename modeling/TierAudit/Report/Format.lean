import TierAudit.Report.Json
import TierAudit.Report.Junit
import TierAudit.Report.Terminal
import TierAudit.Text.Column
import TierAudit.Variables

/-!
# Report — formats

The three formats that reports and lists of variables are written in.
-/

namespace TierAudit

/-- A format of output. -/
inductive Format where
  | text
  | json
  | junit
  deriving DecidableEq, Repr

namespace Format

def all : List Format := [.text, .json, .junit]

def name : Format → String
  | text => "text"
  | json => "json"
  | junit => "junit"

/-- The format of a name. -/
def ofName? (name : String) : Option Format := all.find? (·.name = name)

end Format

/-- The report in a format.  Colors and views are for the terminal. -/
def Report.render (report : Report) (format : Format) (showColors : Bool) (view : Terminal.View) :
    String :=
  match format with
  | .text => Terminal.render showColors view report
  | .json => report.toJson.render .indented
  | .junit => Junit.render report

namespace Variables

def toJson (vars : Variables) : Json :=
  .object (vars.toList.map fun (name, value) => (name, .text value))

/-- The width of the column of names: the length in bytes of the longest. -/
def columnWidth (vars : Variables) : Nat :=
  vars.names.foldl (fun width name => max width name.utf8ByteSize) 0

/-- A variable on a line of its own. -/
def row (width : Nat) (entry : Variable) : String :=
  "  " ++ Text.padRight width entry.name ++ " = " ++ entry.value ++ "\n"

/-- The variables of a file as a table. -/
def toTable (vars : Variables) (file : Path) : String :=
  file.text ++ " (" ++ toString vars.size ++ " variables)\n" ++
    String.join (vars.entries.map (row vars.columnWidth))

/-- The variables of a file in a format.  There is no test to report, so the format of build servers
is the text. -/
def render (vars : Variables) (file : Path) (format : Format) : String :=
  match format with
  | .json => vars.toJson.render .indented
  | _ => vars.toTable file

end Variables

end TierAudit
