import TierAudit.Decimal
import TierAudit.Report.Ledger

/-!
# Report — for the terminal

The report as a reader sees it.  It is a sequence of pieces, some of them with a color; whether the
colors are shown does not change the text of any piece.
-/

namespace TierAudit.Terminal

/-- The colors of a terminal that are in use. -/
inductive Color where
  | red
  | green
  | yellow
  | gray
  deriving DecidableEq, Repr

/-- The parameter of a color in an escape sequence. -/
def Color.code : Color → String
  | red => "31"
  | green => "32"
  | yellow => "33"
  | gray => "90"

/-- A text in one color, or in that of the terminal. -/
structure Piece where
  color : Option Color
  text : String
  deriving DecidableEq, Repr

namespace Piece

/-- A text in the color of the terminal. -/
def plain (text : String) : Piece := ⟨none, text⟩

/-- The piece as it is sent to a terminal. -/
def render (showColors : Bool) (piece : Piece) : String :=
  match piece.color with
  | some color =>
    if showColors then "\x1b[" ++ color.code ++ "m" ++ piece.text ++ "\x1b[0m" else piece.text
  | none => piece.text

end Piece

/-- What to show. -/
structure View where
  /-- Show where the files are and how long the checks took. -/
  verbose : Bool
  /-- Leave out the tiers without findings. -/
  quiet : Bool
  deriving DecidableEq, Repr

/-- A line across the page. -/
def rule : String := String.ofList (List.replicate 80 '-')

/-- The indentation of what belongs to a tier. -/
def margin : String := "         "

def statusPiece : Status → Piece
  | .clean => ⟨some .green, "[PASS]"⟩
  | .warn => ⟨some .yellow, "[WARN]"⟩
  | .fail => ⟨some .red, "[FAIL]"⟩

/-- The mark in front of a finding. -/
def markPiece : Severity → Piece
  | .error => ⟨some .red, "x"⟩
  | .warning => ⟨some .yellow, "!"⟩

/-- What a tier's line ends with. -/
def headline (outcome : Outcome) : String :=
  if outcome.status = .clean then "all variables match"
  else toString outcome.findings.length ++ " finding(s)"

def findingPieces (finding : Finding) : List Piece :=
  [.plain margin, markPiece finding.severity, .plain (" " ++ finding.message ++ "\n")]

/-- The line of a tier, its file and its findings. -/
def tierPieces (view : View) (outcome : Outcome) : List Piece :=
  [.plain "  ", statusPiece outcome.status,
    .plain (" " ++ outcome.tier.name ++ " " ++ outcome.ruleKey ++ ": " ++ headline outcome)] ++
  (if view.verbose then
    [⟨some .gray, " (" ++ toString outcome.duration.toNat ++ "ms)"⟩] else []) ++
  [.plain "\n"] ++
  (match outcome.tierFile with
    | some file =>
      if view.verbose then [.plain margin, ⟨some .gray, file.text⟩, .plain "\n"] else []
    | none => []) ++
  outcome.findings.flatMap findingPieces

/-- Whether a tier is shown. -/
def isShown (view : View) (outcome : Outcome) : Bool :=
  !view.quiet || outcome.status ≠ .clean

/-- The section of the tiers, if there is one to show. -/
def tiersPieces (view : View) (outcomes : List Outcome) : List Piece :=
  match outcomes.filter (isShown view) with
  | [] => []
  | shown => .plain "TIER CHECKS\n" :: shown.flatMap (tierPieces view) ++ [.plain "\n"]

def exitText (exitCode : Nat) : String :=
  match exitCode with
  | 0 => "all tiers consistent"
  | 1 => "mismatches detected"
  | _ => "warnings detected"

def header (report : Report) : String :=
  rule ++ "\nbw-preflight substvar validation report\nProject: " ++ report.project.text ++
    "\nTimestamp: " ++ report.timestamp.toSeconds ++ "\n" ++ rule ++ "\n\n"

def countsLine (summary : Summary) : String :=
  "SUMMARY: " ++ toString summary.clean.toNat ++ " clean, " ++ toString summary.warned.toNat ++
    " warnings, " ++ toString summary.failed.toNat ++ " failed (" ++
    toString summary.errors.toNat ++ " errors, " ++ toString summary.warnings.toNat ++
    " warning findings)"

def footer (report : Report) : String :=
  rule ++ "\n" ++ countsLine report.summary ++ "\nTotal time: " ++
    Decimal.seconds 1 report.duration ++ "s\nExit code: " ++ toString report.summary.exitCode ++
    " (" ++ exitText report.summary.exitCode ++ ")\n" ++ rule

/-- The pieces of a report. -/
def pieces (view : View) (report : Report) : List Piece :=
  .plain (header report) :: tiersPieces view report.tiers ++ [.plain (footer report)]

/-- The report as it is sent to a terminal. -/
def render (showColors : Bool) (view : View) (report : Report) : String :=
  String.join ((pieces view report).map (·.render showColors))

end TierAudit.Terminal
