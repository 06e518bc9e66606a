import TierAudit.Json

/-!
# Build information

What is known of how the program was built.
-/

namespace TierAudit

/-- The version of a program and where it comes from. -/
structure BuildInfo where
  version : String
  commit : Option String
  buildDate : Option String
  target : String
  /-- The version of the compiler. -/
  compiler : Option String
  deriving DecidableEq, Repr

namespace BuildInfo

/-- The name of the program. -/
def program : String := "bw-preflight"

/-- The name of the program and its version. -/
def heading (info : BuildInfo) : String := program ++ " " ++ info.version

/-- A line of its own for what is known, and nothing for what is not. -/
def line (label : String) : Option String → String
  | some value => "\n" ++ label ++ ": " ++ value
  | none => ""

/-- The information as a reader sees it. -/
def text (info : BuildInfo) : String :=
  info.heading ++ line "Commit" info.commit ++ line "Built" info.buildDate ++
    line "Target" (some info.target) ++ line "Rustc" info.compiler

/-- The information for programs; what is not known is null. -/
def toJson (info : BuildInfo) : Json := .object [
  ("version", .text info.version),
  ("commit", .ofOption (info.commit.map .text)),
  ("build_date", .ofOption (info.buildDate.map .text)),
  ("target", .text info.target),
  ("rustc_version", .ofOption (info.compiler.map .text))]

/-- The information on this program. -/
def current : BuildInfo := ⟨"0.1.0", none, none, "native", none⟩

end BuildInfo

end TierAudit
